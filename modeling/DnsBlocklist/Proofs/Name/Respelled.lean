import DnsBlocklist.Proofs.Text.LetterCase

/-! Names read from texts that differ in letter case. One text is a name if the other is, and the names
differ in letter case as well. -/

namespace DnsBlocklist
set_option autoImplicit false

namespace Label

theorem ofBytes?_of_map_lowerByte_eq {as bs : Bytes} (h : as.map lowerByte = bs.map lowerByte)
    {l : Label} (hl : ofBytes? as = some l) : ∃ k, ofBytes? bs = some k ∧ l.lower = k.lower := by
  have hlen : as.length = bs.length := by
    have hlen := congrArg List.length h
    rwa [List.length_map, List.length_map] at hlen
  unfold ofBytes? at hl ⊢
  split at hl
  · rename_i hbounds
    have hbounds' : bs ≠ [] ∧ bs.length ≤ 63 := by
      rw [← List.length_pos_iff, ← hlen, List.length_pos_iff]
      exact hbounds
    cases hl
    refine ⟨_, dif_pos hbounds', ?_⟩
    simp only [lower, h]
  · cases hl

end Label

namespace Name

section Relabelled

variable {n m : Name} {l k : Label} (hname : n.lower = m.lower) (hlabel : l.lower = k.lower)

include hname hlabel

theorem push?_of_lower_eq {n' : Name} (h : n.push? l = some n') :
    ∃ m', m.push? k = some m' ∧ n'.lower = m'.lower := by
  have hlabels : n.labels.map Label.lower = m.labels.map Label.lower :=
    congrArg Name.labels hname
  have hrooted : n.lower.rooted = m.lower.rooted := by rw [hname]
  rw [rooted_lower, rooted_lower] at hrooted
  have hlower : (n.labels ++ [l]).map Label.lower = (m.labels ++ [k]).map Label.lower := by
    rw [List.map_append, List.map_append, hlabels, List.map_singleton, List.map_singleton, hlabel]
  have hlength : encodedLength (n.labels ++ [l]) = encodedLength (m.labels ++ [k]) := by
    rw [← encodedLength_map_lower, hlower, encodedLength_map_lower]
  unfold push? at h ⊢
  split at h
  · rename_i hfits
    cases h
    refine ⟨_, dif_pos (hlength ▸ hfits), ?_⟩
    simp only [lower, hlower, hrooted]
  · cases h

theorem append_of_lower_eq {n' : Name} (h : n.append l = .ok n') :
    ∃ m', m.append k = .ok m' ∧ n'.lower = m'.lower := by
  unfold append at h
  split at h
  · rename_i hpush
    cases h
    obtain ⟨m', hm', hlower⟩ := push?_of_lower_eq hname hlabel hpush
    refine ⟨m', ?_, hlower⟩
    rw [append, hm']
  · cases h

end Relabelled

theorem readLabel_of_alike {t u : Text} (h : Text.Alike t u) {l : Label}
    (hl : readLabel t = .ok l) : ∃ k, readLabel u = .ok k ∧ l.lower = k.lower := by
  have hbytes := Utf8.map_lowerByte_encode_of_alike h
  have hlen : (Utf8.encode t).length = (Utf8.encode u).length := by
    have hlen := congrArg List.length hbytes
    rwa [List.length_map, List.length_map] at hlen
  unfold readLabel at hl ⊢
  dsimp only at hl ⊢
  rw [← hlen, ← Text.isLabelText_of_alike h]
  split at hl
  · cases hl
  rename_i hshort
  split at hl
  · rename_i htext
    split at hl
    · cases hl
    · rename_i hof
      cases hl
      obtain ⟨k, hk, hlower⟩ := Label.ofBytes?_of_map_lowerByte_eq hbytes hof
      refine ⟨k, ?_, hlower⟩
      rw [if_neg hshort, if_pos htext, hk]
  · cases hl

/-! A name is read one piece at a time: a dot, an escape, or a character that stands for itself. -/

/-- The character that three octal digits stand for. -/
def escaped (a b c : Char) : Except Fault Char := do
  let x ← octal a
  let y ← nextOctal b
  let z ← nextOctal c
  return Char.ofNat (64 * x + 8 * y + z)

section Pieces

variable (read : Text → Except Fault Label) (n : Name) (label rest : Text)

theorem scan_dot : scan read n label ('.' :: rest) =
    (do let l ← read label; let n ← n.append l; scan read n [] rest) := by
  rw [scan.eq_def]
  rfl

theorem scan_plain {c : Char} (hdot : c ≠ '.') (hbackslash : c ≠ '\\') :
    scan read n label (c :: rest) = if Text.isControl c || Text.isBlank c then
      .error (.strayCharacter c) else scan read n (label ++ [c]) rest := by
  rw [scan.eq_def]
  split
  · rename_i h
    cases h
  · rename_i h
    cases h
    exact absurd rfl hbackslash
  · rename_i h
    cases h
    exact absurd rfl hbackslash
  · rename_i h
    cases h
    rw [if_neg (by simpa using hdot)]

theorem scan_escape {a : Char} (ha : Text.isNumeric a = false) :
    scan read n label ('\\' :: a :: rest) = scan read n (label ++ [a]) rest := by
  rw [scan.eq_def]
  change (if Text.isNumeric a then _ else _) = _
  rw [if_neg (by simp [ha])]

variable {a : Char} (ha : Text.isNumeric a = true)

include ha

theorem scan_octal (b c : Char) : scan read n label ('\\' :: a :: b :: c :: rest) =
    (do let x ← escaped a b c; scan read n (label ++ [x]) rest) := by
  rw [scan.eq_def]
  change (if Text.isNumeric a then _ else _) = _
  rw [if_pos ha, escaped]
  simp only [bind_assoc, pure_bind]

theorem scan_octal_one :
    scan read n label ['\\', a] = (do let _ ← octal a; return (n, label)) := by
  rw [scan.eq_def]
  change (if Text.isNumeric a then _ else _) = _
  rw [if_pos ha]
  rfl

theorem scan_octal_two (b : Char) : scan read n label ['\\', a, b] =
    (do let _ ← octal a; let _ ← nextOctal b; return (n, label)) := by
  rw [scan.eq_def]
  change (if Text.isNumeric a then _ else _) = _
  rw [if_pos ha]
  rfl

end Pieces

theorem isNumeric_of_nextOctal {c : Char} {x : Nat} (h : nextOctal c = .ok x) :
    Text.isNumeric c = true := by
  unfold nextOctal at h
  split at h
  · assumption
  · cases h

theorem isNumeric_of_escaped {a b c x : Char} (h : escaped a b c = .ok x) :
    Text.isNumeric b = true ∧ Text.isNumeric c = true := by
  unfold escaped at h
  cases ha : octal a with
  | error e =>
    rw [ha] at h
    cases h
  | ok x =>
    cases hb : nextOctal b with
    | error e =>
      rw [ha, hb] at h
      cases h
    | ok y =>
      cases hc : nextOctal c with
      | error e =>
        rw [ha, hb, hc] at h
        cases h
      | ok z => exact ⟨isNumeric_of_nextOctal hb, isNumeric_of_nextOctal hc⟩

theorem eq_of_isNumeric {a b : Char} (h : a.toLower = b.toLower)
    (ha : Text.isNumeric a = true) : a = b := by
  rcases Text.eq_or_plain_of_toLower_eq h with rfl | ⟨hplain, -⟩
  · rfl
  · rw [hplain.numeric] at ha
    cases ha

/-- Whatever was read before the first text, in any letter case, the second one goes on with the same
name and the same unfinished label, up to letter case. -/
def ReadsAlike (t u : Text) : Prop :=
  ∀ {n m : Name} {label label' : Text}, n.lower = m.lower → Text.Alike label label' →
    ∀ {n' : Name} {left : Text}, scan readLabel n label t = .ok (n', left) →
      ∃ m' left', scan readLabel m label' u = .ok (m', left') ∧ n'.lower = m'.lower ∧
        Text.Alike left left'

section Reading

variable {t u : Text}

theorem readsAlike_nil : ReadsAlike [] [] := by
  intro n m label label' hname hlabel n' left hscan
  cases hscan
  exact ⟨m, label', rfl, hname, hlabel⟩

theorem readsAlike_backslash : ReadsAlike ['\\'] ['\\'] := by
  intro n m label label' hname hlabel n' left hscan
  cases hscan
  exact ⟨m, label', rfl, hname, hlabel⟩

theorem readsAlike_dot (h : ReadsAlike t u) : ReadsAlike ('.' :: t) ('.' :: u) := by
  intro n m label label' hname hlabel n' left hscan
  rw [scan_dot] at hscan ⊢
  cases hread : readLabel label with
  | error e =>
    rw [hread] at hscan
    cases hscan
  | ok l =>
    obtain ⟨k, hk, hlower⟩ := readLabel_of_alike hlabel hread
    cases happend : n.append l with
    | error e =>
      rw [hread] at hscan
      change (n.append l >>= _) = _ at hscan
      rw [happend] at hscan
      cases hscan
    | ok next =>
      obtain ⟨next', hnext', hnext⟩ := append_of_lower_eq hname hlower happend
      rw [hread] at hscan
      change (n.append l >>= _) = _ at hscan
      rw [happend] at hscan
      rw [hk]
      change ∃ m' left', (m.append k >>= _) = _ ∧ _
      rw [hnext']
      exact h hnext rfl hscan

theorem readsAlike_plain {c d : Char} (hhead : c.toLower = d.toLower) (hdot : c ≠ '.')
    (hbackslash : c ≠ '\\') (h : ReadsAlike t u) : ReadsAlike (c :: t) (d :: u) := by
  intro n m label label' hname hlabel n' left hscan
  have hd : d ≠ '.' ∧ d ≠ '\\' ∧
      (Text.isControl d || Text.isBlank d) = (Text.isControl c || Text.isBlank c) := by
    rcases Text.eq_or_plain_of_toLower_eq hhead with rfl | ⟨hc, hd⟩
    · exact ⟨hdot, hbackslash, rfl⟩
    · rw [hc.control, hc.blank, hd.control, hd.blank]
      exact ⟨hd.dot, hd.backslash, rfl⟩
  rw [scan_plain _ _ _ _ hdot hbackslash] at hscan
  rw [scan_plain _ _ _ _ hd.1 hd.2.1, hd.2.2]
  split at hscan
  · cases hscan
  · rename_i hother
    rw [if_neg hother]
    exact h hname (hlabel.snoc hhead) hscan

theorem readsAlike_escape {a b : Char} (hhead : a.toLower = b.toLower)
    (ha : Text.isNumeric a = false) (h : ReadsAlike t u) :
    ReadsAlike ('\\' :: a :: t) ('\\' :: b :: u) := by
  intro n m label label' hname hlabel n' left hscan
  have hb : Text.isNumeric b = false := by
    rcases Text.eq_or_plain_of_toLower_eq hhead with rfl | ⟨-, hb⟩
    · exact ha
    · exact hb.numeric
  rw [scan_escape _ _ _ _ ha] at hscan
  rw [scan_escape _ _ _ _ hb]
  exact h hname (hlabel.snoc hhead) hscan

/-- Digits have no case, so an escape that is read stands in both texts. -/
theorem readsAlike_octal {a b c b' c' : Char} (ha : Text.isNumeric a = true)
    (hb : b.toLower = b'.toLower) (hc : c.toLower = c'.toLower) (h : ReadsAlike t u) :
    ReadsAlike ('\\' :: a :: b :: c :: t) ('\\' :: a :: b' :: c' :: u) := by
  intro n m label label' hname hlabel n' left hscan
  rw [scan_octal _ _ _ _ ha] at hscan ⊢
  cases hread : escaped a b c with
  | error e =>
    rw [hread] at hscan
    cases hscan
  | ok x =>
    obtain ⟨hnumeric, hnumeric'⟩ := isNumeric_of_escaped hread
    rw [hread] at hscan
    rw [← eq_of_isNumeric hb hnumeric, ← eq_of_isNumeric hc hnumeric', hread]
    exact h hname (hlabel.snoc rfl) hscan

theorem readsAlike_octal_one {a : Char} (ha : Text.isNumeric a = true) :
    ReadsAlike ['\\', a] ['\\', a] := by
  intro n m label label' hname hlabel n' left hscan
  rw [scan_octal_one _ _ _ ha] at hscan ⊢
  cases hread : octal a with
  | error e =>
    rw [hread] at hscan
    cases hscan
  | ok x =>
    rw [hread] at hscan
    cases hscan
    exact ⟨m, label', rfl, hname, hlabel⟩

theorem readsAlike_octal_two {a b b' : Char} (ha : Text.isNumeric a = true)
    (hb : b.toLower = b'.toLower) : ReadsAlike ['\\', a, b] ['\\', a, b'] := by
  intro n m label label' hname hlabel n' left hscan
  rw [scan_octal_two _ _ _ ha] at hscan ⊢
  cases hread : octal a with
  | error e =>
    rw [hread] at hscan
    cases hscan
  | ok x =>
    cases hread' : nextOctal b with
    | error e =>
      rw [hread, hread'] at hscan
      cases hscan
    | ok y =>
      rw [hread, hread'] at hscan
      cases hscan
      rw [← eq_of_isNumeric hb (isNumeric_of_nextOctal hread'), hread']
      exact ⟨m, label', rfl, hname, hlabel⟩

/-- The induction is on the length of the text, as an escape takes up to four characters at once. -/
theorem readsAlike_of_alike (ht : Text.Alike t u) : ReadsAlike t u := by
  induction hsize : t.length using Nat.strongRecOn generalizing t u with
  | _ size ih =>
    subst hsize
    rcases t with _ | ⟨c, t⟩
    · rw [ht.nil_left]
      exact readsAlike_nil
    obtain ⟨d, v, rfl, hhead, htail⟩ := ht.cons_left
    by_cases hdot : c = '.'
    · subst hdot
      rw [← Text.eq_of_toLower_eq hhead rfl]
      exact readsAlike_dot (ih _ (Nat.lt_succ_self _) htail rfl)
    by_cases hbackslash : c = '\\'
    · subst hbackslash
      rw [← Text.eq_of_toLower_eq hhead rfl]
      rcases t with _ | ⟨a, t⟩
      · rw [htail.nil_left]
        exact readsAlike_backslash
      obtain ⟨a', v, rfl, ha, htail⟩ := htail.cons_left
      cases hnumeric : Text.isNumeric a with
      | false =>
        refine readsAlike_escape ha hnumeric (ih _ ?_ htail rfl)
        simp only [List.length_cons]
        omega
      | true =>
        rw [← eq_of_isNumeric ha hnumeric]
        rcases t with _ | ⟨b, t⟩
        · rw [htail.nil_left]
          exact readsAlike_octal_one hnumeric
        obtain ⟨b', v, rfl, hb, htail⟩ := htail.cons_left
        rcases t with _ | ⟨c, t⟩
        · rw [htail.nil_left]
          exact readsAlike_octal_two hnumeric hb
        obtain ⟨c', v, rfl, hc, htail⟩ := htail.cons_left
        refine readsAlike_octal hnumeric hb hc (ih _ ?_ htail rfl)
        simp only [List.length_cons]
        omega
    · exact readsAlike_plain hhead hdot hbackslash (ih _ (Nat.lt_succ_self _) htail rfl)

end Reading

theorem eq_dot_of_alike {t : Text} (h : Text.Alike ['.'] t) : t = ['.'] := by
  obtain ⟨d, v, rfl, hhead, htail⟩ := h.cons_left
  rw [htail.nil_left, ← Text.eq_of_toLower_eq hhead rfl]

theorem lower_withRoot {n m : Name} (h : n.lower = m.lower) (rooted : Bool) :
    (n.withRoot rooted).lower = (m.withRoot rooted).lower := by
  have hlabels : n.labels.map Label.lower = m.labels.map Label.lower := congrArg Name.labels h
  simp only [lower, withRoot, hlabels]

theorem read_of_alike {t u : Text} (ht : Text.Alike t u) {n : Name} (h : read t = .ok n) :
    ∃ m, read u = .ok m ∧ n.lower = m.lower := by
  unfold read readWith at h ⊢
  by_cases hroot : t = ['.']
  · subst hroot
    rw [eq_dot_of_alike ht]
    exact ⟨n, h, rfl⟩
  have hroot' : u ≠ ['.'] := by
    rintro rfl
    exact hroot (eq_dot_of_alike ht.symm)
  rw [if_neg hroot] at h
  rw [if_neg hroot', ← ht.isEmpty_eq]
  cases hscan : scan readLabel empty [] t with
  | error e =>
    rw [hscan] at h
    cases h
  | ok result =>
    obtain ⟨n', left⟩ := result
    obtain ⟨m', left', hscan', hname, hleft⟩ := readsAlike_of_alike ht rfl rfl hscan
    rw [hscan] at h
    rw [hscan']
    change (if left.isEmpty then _ else _) = _ at h
    change ∃ m, (if left'.isEmpty then _ else _) = _ ∧ _
    rw [← hleft.isEmpty_eq]
    split at h
    · rename_i hempty
      cases h
      exact ⟨_, if_pos hempty, lower_withRoot hname _⟩
    · rename_i hrest
      rw [if_neg hrest]
      cases hread : readLabel left with
      | error e =>
        rw [hread] at h
        cases h
      | ok l =>
        obtain ⟨k, hk, hlower⟩ := readLabel_of_alike hleft hread
        rw [hread] at h
        rw [hk]
        exact append_of_lower_eq hname hlower h

end Name

end DnsBlocklist
