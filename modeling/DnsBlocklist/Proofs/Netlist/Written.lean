import DnsBlocklist.Netlist.Token
import DnsBlocklist.Proofs.Range.Written

/-! The written form of netlists: the words between separators, and what a word says. Splitting a text
and reading a word decide these relations. -/

namespace DnsBlocklist.Netlist
set_option autoImplicit false

/-- The words of a text, in order: its longest pieces without a separator. -/
inductive Words : Text → List Text → Prop where
  | nil : Words [] []
  | separator {c : Char} {t : Text} {ws : List Text} : isSeparator c = true → Words t ws →
      Words (c :: t) ws
  | word {w t : Text} {ws : List Text} : w ≠ [] → (∀ c ∈ w, isSeparator c = false) →
      (∀ c ∈ t.head?, isSeparator c = true) → Words t ws → Words (w ++ t) (w :: ws)

theorem split_cons_separator {c : Char} (hc : isSeparator c = true) (t : Text) :
    split (c :: t) = split t := by
  have hsplit := List.splitOnP_append_cons [] t hc
  rw [List.nil_append] at hsplit
  simp [split, hsplit]

theorem Words.split_eq {t : Text} {ws : List Text} (h : Words t ws) : split t = ws := by
  induction h with
  | nil => simp [split]
  | separator hc _ ih => rw [split_cons_separator hc, ih]
  | @word w t ws hne hw ht _ ih =>
    cases t with
    | nil =>
      have hws : ws = [] := by simpa [split] using ih.symm
      simp [split, List.splitOnP_eq_singleton hw, hne, hws]
    | cons c t =>
      have hc : isSeparator c = true := ht c rfl
      have hrest : split t = ws := split_cons_separator hc t ▸ ih
      rw [split] at hrest
      simp [split, List.splitOnP_append_cons w t hc, List.splitOnP_eq_singleton hw, hne, hrest]

theorem exists_words (t : Text) : ∃ ws, Words t ws := by
  induction t with
  | nil => exact ⟨[], .nil⟩
  | cons c t ih =>
    obtain ⟨ws, hws⟩ := ih
    cases hc : isSeparator c with
    | true => exact ⟨ws, .separator hc hws⟩
    | false =>
      -- The character starts a word, or belongs to the one that comes next.
      cases hws with
      | nil => exact ⟨[[c]], .word (w := [c]) (t := []) (by simp) (by simpa using hc) (by simp) .nil⟩
      | @separator d t _ hd hrest =>
        exact ⟨_, .word (w := [c]) (by simp) (by simpa using hc) (by simpa using hd)
          (.separator hd hrest)⟩
      | @word w t ws _ hw ht hrest =>
        refine ⟨_, .word (w := c :: w) (by simp) (fun d hd => ?_) ht hrest⟩
        rcases List.mem_cons.mp hd with rfl | hd
        · exact hc
        · exact hw d hd

theorem split_eq_iff (t : Text) (ws : List Text) : split t = ws ↔ Words t ws := by
  constructor
  · rintro rfl
    obtain ⟨ws, hws⟩ := exists_words t
    exact hws.split_eq ▸ hws
  · exact Words.split_eq

/-- An exclamation mark in front of a word refuses what the rest stands for. -/
inductive Signed : Text → Bool → Text → Prop where
  | plain {t : Text} : t.head? ≠ some '!' → Signed t true t
  | negated {t : Text} : Signed ('!' :: t) false t

/-- A host name, and the prefix length of the ranges around its addresses: the one after the first
slash, or 32. Some character tells it from a range. -/
inductive HostWritten : Text → Text → Nat → Prop where
  | bare {t : Text} : (∃ c ∈ t, isRangeCharacter c = false) → '/' ∉ t → HostWritten t t 32
  | sized {t u : Text} {n : Nat} : (∃ c ∈ t ++ '/' :: u, isRangeCharacter c = false) → '/' ∉ t →
      Decimal.PlusWritten 1 32 u n → HostWritten (t ++ '/' :: u) t n

theorem isRangeCharacter_of_written {t : Text} {ip : Ipv4} {n : Nat} (h : Range.Written t ip n) :
    ∀ c ∈ t, isRangeCharacter c = true := by
  have hoctets : ∀ {u : Text} {ns : List Nat}, Range.OctetsWritten u ns →
      ∀ c ∈ u, isRangeCharacter c = true := by
    intro u ns hu c hc
    rcases hu.digit_or_dot c hc with hdigit | rfl
    · simp [isRangeCharacter, hdigit]
    · rfl
  cases h with
  | bare hwritten _ _ => exact hoctets hwritten
  | sized hwritten _ _ hn =>
    intro c hc
    rcases List.mem_append.mp hc with hc | hc
    · exact hoctets hwritten c hc
    · rcases List.mem_cons.mp hc with rfl | hc
      · rfl
      · simp [isRangeCharacter, hn.digits c hc]

theorem readHost_eq_ok_iff {t : Text} (htext : ∃ c ∈ t, isRangeCharacter c = false) (target : Target) :
    Target.readHost t = .ok target ↔ ∃ name n, HostWritten t name n ∧ target = .host name n := by
  constructor
  · intro h
    rw [Target.readHost] at h
    cases hcut : Text.cut? (· == '/') t with
    | none =>
      simp only [hcut, Except.ok.injEq] at h
      exact ⟨t, 32, .bare htext ((Text.cut?_char_eq_none_iff '/' t).mp hcut), h.symm⟩
    | some parts =>
      obtain ⟨name, bits⟩ := parts
      obtain ⟨hfree, rfl⟩ := (Text.cut?_char_eq_some_iff '/' t name bits).mp hcut
      simp only [hcut] at h
      split at h
      · rename_i n hn
        cases h
        exact ⟨name, n, .sized htext hfree (Decimal.readPlusWithin?_eq_some_iff_written.mp hn), rfl⟩
      · cases h
  · rintro ⟨name, n, hwritten, rfl⟩
    cases hwritten with
    | bare _ hslash =>
      have hcut := (Text.cut?_char_eq_none_iff '/' t).mpr hslash
      simp [Target.readHost, hcut]
    | @sized _ u _ _ hslash hn =>
      have hcut := (Text.cut?_char_eq_some_iff '/' _ name u).mpr ⟨hslash, rfl⟩
      simp [Target.readHost, hcut, Decimal.readPlusWithin?_eq_some_iff_written.mpr hn]

theorem Target.read_eq_ok_iff (hostBits : HostBits) (t : Text) (target : Target) :
    Target.read hostBits t = .ok target ↔
      (∃ r, Range.read? hostBits t = some r ∧ target = .range r) ∨
      ∃ name n, HostWritten t name n ∧ target = .host name n := by
  cases hall : t.all isRangeCharacter with
  | true =>
    have hnone : ¬ ∃ name n, HostWritten t name n ∧ target = .host name n := by
      rintro ⟨name, n, hwritten, -⟩
      have hother : ∃ c ∈ t, isRangeCharacter c = false := by
        cases hwritten with
        | bare hother _ => exact hother
        | sized hother _ _ => exact hother
      obtain ⟨c, hc, hfalse⟩ := hother
      rw [List.all_eq_true.mp hall c hc] at hfalse
      cases hfalse
    rw [or_iff_left hnone, Target.read, if_pos hall, Range.read]
    cases Range.read? hostBits t with
    | none => simp [Except.map]
    | some r => simp [Except.map, eq_comm]
  | false =>
    have hother : ∃ c ∈ t, isRangeCharacter c = false := by simpa using hall
    have hnone : ¬ ∃ r, Range.read? hostBits t = some r ∧ target = .range r := by
      rintro ⟨r, hr, -⟩
      obtain ⟨ip, n, hwritten, -⟩ := (Range.read?_eq_some_iff hostBits t r).mp hr
      obtain ⟨c, hc, hfalse⟩ := hother
      rw [isRangeCharacter_of_written hwritten c hc] at hfalse
      cases hfalse
    rw [or_iff_right hnone, Target.read, hall, ← readHost_eq_ok_iff hother]
    rfl

theorem exists_signed (word : Text) : ∃ accept body, Signed word accept body := by
  by_cases hsign : word.head? = some '!'
  · obtain ⟨body, rfl⟩ := List.head?_eq_some_iff.mp hsign
    exact ⟨false, body, .negated⟩
  · exact ⟨true, word, .plain hsign⟩

theorem Signed.read_eq {word body : Text} {accept : Bool} (h : Signed word accept body)
    (hostBits : HostBits) :
    Token.read hostBits word = (Target.read hostBits body).map fun target => ⟨accept, target⟩ := by
  cases h with
  | negated => rfl
  | plain hsign =>
    rw [Token.read.eq_def]
    split
    · exact absurd rfl hsign
    · rfl

theorem Token.read_eq_ok_iff (hostBits : HostBits) (word : Text) (token : Token) :
    Token.read hostBits word = .ok token ↔
      ∃ body, Signed word token.accept body ∧ Target.read hostBits body = .ok token.target := by
  constructor
  · intro h
    obtain ⟨accept, body, hsigned⟩ := exists_signed word
    rw [hsigned.read_eq] at h
    cases hread : Target.read hostBits body with
    | error fault =>
      rw [hread] at h
      cases h
    | ok target =>
      rw [hread] at h
      cases h
      exact ⟨body, hsigned, hread⟩
  · rintro ⟨body, hsigned, hread⟩
    rw [hsigned.read_eq, hread]
    rfl

end DnsBlocklist.Netlist
