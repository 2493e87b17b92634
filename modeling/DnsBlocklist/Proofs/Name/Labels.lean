import DnsBlocklist.Reply.Respond

/-! Depths against labels. The depth of a name is the number of its labels unless the first one is a
lone asterisk, and a name under an origin is made of further labels in front of it. So a name can be as
deep as its origin without being equal to it, but only as an asterisk in front of that origin. -/

namespace DnsBlocklist
set_option autoImplicit false

namespace Label

theorem lowerByte_eq_star_iff (b : UInt8) : lowerByte b = 42 ↔ b = 42 := by
  unfold lowerByte
  split
  · rename_i h
    simp only [Bool.and_eq_true, decide_eq_true_eq, UInt8.le_iff_toNat_le, UInt8.toNat_ofNat] at h
    have hsum : (b + 32).toNat = b.toNat + 32 := by
      rw [UInt8.toNat_add]
      simp only [UInt8.toNat_ofNat]
      omega
    rw [← UInt8.toNat_inj, ← UInt8.toNat_inj, hsum]
    simp only [UInt8.toNat_ofNat]
    omega
  · rfl

theorem lower_bytes_eq_star_iff (l : Label) : l.lower.bytes = [42] ↔ l.bytes = [42] := by
  simp [lower, List.map_eq_singleton_iff, lowerByte_eq_star_iff]

end Label

namespace Name

/-- The first label is a lone asterisk. -/
def Starred (n : Name) : Prop := ∃ l ls, n.labels = l :: ls ∧ l.bytes = [42]

/-- The labels of `origin` end those of the name, in any letter case. -/
def EndsIn (n origin : Name) : Prop := origin.lower.labels <:+ n.lower.labels

def Equals (n m : Name) : Prop := n.lower.labels = m.lower.labels

instance (n m : Name) : Decidable (n.Equals m) :=
  inferInstanceAs (Decidable (n.lower.labels = m.lower.labels))

theorem depth_eq_length {n : Name} (h : ¬ n.Starred) : n.depth = n.labels.length := by
  unfold depth
  cases hl : n.labels with
  | nil => rfl
  | cons l ls =>
    have hl' : isWildcard l = false := by
      cases hw : isWildcard l with
      | false => rfl
      | true => exact absurd ⟨l, ls, hl, beq_iff_eq.mp hw⟩ h
    simp [hl']

theorem depth_of_starred {n : Name} (h : n.Starred) : n.depth + 1 = n.labels.length := by
  obtain ⟨l, ls, hlabels, hstar⟩ := h
  have hwild : isWildcard l = true := beq_iff_eq.mpr hstar
  simp [depth, hlabels, hwild]

theorem depth_cases (n : Name) : (n.Starred ∧ n.depth + 1 = n.labels.length) ∨
    (¬ n.Starred ∧ n.depth = n.labels.length) := by
  by_cases h : n.Starred
  · exact Or.inl ⟨h, depth_of_starred h⟩
  · exact Or.inr ⟨h, depth_eq_length h⟩

theorem starred_iff_lower (n : Name) :
    n.Starred ↔ ∃ l ls, n.lower.labels = l :: ls ∧ l.bytes = [42] := by
  constructor
  · rintro ⟨l, ls, hlabels, hstar⟩
    exact ⟨l.lower, ls.map Label.lower, by simp [lower, hlabels],
      (Label.lower_bytes_eq_star_iff l).mpr hstar⟩
  · rintro ⟨l, ls, hlabels, hstar⟩
    obtain ⟨k, ks, hk, rfl, -⟩ := List.map_eq_cons_iff.mp hlabels
    exact ⟨k, ks, hk, (Label.lower_bytes_eq_star_iff k).mp hstar⟩

@[simp] theorem length_labels_lower (n : Name) : n.lower.labels.length = n.labels.length := by
  simp [lower]

theorem isUnder_iff_endsIn (n origin : Name) : n.isUnder origin = true ↔ n.EndsIn origin :=
  isUnder_iff n origin

theorem EndsIn.trans {n a b : Name} (hna : n.EndsIn a) (hab : a.EndsIn b) : n.EndsIn b :=
  List.IsSuffix.trans hab hna

theorem EndsIn.of_length_le {n a b : Name} (ha : n.EndsIn a) (hb : n.EndsIn b)
    (h : a.labels.length ≤ b.labels.length) : b.EndsIn a :=
  List.suffix_of_suffix_length_le ha hb (by simpa using h)

theorem EndsIn.equals {n a : Name} (h : n.EndsIn a) (hl : n.labels.length = a.labels.length) :
    n.Equals a :=
  (h.eq_of_length (by simp [hl])).symm

theorem EndsIn.length_le {n a : Name} (h : n.EndsIn a) : a.labels.length ≤ n.labels.length := by
  simpa using List.IsSuffix.length_le h

theorem Equals.length_eq {n m : Name} (h : n.Equals m) : n.labels.length = m.labels.length := by
  simpa using congrArg List.length h

theorem EndsIn.drop_eq {n a : Name} (h : n.EndsIn a) {k : Nat}
    (hk : n.labels.length = a.labels.length + k) :
    (n.labels.drop k).map Label.lower = a.lower.labels := by
  have hdrop := List.suffix_iff_eq_drop.mp h
  have hlen : n.lower.labels.length - a.lower.labels.length = k := by
    simp only [length_labels_lower]
    omega
  rw [hlen] at hdrop
  rw [hdrop, lower, List.map_drop]

theorem Equals.starred_iff {n m : Name} (h : n.Equals m) : n.Starred ↔ m.Starred := by
  have hlower : n.lower.labels = m.lower.labels := h
  rw [starred_iff_lower, starred_iff_lower, hlower]

theorem Equals.depth_eq {n m : Name} (h : n.Equals m) : n.depth = m.depth := by
  have hlen := h.length_eq
  rcases depth_cases n with ⟨hn, hdepth⟩ | ⟨hn, hdepth⟩
  · have hm := depth_of_starred (h.starred_iff.mp hn)
    omega
  · have hm := depth_eq_length (mt h.starred_iff.mpr hn)
    omega

/-- The name is a lone asterisk in front of a name that does not start with one. -/
def IsStarOf (n m : Name) : Prop :=
  ∃ l ls, n.labels = l :: ls ∧ l.bytes = [42] ∧ ls.map Label.lower = m.lower.labels ∧ ¬ m.Starred

theorem IsStarOf.starred {n m : Name} (h : n.IsStarOf m) : n.Starred := by
  obtain ⟨l, ls, hlabels, hstar, -⟩ := h
  exact ⟨l, ls, hlabels, hstar⟩

theorem IsStarOf.length_eq {n m : Name} (h : n.IsStarOf m) :
    n.labels.length = m.labels.length + 1 := by
  obtain ⟨l, ls, hlabels, -, hrest, -⟩ := h
  have hlen := congrArg List.length hrest
  rw [List.length_map, length_labels_lower] at hlen
  rw [hlabels, List.length_cons, hlen]

theorem IsStarOf.depth_eq {n m : Name} (h : n.IsStarOf m) : n.depth = m.depth := by
  have hlen := h.length_eq
  have hn := depth_of_starred h.starred
  obtain ⟨_, _, _, _, _, hm⟩ := h
  rw [depth_eq_length hm]
  omega

theorem IsStarOf.not_equals {n m : Name} (h : n.IsStarOf m) : ¬ n.Equals m := by
  intro hequals
  have hmore := h.length_eq
  have hsame := hequals.length_eq
  omega

theorem IsStarOf.endsIn {n m : Name} (h : n.IsStarOf m) : n.EndsIn m := by
  obtain ⟨l, ls, hlabels, -, hrest, -⟩ := h
  refine ⟨[l.lower], ?_⟩
  change [l.lower] ++ m.lower.labels = n.labels.map Label.lower
  rw [hlabels, List.map_cons, hrest]
  rfl

theorem EndsIn.depth_eq_iff {n m : Name} (h : n.EndsIn m) :
    n.depth = m.depth ↔ n.Equals m ∨ n.IsStarOf m := by
  constructor
  · intro hdepth
    have hle := h.length_le
    rcases depth_cases n with ⟨hn, hnlen⟩ | ⟨hn, hnlen⟩ <;>
      rcases depth_cases m with ⟨hm, hmlen⟩ | ⟨hm, hmlen⟩
    · exact Or.inl (h.equals (by omega))
    · -- One label more, which is the asterisk.
      obtain ⟨l, ls, hlabels, hstar⟩ := hn
      have hdrop := h.drop_eq (k := 1) (by omega)
      rw [hlabels] at hdrop
      exact Or.inr ⟨l, ls, hlabels, hstar, hdrop, hm⟩
    · omega
    · exact Or.inl (h.equals (by omega))
  · rintro (hequals | hstar)
    · exact hequals.depth_eq
    · exact hstar.depth_eq

theorem EndsIn.depth_le {n m : Name} (h : n.EndsIn m) : m.depth ≤ n.depth := by
  have hle := h.length_le
  by_cases hlen : n.labels.length = m.labels.length
  · exact Nat.le_of_eq (h.equals hlen).depth_eq.symm
  · rcases depth_cases n with ⟨-, hn⟩ | ⟨-, hn⟩ <;> rcases depth_cases m with ⟨-, hm⟩ | ⟨-, hm⟩ <;>
      omega

end Name

namespace Label

def text (l : Label) : Text := l.bytes.map fun x => Char.ofNat x.toNat

/-- The label is a decimal number from 0 to 255. -/
structure IsOctet (l : Label) (v : UInt8) : Prop where
  nonempty : l.text ≠ []
  digits : ∀ c ∈ l.text, c.isDigit = true
  value : Decimal.value l.text = v.toNat

theorem readWithin?_text_eq_some_iff (l : Label) (n : Nat) :
    Decimal.readWithin? 0 255 l.text = some n ↔ l.IsOctet (UInt8.ofNat n) ∧ n ≤ 255 := by
  rw [Decimal.readWithin?_eq_some_iff]
  constructor
  · rintro ⟨hne, hdigits, hvalue, -, hle⟩
    have hn : (UInt8.ofNat n).toNat = n := by
      rw [UInt8.toNat_ofNat']
      omega
    exact ⟨⟨hne, hdigits, by rw [hn, hvalue]⟩, hle⟩
  · rintro ⟨⟨hne, hdigits, hvalue⟩, hle⟩
    have hn : (UInt8.ofNat n).toNat = n := by
      rw [UInt8.toNat_ofNat']
      omega
    exact ⟨hne, hdigits, by rw [hvalue, hn], Nat.zero_le n, hle⟩

theorem IsOctet.bytes_ne_star {l : Label} {v : UInt8} (h : l.IsOctet v) : l.bytes ≠ [42] := by
  intro hstar
  have hdigit := h.digits '*' (by rw [text, hstar]; decide)
  cases hdigit

end Label

namespace Name

/-- The first four labels give the octets of an address from last to first, and others follow. -/
inductive Reverses (n : Name) (ip : Ipv4) (rest : List Label) : Prop where
  | mk {d c b a : Label} : n.labels = d :: c :: b :: a :: rest → a.IsOctet (ip.octet 0) →
      b.IsOctet (ip.octet 1) → c.IsOctet (ip.octet 2) → d.IsOctet (ip.octet 3) → Reverses n ip rest

theorem Reverses.not_starred {n : Name} {ip : Ipv4} {rest : List Label} (h : n.Reverses ip rest) :
    ¬ n.Starred := by
  obtain ⟨hlabels, _, _, _, hd⟩ := h
  rintro ⟨l, ls, hlabels', hstar⟩
  rw [hlabels, List.cons.injEq] at hlabels'
  obtain ⟨rfl, -⟩ := hlabels'
  exact hd.bytes_ne_star hstar

theorem reversedIpv4?_eq_some_iff (n : Name) (k : Nat) (ip : Ipv4) :
    n.reversedIpv4? k = some ip ↔ n.depth = k + 4 ∧ ∃ rest, n.Reverses ip rest := by
  have hoctet : ∀ {l : Label} {v : UInt8}, l.IsOctet v →
      Decimal.readWithin? 0 255 l.text = some v.toNat := by
    intro l v hv
    have hlt := v.toNat_lt
    exact (Label.readWithin?_text_eq_some_iff l v.toNat).mpr ⟨by simpa using hv, by omega⟩
  constructor
  · intro h
    rw [reversedIpv4?] at h
    split at h
    · rename_i hdepth
      refine ⟨hdepth, ?_⟩
      split at h
      · rename_i d c b a rest hlabels
        simp only [Option.bind_eq_bind, Option.bind_eq_some_iff, Option.pure_def,
          Option.some.injEq] at h
        obtain ⟨va, ha, vb, hb, vc, hc, vd, hd, rfl⟩ := h
        have hocts := Ipv4.octets_ofOctets (UInt8.ofNat va) (UInt8.ofNat vb) (UInt8.ofNat vc)
          (UInt8.ofNat vd)
        simp only [Ipv4.octets, List.cons.injEq, and_true] at hocts
        obtain ⟨h0, h1, h2, h3⟩ := hocts
        refine ⟨rest, .mk hlabels ?_ ?_ ?_ ?_⟩
        · rw [h0]
          exact ((Label.readWithin?_text_eq_some_iff a va).mp ha).1
        · rw [h1]
          exact ((Label.readWithin?_text_eq_some_iff b vb).mp hb).1
        · rw [h2]
          exact ((Label.readWithin?_text_eq_some_iff c vc).mp hc).1
        · rw [h3]
          exact ((Label.readWithin?_text_eq_some_iff d vd).mp hd).1
      · cases h
    · cases h
  · rintro ⟨hdepth, rest, hrev⟩
    obtain ⟨hlabels, ha, hb, hc, hd⟩ := hrev
    have ha' := hoctet ha
    have hb' := hoctet hb
    have hc' := hoctet hc
    have hd' := hoctet hd
    simp only [Label.text] at ha' hb' hc' hd'
    simp [reversedIpv4?, hdepth, hlabels, ha', hb', hc', hd', Ipv4.ofOctets_octets]

end Name

end DnsBlocklist
