import DnsBlocklist.IpSet.Basic

/-! The longest range decides. Looking up walks down the prefix lengths of one address; here the
result is compared with a statement about all the ranges that a set holds. -/

namespace DnsBlocklist
set_option autoImplicit false

namespace Range

theorem ext_of {r s : Range} (hn : r.network = s.network) (hl : r.length = s.length) : r = s := by
  cases r
  cases s
  simp_all

theorem eq_around_of_contains {r : Range} {ip : Ipv4} (h : r.contains ip = true) :
    r = around ip r.length := by
  have hlen : min r.length 32 = r.length := Nat.min_eq_left r.length_le
  apply ext_of
  · simp only [around, hlen]
    exact (beq_iff_eq.mp h).symm
  · exact hlen.symm

theorem contains_around (ip : Ipv4) (n : Nat) : (around ip n).contains ip = true := by
  simp [contains, around]

theorem eq_of_contains {r s : Range} {ip : Ipv4} (hr : r.contains ip = true)
    (hs : s.contains ip = true) (hl : r.length = s.length) : r = s := by
  rw [eq_around_of_contains hr, eq_around_of_contains hs, hl]

end Range

namespace IpSet

/-- No range of the set is the whole address space. -/
def Proper (s : IpSet) : Prop := ∀ r e, s.get? r = some e → 0 < r.length

/-- Of the ranges of the set around an address, `r` is the longest, and it holds `e`. -/
structure Longest (s : IpSet) (ip : Ipv4) (r : Range) (e : Entry) : Prop where
  holds : s.get? r = some e
  contains : r.contains ip = true
  longest : ∀ r' e', s.get? r' = some e' → r'.contains ip = true → r'.length ≤ r.length

theorem proper_empty : empty.Proper := by
  intro r e h
  simp at h

theorem Proper.insert {s : IpSet} (hs : s.Proper) {r : Range} (hr : 0 < r.length) (e : Entry) :
    (s.insert r e).Proper := by
  intro r' e' h
  rw [get?_insert] at h
  by_cases heq : r = r'
  · exact heq ▸ hr
  · rw [if_neg heq] at h
    exact hs r' e' h

/-- The walk from `n` down finds the longest range of a length between 1 and `n`. -/
theorem narrowest_eq_some_iff (s : IpSet) (ip : Ipv4) (e : Entry) {n : Nat} (hn : n ≤ 32) :
    s.narrowest ip n = some e ↔ ∃ r, 0 < r.length ∧ r.length ≤ n ∧ s.get? r = some e ∧
      r.contains ip = true ∧
      ∀ r' e', s.get? r' = some e' → r'.contains ip = true → r'.length ≤ n →
        r'.length ≤ r.length := by
  induction n with
  | zero =>
    constructor
    · simp [narrowest]
    · rintro ⟨r, h0, hle, -⟩
      omega
  | succ n ih =>
    have hlen : (Range.around ip (n + 1)).length = n + 1 := Nat.min_eq_left hn
    have hcont := Range.contains_around ip (n + 1)
    cases hget : s.get? (Range.around ip (n + 1)) with
    | some e' =>
      simp only [narrowest, hget, Option.some.injEq]
      constructor
      · rintro rfl
        exact ⟨_, by omega, by omega, hget, hcont, fun _ _ _ _ h => by omega⟩
      · rintro ⟨r, -, hle, hr, hrc, hmax⟩
        have hge := hmax _ _ hget hcont (by omega)
        have heq := Range.eq_of_contains hrc hcont (by omega)
        rw [heq, hget, Option.some.injEq] at hr
        exact hr
    | none =>
      -- A range of length `n + 1` around the address could only be this one.
      have hshort : ∀ r e', s.get? r = some e' → r.contains ip = true → r.length ≤ n + 1 →
          r.length ≤ n := by
        intro r e' hr hrc hle
        rcases Nat.lt_or_ge n r.length with hlt | hge
        · have heq := Range.eq_of_contains hrc hcont (by omega)
          rw [heq, hget] at hr
          cases hr
        · exact hge
      simp only [narrowest, hget, ih (by omega)]
      constructor
      · rintro ⟨r, h0, hle, hr, hrc, hmax⟩
        exact ⟨r, h0, by omega, hr, hrc, fun r' e' hr' hrc' hle' =>
          hmax r' e' hr' hrc' (hshort r' e' hr' hrc' hle')⟩
      · rintro ⟨r, h0, hle, hr, hrc, hmax⟩
        exact ⟨r, h0, hshort r e hr hrc hle, hr, hrc, fun r' e' hr' hrc' hle' =>
          hmax r' e' hr' hrc' (by omega)⟩

theorem narrowest_eq_some_iff_longest {s : IpSet} (hs : s.Proper) (ip : Ipv4) (e : Entry) :
    s.narrowest ip 32 = some e ↔ ∃ r, s.Longest ip r e := by
  rw [narrowest_eq_some_iff s ip e (Nat.le_refl 32)]
  constructor
  · rintro ⟨r, -, -, hr, hrc, hmax⟩
    exact ⟨r, hr, hrc, fun r' e' hr' hrc' => hmax r' e' hr' hrc' r'.length_le⟩
  · rintro ⟨r, hr, hrc, hmax⟩
    exact ⟨r, hs r e hr, r.length_le, hr, hrc, fun r' e' hr' hrc' _ => hmax r' e' hr' hrc'⟩

theorem lookup_of_longest {s : IpSet} (hs : s.Proper) {ip : Ipv4} {r : Range} {e : Entry}
    (h : s.Longest ip r e) : s.lookup ip = e := by
  rw [lookup, (narrowest_eq_some_iff_longest hs ip e).mpr ⟨r, h⟩, Option.join_some]

theorem lookup_eq_some_iff {s : IpSet} (hs : s.Proper) (ip : Ipv4) (l : Listing) :
    s.lookup ip = some l ↔ ∃ r, s.Longest ip r (some l) := by
  constructor
  · intro h
    rw [lookup, Option.join_eq_some_iff] at h
    exact (narrowest_eq_some_iff_longest hs ip (some l)).mp h
  · rintro ⟨r, h⟩
    exact lookup_of_longest hs h

theorem lookup_eq_none {s : IpSet} (hs : s.Proper) {ip : Ipv4}
    (h : ∀ r e, s.get? r = some e → r.contains ip = false) : s.lookup ip = none := by
  cases hl : s.lookup ip with
  | none => rfl
  | some l =>
    obtain ⟨r, hr⟩ := (lookup_eq_some_iff hs ip l).mp hl
    have := h r _ hr.holds
    rw [hr.contains] at this
    cases this

/-! Inserting one entry after another. -/

def insertAll (s : IpSet) (h : List (Range × Entry)) : IpSet :=
  h.foldl (fun s x => s.insert x.1 x.2) s

theorem insertAll_append (s : IpSet) (h k : List (Range × Entry)) :
    s.insertAll (h ++ k) = (s.insertAll h).insertAll k := List.foldl_append

theorem Proper.insertAll {s : IpSet} (hs : s.Proper) {h : List (Range × Entry)}
    (hh : ∀ x ∈ h, 0 < x.1.length) : (s.insertAll h).Proper := by
  induction h generalizing s with
  | nil => exact hs
  | cons x h ih =>
    exact ih (hs.insert (hh x List.mem_cons_self) x.2)
      (fun y hy => hh y (List.mem_cons_of_mem x hy))

theorem get?_insertAll_of_not_mem (s : IpSet) {h : List (Range × Entry)} {r : Range}
    (hr : ∀ x ∈ h, x.1 ≠ r) : (s.insertAll h).get? r = s.get? r := by
  induction h generalizing s with
  | nil => rfl
  | cons x h ih =>
    have hx : x.1 ≠ r := hr x List.mem_cons_self
    have htail := ih (s.insert x.1 x.2) (fun y hy => hr y (List.mem_cons_of_mem x hy))
    rw [get?_insert, if_neg hx] at htail
    exact htail

theorem get?_insertAll_last (s : IpSet) (before after : List (Range × Entry)) {r : Range}
    (e : Entry) (hr : ∀ x ∈ after, x.1 ≠ r) :
    (s.insertAll (before ++ (r, e) :: after)).get? r = some e := by
  rw [insertAll_append]
  change (((s.insertAll before).insert r e).insertAll after).get? r = some e
  rw [get?_insertAll_of_not_mem _ hr, get?_insert, if_pos rfl]

theorem mem_of_get?_insertAll {s : IpSet} {h : List (Range × Entry)} {r : Range} {e : Entry}
    (hr : (s.insertAll h).get? r = some e) : s.get? r = some e ∨ (r, e) ∈ h := by
  induction h generalizing s with
  | nil => exact Or.inl hr
  | cons x h ih =>
    rcases ih (s := s.insert x.1 x.2) hr with hs | hmem
    · rw [get?_insert] at hs
      by_cases hx : x.1 = r
      · rw [if_pos hx, Option.some.injEq] at hs
        subst hx hs
        exact Or.inr List.mem_cons_self
      · rw [if_neg hx] at hs
        exact Or.inl hs
    · exact Or.inr (List.mem_cons_of_mem x hmem)

end IpSet

end DnsBlocklist
