import DnsBlocklist.Range
import Mathlib.Data.List.Forall2
import Mathlib.Data.List.GetD

/-! The written form of numbers and ranges, as relations between a text and what it stands for. Reading
a text decides these relations. -/

namespace DnsBlocklist
set_option autoImplicit false

namespace Decimal

/-- The text is a number from `low` to `high`, with any number of zeros in front. -/
structure Written (low high : Nat) (t : Text) (n : Nat) : Prop where
  nonempty : t ≠ []
  digits : ∀ c ∈ t, c.isDigit = true
  value : value t = n
  low_le : low ≤ n
  le_high : n ≤ high

/-- As `Written`, with one plus sign allowed in front. -/
inductive PlusWritten (low high : Nat) : Text → Nat → Prop where
  | plain {t : Text} {n : Nat} : Written low high t n → PlusWritten low high t n
  | plus {t : Text} {n : Nat} : Written low high t n → PlusWritten low high ('+' :: t) n

variable {low high n : Nat} {t : Text}

theorem readWithin?_eq_some_iff_written : readWithin? low high t = some n ↔ Written low high t n := by
  rw [readWithin?_eq_some_iff]
  constructor
  · rintro ⟨hne, hdigits, hvalue, hlow, hhigh⟩
    exact ⟨hne, hdigits, hvalue, hlow, hhigh⟩
  · rintro ⟨hne, hdigits, hvalue, hlow, hhigh⟩
    exact ⟨hne, hdigits, hvalue, hlow, hhigh⟩

theorem readPlusWithin?_eq_some_iff_written :
    readPlusWithin? low high t = some n ↔ PlusWritten low high t n := by
  constructor
  · intro h
    rw [readPlusWithin?.eq_def] at h
    split at h
    · exact .plus (readWithin?_eq_some_iff_written.mp h)
    · exact .plain (readWithin?_eq_some_iff_written.mp h)
  · intro h
    cases h with
    | plus hwritten => exact readWithin?_eq_some_iff_written.mpr hwritten
    | plain hwritten =>
      have hsign : t.head? ≠ some '+' := by
        intro hhead
        obtain ⟨rest, rfl⟩ := List.head?_eq_some_iff.mp hhead
        exact absurd (hwritten.digits '+' List.mem_cons_self) (by decide)
      rw [readPlusWithin?.eq_def]
      split
      · exact absurd rfl hsign
      · exact readWithin?_eq_some_iff_written.mpr hwritten

end Decimal

namespace Ipv4

/-- The octets of the address are the numbers given, and zeros after them. -/
def HasOctets (ip : Ipv4) (ns : List Nat) : Prop :=
  ip.octets.map UInt8.toNat = ns ++ List.replicate (4 - ns.length) 0

instance (ip : Ipv4) (ns : List Nat) : Decidable (ip.HasOctets ns) :=
  inferInstanceAs (Decidable (ip.octets.map UInt8.toNat = ns ++ List.replicate (4 - ns.length) 0))

theorem hasOctets_octets (ip : Ipv4) : ip.HasOctets (ip.octets.map UInt8.toNat) :=
  (List.append_nil _).symm

/-- The addresses have the same first `n` bits. -/
def Agree (n : Nat) (a b : Ipv4) : Prop := ∀ i < n, a.bits.getMsbD i = b.bits.getMsbD i

instance (n : Nat) (a b : Ipv4) : Decidable (Agree n a b) :=
  inferInstanceAs (Decidable (∀ i < n, a.bits.getMsbD i = b.bits.getMsbD i))

end Ipv4

namespace Range

/-- Octets with dots between them. -/
inductive OctetsWritten : Text → List Nat → Prop where
  | last {t : Text} {n : Nat} : Decimal.Written 0 255 t n → OctetsWritten t [n]
  | dot {t u : Text} {n : Nat} {ns : List Nat} : Decimal.Written 0 255 t n → OctetsWritten u ns →
      OctetsWritten (t ++ '.' :: u) (n :: ns)

/-- An address of one to four octets, those missing being zero, and its prefix length: the one given
after a slash, or eight bits for each octet. -/
inductive Written : Text → Ipv4 → Nat → Prop where
  | bare {t : Text} {ns : List Nat} {ip : Ipv4} : OctetsWritten t ns → ns.length ≤ 4 →
      ip.HasOctets ns → Written t ip (8 * ns.length)
  | sized {t u : Text} {ns : List Nat} {ip : Ipv4} {n : Nat} : OctetsWritten t ns →
      ns.length ≤ 4 → ip.HasOctets ns → Decimal.Written 1 32 u n → Written (t ++ '/' :: u) ip n

theorem OctetsWritten.digit_or_dot {t : Text} {ns : List Nat} (h : OctetsWritten t ns) :
    ∀ c ∈ t, c.isDigit = true ∨ c = '.' := by
  induction h with
  | last hn => exact fun c hc => Or.inl (hn.digits c hc)
  | dot hn _ ih =>
    intro c hc
    rcases List.mem_append.mp hc with hc | hc
    · exact Or.inl (hn.digits c hc)
    · rcases List.mem_cons.mp hc with rfl | hc
      · exact Or.inr rfl
      · exact ih c hc

theorem OctetsWritten.le_of_mem {t : Text} {ns : List Nat} (h : OctetsWritten t ns) :
    ∀ n ∈ ns, n ≤ 255 := by
  induction h with
  | last hn =>
    intro n hmem
    rw [List.mem_singleton.mp hmem]
    exact hn.le_high
  | dot hn _ ih =>
    intro n hmem
    rcases List.mem_cons.mp hmem with rfl | hmem
    · exact hn.le_high
    · exact ih n hmem

theorem octetsWritten_iff_forall₂ (t : Text) (ns : List Nat) :
    OctetsWritten t ns ↔ List.Forall₂ (Decimal.Written 0 255) (t.splitOn '.') ns := by
  constructor
  · intro h
    have hdotless : ∀ {u : Text} {n : Nat}, Decimal.Written 0 255 u n → '.' ∉ u := by
      intro u n hu hmem
      exact absurd (hu.digits '.' hmem) (by decide)
    induction h with
    | last hn =>
      rw [List.splitOn_eq_singleton (hdotless hn)]
      exact .cons hn .nil
    | dot hn _ ih =>
      rw [List.splitOn_append_cons_self, List.splitOn_eq_singleton (hdotless hn)]
      exact .cons hn ih
  · intro h
    induction ns generalizing t with
    | nil => exact absurd (List.forall₂_nil_right_iff.mp h) (List.splitOn_ne_nil '.' t)
    | cons n ns ih =>
      -- The first octet ends at the first dot.
      cases hcut : Text.cut? (· == '.') t with
      | none =>
        rw [List.splitOn_eq_singleton ((Text.cut?_char_eq_none_iff '.' t).mp hcut)] at h
        obtain ⟨hn, hrest⟩ := List.forall₂_cons.mp h
        rw [List.forall₂_nil_left_iff.mp hrest]
        exact .last hn
      | some parts =>
        obtain ⟨first, rest⟩ := parts
        obtain ⟨hdotless, rfl⟩ := (Text.cut?_char_eq_some_iff '.' t first rest).mp hcut
        rw [List.splitOn_append_cons_self, List.splitOn_eq_singleton hdotless] at h
        obtain ⟨hn, hrest⟩ := List.forall₂_cons.mp h
        exact .dot hn (ih rest hrest)

theorem mapM_readWithin?_eq_some_iff {low high : Nat} (ts : List Text) (ns : List Nat) :
    ts.mapM (Decimal.readWithin? low high) = some ns ↔
      List.Forall₂ (Decimal.Written low high) ts ns := by
  induction ts generalizing ns with
  | nil => simp [eq_comm]
  | cons t ts ih =>
    simp only [List.mapM_cons, Option.bind_eq_bind, Option.bind_eq_some_iff, Option.pure_def,
      Option.some.injEq, Decimal.readWithin?_eq_some_iff_written, ih, List.forall₂_cons_left_iff,
      eq_comm (b := ns)]
    simp only [exists_and_left]

theorem readOctets_eq_some_iff (t : Text) (ns : List Nat) :
    readOctets t = some ns ↔ OctetsWritten t ns ∧ ns.length ≤ 4 := by
  simp only [readOctets, octetsWritten_iff_forall₂]
  constructor
  · intro h
    split at h
    · cases h
    · rename_i hlength
      have hparts := (mapM_readWithin?_eq_some_iff _ ns).mp h
      exact ⟨hparts, by have := hparts.length_eq; omega⟩
  · rintro ⟨hparts, hlength⟩
    have heq := hparts.length_eq
    rw [if_neg (by omega)]
    exact (mapM_readWithin?_eq_some_iff _ ns).mpr hparts

/-! The address of the octets that were read. -/

theorem padded_octets (ip : Ipv4) : padded (ip.octets.map UInt8.toNat) = ip := by
  simp only [padded, Ipv4.octets, List.map_cons, List.map_nil, List.getD_cons_zero,
    List.getD_cons_succ, UInt8.ofNat_toNat]
  exact ip.ofOctets_octets

theorem getD_le {ns : List Nat} {high : Nat} (hbound : ∀ n ∈ ns, n ≤ high) (i : Nat) :
    ns.getD i 0 ≤ high := by
  by_cases hi : i < ns.length
  · rw [List.getD_eq_getElem _ _ hi]
    exact hbound _ (List.getElem_mem hi)
  · rw [List.getD_eq_default _ _ (Nat.not_lt.mp hi)]
    exact Nat.zero_le high

theorem hasOctets_padded {ns : List Nat} (hlength : ns.length ≤ 4) (hbound : ∀ n ∈ ns, n ≤ 255) :
    (padded ns).HasOctets ns := by
  have hoctet (i : Nat) : (UInt8.ofNat (ns.getD i 0)).toNat = ns.getD i 0 :=
    UInt8.toNat_ofNat_of_lt' (Nat.lt_succ_of_le (getD_le hbound i))
  rw [Ipv4.HasOctets, padded, Ipv4.octets_ofOctets]
  simp only [List.map_cons, List.map_nil, hoctet]
  -- What is missing of four octets is filled with zeros, one length after the other.
  match ns with
  | [] | [_] | [_, _] | [_, _, _] | [_, _, _, _] => rfl

theorem padded_eq_iff {ns : List Nat} (hlength : ns.length ≤ 4) (hbound : ∀ n ∈ ns, n ≤ 255)
    (ip : Ipv4) : padded ns = ip ↔ ip.HasOctets ns := by
  constructor
  · rintro rfl
    exact hasOctets_padded hlength hbound
  · intro h
    have hsame : (padded ns).octets.map UInt8.toNat = ip.octets.map UInt8.toNat :=
      (hasOctets_padded hlength hbound).trans h.symm
    rw [← padded_octets (padded ns), hsame, padded_octets]

theorem readParts_eq_some_iff (t : Text) (ip : Ipv4) (n : Nat) :
    readParts t = some (ip, n) ↔ Written t ip n := by
  constructor
  · intro h
    rw [readParts] at h
    split at h
    · simp only [Option.map_eq_some_iff, Prod.mk.injEq] at h
      obtain ⟨ns, hns, rfl, rfl⟩ := h
      obtain ⟨hwritten, hlength⟩ := (readOctets_eq_some_iff t ns).mp hns
      exact .bare hwritten hlength (hasOctets_padded hlength hwritten.le_of_mem)
    · rename_i address bits hcut
      obtain ⟨-, rfl⟩ := (Text.cut?_char_eq_some_iff '/' t address bits).mp hcut
      simp only [Option.bind_eq_bind, Option.bind_eq_some_iff, Option.pure_def, Option.some.injEq,
        Prod.mk.injEq] at h
      obtain ⟨ns, hns, m, hm, rfl, rfl⟩ := h
      obtain ⟨hwritten, hlength⟩ := (readOctets_eq_some_iff address ns).mp hns
      exact .sized hwritten hlength (hasOctets_padded hlength hwritten.le_of_mem)
        (Decimal.readWithin?_eq_some_iff_written.mp hm)
  · intro h
    have hslash : ∀ {u : Text} {ns : List Nat}, OctetsWritten u ns → '/' ∉ u := by
      intro u ns hu hmem
      rcases hu.digit_or_dot '/' hmem with hdigit | heq
      · cases hdigit
      · cases heq
    cases h with
    | bare hwritten hlength hip =>
      have hcut := (Text.cut?_char_eq_none_iff '/' t).mpr (hslash hwritten)
      have haddress := (padded_eq_iff hlength hwritten.le_of_mem ip).mpr hip
      simp [readParts, hcut, (readOctets_eq_some_iff _ _).mpr ⟨hwritten, hlength⟩, haddress]
    | @sized a u _ _ _ hwritten hlength hip hn =>
      have hcut := (Text.cut?_char_eq_some_iff '/' _ a u).mpr ⟨hslash hwritten, rfl⟩
      have haddress := (padded_eq_iff hlength hwritten.le_of_mem ip).mpr hip
      simp [readParts, hcut, (readOctets_eq_some_iff _ _).mpr ⟨hwritten, hlength⟩, haddress,
        Decimal.readWithin?_eq_some_iff_written.mpr hn]

/-- A text is read as a range when it has the form of one and, unless host bits are cleared, its
address has no bits beyond the prefix. -/
theorem read?_eq_some_iff (hostBits : HostBits) (t : Text) (r : Range) :
    read? hostBits t = some r ↔ ∃ ip n, Written t ip n ∧ (hostBits = .reject → ip.keep n = ip) ∧
      r = around ip n := by
  simp only [read?, Option.bind_eq_bind, Option.bind_eq_some_iff, Prod.exists, readParts_eq_some_iff]
  constructor
  · rintro ⟨ip, n, hwritten, hr⟩
    split at hr
    · cases hr
    · rename_i hkept
      simp only [Option.pure_def, Option.some.injEq] at hr
      exact ⟨ip, n, hwritten, by simpa using hkept, hr.symm⟩
  · rintro ⟨ip, n, hwritten, hkept, rfl⟩
    refine ⟨ip, n, hwritten, ?_⟩
    rw [if_neg (by simpa using hkept)]
    rfl

theorem OctetsWritten.head_isDigit {t : Text} {ns : List Nat} (h : OctetsWritten t ns) :
    ∃ c rest, t = c :: rest ∧ c.isDigit = true := by
  have hnumber : ∀ {u : Text} {n : Nat}, Decimal.Written 0 255 u n →
      ∃ c rest, u = c :: rest ∧ c.isDigit = true := by
    intro u n hu
    obtain ⟨c, rest, rfl⟩ := List.exists_cons_of_ne_nil hu.nonempty
    exact ⟨c, rest, rfl, hu.digits c List.mem_cons_self⟩
  cases h with
  | last hn => exact hnumber hn
  | dot hn _ =>
    obtain ⟨c, rest, rfl, hc⟩ := hnumber hn
    exact ⟨c, _, rfl, hc⟩

theorem OctetsWritten.length_pos {t : Text} {ns : List Nat} (h : OctetsWritten t ns) :
    0 < ns.length := by
  cases h with
  | last | dot => exact Nat.succ_pos _

/-- A range starts with a digit, and is never of all addresses. -/
theorem read?_eq_some {hostBits : HostBits} {t : Text} {r : Range}
    (h : read? hostBits t = some r) : (∃ c rest, t = c :: rest ∧ c.isDigit = true) ∧ 0 < r.length := by
  obtain ⟨ip, n, hwritten, -, rfl⟩ := (read?_eq_some_iff hostBits t r).mp h
  have hmin : ∀ {n : Nat}, 0 < n → 0 < (around ip n).length := fun hn => Nat.lt_min.mpr ⟨hn, by decide⟩
  cases hwritten with
  | bare hoctets _ _ =>
    have hpos := hoctets.length_pos
    exact ⟨hoctets.head_isDigit, hmin (by omega)⟩
  | sized hoctets _ _ hn =>
    obtain ⟨c, rest, rfl, hc⟩ := hoctets.head_isDigit
    exact ⟨⟨c, _, rfl, hc⟩, hmin hn.low_le⟩

theorem contains_around_iff (ip : Ipv4) (n : Nat) (a : Ipv4) :
    (around ip n).contains a = true ↔ Ipv4.Agree n a ip := by
  have hbits : ∀ i < min n 32, (around ip n).network.bits.getMsbD i = ip.bits.getMsbD i := by
    intro i hi
    rw [around, Ipv4.getMsbD_keep, decide_eq_true hi, Bool.and_true]
  rw [contains_iff]
  constructor
  · intro h i hi
    by_cases hbit : i < 32
    · have hi' : i < min n 32 := Nat.lt_min.mpr ⟨hi, hbit⟩
      rw [h i hi', hbits i hi']
    · rw [BitVec.getMsbD_of_ge _ _ (by omega), BitVec.getMsbD_of_ge _ _ (by omega)]
  · intro h i hi
    rw [h i (Nat.lt_min.mp hi).1, hbits i hi]

end Range

end DnsBlocklist
