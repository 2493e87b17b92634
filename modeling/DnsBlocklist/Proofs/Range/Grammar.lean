import DnsBlocklist.Proofs.Range.Written

/-! Ranges and their text. Reading accepts exactly the grammar of ranges under either way to treat host
bits, and what is written for a range that was read is read as the same range again. -/

namespace DnsBlocklist
set_option autoImplicit false

namespace Decimal

theorem value_write (n : Nat) : value (write n) = n :=
  Nat.ofDigitChars_toDigits (by decide) (by decide)

theorem written_write {low high n : Nat} (hlow : low ≤ n) (hhigh : n ≤ high) :
    Written low high (write n) n where
  nonempty := Nat.toDigits_ne_nil
  digits _ hc := Nat.isDigit_of_mem_toDigits (by decide) (by decide) hc
  value := value_write n
  low_le := hlow
  le_high := hhigh

end Decimal

namespace Range

/-- Host bits are cleared, or the address has no bits beyond the first `n`. -/
def Fits (hostBits : HostBits) (ip : Ipv4) (n : Nat) : Prop :=
  hostBits = .clear ∨ ∀ i, n ≤ i → ip.bits.getMsbD i = false

theorem keep_eq_self_iff (ip : Ipv4) (n : Nat) :
    ip.keep n = ip ↔ ∀ i, n ≤ i → ip.bits.getMsbD i = false := by
  constructor
  · intro h i hi
    have hbit := Ipv4.getMsbD_keep ip n i
    rw [h] at hbit
    rw [hbit, decide_eq_false (Nat.not_lt.mpr hi), Bool.and_false]
  · intro h
    apply Ipv4.ext
    apply BitVec.eq_of_getMsbD_eq
    intro i _
    rw [Ipv4.getMsbD_keep]
    by_cases hi : i < n
    · rw [decide_eq_true hi, Bool.and_true]
    · rw [decide_eq_false hi, Bool.and_false, h i (Nat.not_lt.mp hi)]

theorem fits_iff (hostBits : HostBits) (ip : Ipv4) (n : Nat) :
    Fits hostBits ip n ↔ (hostBits = .reject → ip.keep n = ip) := by
  rw [Fits, keep_eq_self_iff]
  cases hostBits with
  | reject => simp
  | clear => simp

/-- A prefix length is never zero, and never longer than an address. -/
theorem Written.bounds {t : Text} {ip : Ipv4} {n : Nat} (h : Written t ip n) : 1 ≤ n ∧ n ≤ 32 := by
  cases h with
  | bare hoctets hlength _ =>
    have hpos := hoctets.length_pos
    omega
  | sized _ _ _ hn => exact ⟨hn.low_le, hn.le_high⟩

theorem around_eq_iff {ip : Ipv4} {n : Nat} (hn : n ≤ 32) (r : Range) :
    r = around ip n ↔
      (∀ i, r.network.bits.getMsbD i = (ip.bits.getMsbD i && decide (i < n))) ∧ r.length = n := by
  have hmin : min n 32 = n := Nat.min_eq_left hn
  constructor
  · rintro rfl
    refine ⟨fun i => ?_, hmin⟩
    rw [around, Ipv4.getMsbD_keep, hmin]
  · rintro ⟨hbits, hlength⟩
    have hnetwork : r.network = ip.keep n := by
      apply Ipv4.ext
      apply BitVec.eq_of_getMsbD_eq
      intro i _
      rw [hbits i, Ipv4.getMsbD_keep]
    cases r
    simp only [around, hmin, mk.injEq]
    exact ⟨hnetwork, hlength⟩

theorem around_network (r : Range) : around r.network r.length = r :=
  ((around_eq_iff r.length_le r).mpr ⟨fun i => by rw [← Ipv4.getMsbD_keep, r.aligned], rfl⟩).symm

/-! What is written for a range. -/

theorem octetsWritten_text (ip : Ipv4) :
    OctetsWritten ip.text (ip.octets.map UInt8.toNat) := by
  have hoctet (i : Nat) : Decimal.Written 0 255 (Decimal.write (ip.octet i).toNat)
      (ip.octet i).toNat :=
    Decimal.written_write (Nat.zero_le _) (Nat.le_of_lt_succ (ip.octet i).toNat_lt)
  have hwritten := (((OctetsWritten.last (hoctet 3)).dot (hoctet 2)).dot (hoctet 1)).dot (hoctet 0)
  simpa [Ipv4.text, Ipv4.pieces, Ipv4.octets] using hwritten

theorem written_text {r : Range} (h : 0 < r.length) : Written r.text r.network r.length :=
  .sized (octetsWritten_text r.network) (by simp [Ipv4.octets]) r.network.hasOctets_octets
    (Decimal.written_write h r.length_le)

theorem read?_text {r : Range} (h : 0 < r.length) (hostBits : HostBits) :
    read? hostBits r.text = some r :=
  (read?_eq_some_iff hostBits r.text r).mpr
    ⟨r.network, r.length, written_text h, fun _ => r.aligned, (around_network r).symm⟩

/-! Reading, with the error of what is no range. -/

variable {hostBits : HostBits} {t : Text} {r : Range}

theorem read_eq_ok_iff : read hostBits t = .ok r ↔ read? hostBits t = some r := by
  rw [read]
  cases read? hostBits t with
  | none => simp
  | some r' => simp

theorem read_eq_error_iff {fault : ConfigFault} :
    read hostBits t = .error fault ↔ fault = .range t ∧ read? hostBits t = none := by
  rw [read]
  cases read? hostBits t with
  | none => simp [eq_comm]
  | some r' => simp

theorem read?_eq_some_iff_bits :
    read? hostBits t = some r ↔ ∃ ip n, Written t ip n ∧ Fits hostBits ip n ∧
      (∀ i, r.network.bits.getMsbD i = (ip.bits.getMsbD i && decide (i < n))) ∧ r.length = n := by
  rw [read?_eq_some_iff]
  constructor
  · rintro ⟨ip, n, hwritten, hkept, hr⟩
    exact ⟨ip, n, hwritten, (fits_iff hostBits ip n).mpr hkept,
      (around_eq_iff hwritten.bounds.2 r).mp hr⟩
  · rintro ⟨ip, n, hwritten, hfits, hr⟩
    exact ⟨ip, n, hwritten, (fits_iff hostBits ip n).mp hfits,
      (around_eq_iff hwritten.bounds.2 r).mpr hr⟩

theorem read?_eq_none_iff :
    read? hostBits t = none ↔ ¬ ∃ ip n, Written t ip n ∧ Fits hostBits ip n := by
  rw [Option.eq_none_iff_forall_ne_some]
  constructor
  · rintro h ⟨ip, n, hwritten, hfits⟩
    exact h (around ip n) ((read?_eq_some_iff hostBits t _).mpr
      ⟨ip, n, hwritten, (fits_iff hostBits ip n).mp hfits, rfl⟩)
  · rintro h r hr
    obtain ⟨ip, n, hwritten, hfits, -⟩ := read?_eq_some_iff_bits.mp hr
    exact h ⟨ip, n, hwritten, hfits⟩

theorem read?_clear (h : read? hostBits t = some r) : read? .clear t = some r := by
  obtain ⟨ip, n, hwritten, -, hr⟩ := (read?_eq_some_iff hostBits t r).mp h
  exact (read?_eq_some_iff .clear t r).mpr ⟨ip, n, hwritten, nofun, hr⟩

/-- A text is read as a range exactly when it is an address of one to four octets, alone or with a prefix
length after a slash, whose host bits may be cleared or are not set; the range has the address without
them. Any other text is refused with the text itself. Rejecting host bits only refuses more, a range is
read back from its text either way, and the distance by which reading shifts a mask is below 32. -/
theorem read_grammar (t : Text) :
    (∀ hostBits r, read hostBits t = .ok r ↔ ∃ ip n, Written t ip n ∧ Fits hostBits ip n ∧
      (∀ i, r.network.bits.getMsbD i = (ip.bits.getMsbD i && decide (i < n))) ∧ r.length = n) ∧
    (∀ hostBits fault, read hostBits t = .error fault ↔
      fault = .range t ∧ ¬ ∃ ip n, Written t ip n ∧ Fits hostBits ip n) ∧
    (∀ r, read .reject t = .ok r → read .clear t = .ok r) ∧
    (∀ hostBits r, read hostBits t = .ok r → ∀ hostBits', read hostBits' r.text = .ok r) ∧
    ∀ ip n, readParts t = some (ip, n) → n ≤ 32 ∧ 32 - n < 32 := by
  refine ⟨fun hostBits r => ?_, fun hostBits fault => ?_, fun r h => ?_, fun hostBits r h other => ?_,
    fun ip n h => ?_⟩
  · rw [read_eq_ok_iff, read?_eq_some_iff_bits]
  · rw [read_eq_error_iff, read?_eq_none_iff]
  · exact read_eq_ok_iff.mpr (read?_clear (read_eq_ok_iff.mp h))
  · obtain ⟨-, hpos⟩ := read?_eq_some (read_eq_ok_iff.mp h)
    exact read_eq_ok_iff.mpr (read?_text hpos other)
  · obtain ⟨hpos, hle⟩ := ((readParts_eq_some_iff t ip n).mp h).bounds
    omega

end Range

end DnsBlocklist
