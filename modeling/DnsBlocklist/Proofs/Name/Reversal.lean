import DnsBlocklist.Proofs.Name.Labels
import DnsBlocklist.Proofs.Range.Grammar
import DnsBlocklist.Proofs.Zone.Shadow

/-! Addresses written in reverse. A name has at most 127 labels, so a byte counts them, and the labels that
it has in front of an origin are the difference of two such counts. Four of them that are octets give
one address, and the labels written for an address give it back. -/

namespace DnsBlocklist
set_option autoImplicit false

theorem two_mul_length_lt_encodedLength (labels : List Label) :
    2 * labels.length < encodedLength labels := by
  induction labels with
  | nil => exact Nat.zero_lt_one
  | cons l ls ih =>
    have hpos : 0 < l.bytes.length := List.length_pos_iff.mpr l.nonempty
    rw [List.length_cons, encodedLength]
    omega

namespace Label

/-- An octet in decimal, without leading zeros. -/
def ofOctet (v : UInt8) : Label where
  bytes := (Decimal.write v.toNat).map fun c => UInt8.ofNat c.toNat
  nonempty := by
    rw [ne_eq, List.map_eq_nil_iff]
    exact Nat.toDigits_ne_nil
  short := by
    obtain ⟨v⟩ := v
    revert v
    decide +kernel

theorem text_ofOctet (v : UInt8) : (ofOctet v).text = Decimal.write v.toNat := by
  obtain ⟨v⟩ := v
  revert v
  decide +kernel

theorem isOctet_ofOctet (v : UInt8) : (ofOctet v).IsOctet v := by
  have hwritten := Decimal.written_write (Nat.zero_le v.toNat) (Nat.le_of_lt_succ v.toNat_lt)
  refine ⟨?_, ?_, ?_⟩
  · rw [text_ofOctet]
    exact hwritten.nonempty
  · rw [text_ofOctet]
    exact hwritten.digits
  · rw [text_ofOctet]
    exact hwritten.value

/-- The bytes of an octet are the ASCII digits. -/
theorem IsOctet.digit_of_mem {l : Label} {v : UInt8} (h : l.IsOctet v) {b : UInt8}
    (hb : b ∈ l.bytes) : 48 ≤ b ∧ b ≤ 57 := by
  have hdigit : ∀ b : UInt8, (Char.ofNat b.toNat).isDigit = true → 48 ≤ b ∧ b ≤ 57 := by
    rintro ⟨b⟩
    revert b
    decide +kernel
  exact hdigit b (h.digits _ (List.mem_map_of_mem hb))

end Label

/-- The octets in front of an origin, the last one first. -/
def Ipv4.reversal (ip : Ipv4) : List Label := ip.octets.reverse.map Label.ofOctet

namespace Name

theorem length_labels_le (n : Name) : n.labels.length ≤ 127 := by
  have hlt := two_mul_length_lt_encodedLength n.labels
  have hfits := n.fits
  omega

theorem depth_lt (n : Name) : n.depth < 256 := by
  have hle := n.length_labels_le
  rcases depth_cases n with ⟨-, h⟩ | ⟨-, h⟩ <;> omega

/-- How many labels more than a zone a name has, counted in bytes; nothing for a deeper zone. -/
def ahead? (n : Name) (zoneDepth : UInt8) : Option UInt8 :=
  if zoneDepth ≤ UInt8.ofNat n.depth then some (UInt8.ofNat n.depth - zoneDepth) else none

theorem ahead?_eq_some_iff (n : Name) (k d : UInt8) :
    n.ahead? k = some d ↔ n.depth = k.toNat + d.toNat := by
  have hdepth : (UInt8.ofNat n.depth).toNat = n.depth := by
    rw [UInt8.toNat_ofNat']
    exact Nat.mod_eq_of_lt n.depth_lt
  rw [ahead?]
  split
  · rename_i hle
    have hdiff := UInt8.toNat_sub_of_le _ _ hle
    rw [UInt8.le_iff_toNat_le, hdepth] at hle
    rw [Option.some.injEq, ← UInt8.toNat_inj, hdiff, hdepth]
    omega
  · rename_i hlt
    rw [UInt8.le_iff_toNat_le, hdepth] at hlt
    constructor
    · intro h
      cases h
    · intro h
      omega

/-- A name whose first labels are octets has no asterisk in front, so all its labels count. -/
theorem reversedIpv4?_eq_some_iff_length (n : Name) (k : Nat) (ip : Ipv4) :
    n.reversedIpv4? k = some ip ↔
      n.labels.length = k + 4 ∧ ∃ rest, n.Reverses ip rest := by
  rw [reversedIpv4?_eq_some_iff]
  constructor
  · rintro ⟨hdepth, rest, hrev⟩
    exact ⟨(depth_eq_length hrev.not_starred).symm.trans hdepth, rest, hrev⟩
  · rintro ⟨hlength, rest, hrev⟩
    exact ⟨(depth_eq_length hrev.not_starred).trans hlength, rest, hrev⟩

theorem Reverses.digits {n : Name} {ip : Ipv4} {rest : List Label} (h : n.Reverses ip rest) :
    ∀ l ∈ n.labels.take 4, l.bytes ≠ [] ∧ ∀ b ∈ l.bytes, 48 ≤ b ∧ b ≤ 57 := by
  obtain ⟨hlabels, ha, hb, hc, hd⟩ := h
  intro l hl
  rw [hlabels] at hl
  simp only [List.take_succ_cons, List.take_zero, List.mem_cons, List.not_mem_nil, or_false] at hl
  refine ⟨l.nonempty, ?_⟩
  rcases hl with rfl | rfl | rfl | rfl
  · exact fun _ => hd.digit_of_mem
  · exact fun _ => hc.digit_of_mem
  · exact fun _ => hb.digit_of_mem
  · exact fun _ => ha.digit_of_mem

theorem reverses_reversal {n : Name} {ip : Ipv4} {rest : List Label}
    (h : n.labels = ip.reversal ++ rest) : n.Reverses ip rest :=
  .mk h (Label.isOctet_ofOctet _) (Label.isOctet_ofOctet _) (Label.isOctet_ofOctet _)
    (Label.isOctet_ofOctet _)

/-- The address that a name asks for in front of `k` labels. It is there exactly if the name has four
labels more, all counted, and these are its octets in decimal, the last one first; nothing but digits
is taken for an octet. What is written for an address in front of an origin asks for that address. The
difference of the two numbers of labels is exact in bytes wherever there is one. -/
theorem reversedIpv4?_extracts (n : Name) :
    (∀ k ip, n.reversedIpv4? k = some ip ↔
      n.labels.length = k + 4 ∧ ∃ rest, n.Reverses ip rest) ∧
    (∀ k ip, n.reversedIpv4? k = some ip →
      ∀ l ∈ n.labels.take 4, l.bytes ≠ [] ∧ ∀ b ∈ l.bytes, 48 ≤ b ∧ b ≤ 57) ∧
    (∀ ip (origin : Name), n.labels = ip.reversal ++ origin.labels →
      n.reversedIpv4? origin.labels.length = some ip) ∧
    (∀ k d : UInt8, n.ahead? k = some d ↔ n.depth = k.toNat + d.toNat) ∧
    ∀ (k : UInt8) ip, n.reversedIpv4? k.toNat = some ip → n.ahead? k = some 4 := by
  refine ⟨n.reversedIpv4?_eq_some_iff_length, fun k ip h => ?_, fun ip origin h => ?_,
    n.ahead?_eq_some_iff, fun k ip h => ?_⟩
  · obtain ⟨-, rest, hrev⟩ := (n.reversedIpv4?_eq_some_iff_length k ip).mp h
    exact hrev.digits
  · refine (n.reversedIpv4?_eq_some_iff_length _ ip).mpr ⟨?_, _, reverses_reversal h⟩
    rw [h, List.length_append, Nat.add_comm]
    rfl
  · exact (n.ahead?_eq_some_iff k 4).mpr ((n.reversedIpv4?_eq_some_iff k.toNat ip).mp h).1

/-- The name `1.2.0.192.*.ex.` has two labels after the octets, and a zone `*.ex.` is of depth one. -/
def reversedUnderStar : Name where
  labels := (Ipv4.ofOctets 192 0 2 1).reversal ++ Snapshot.starOrigin.labels
  rooted := true
  fits := by decide

theorem reversedIpv4?_extracts_underStar :
    reversedUnderStar.reversedIpv4? 2 = some (Ipv4.ofOctets 192 0 2 1) ∧
    reversedUnderStar.reversedIpv4? Snapshot.starOrigin.depth = none ∧
    reversedUnderStar.ahead? 2 = some 4 := by
  obtain ⟨hiff, -, hwritten, -, hbytes⟩ := reversedIpv4?_extracts reversedUnderStar
  have hread := hwritten (Ipv4.ofOctets 192 0 2 1) Snapshot.starOrigin rfl
  refine ⟨hread, Option.eq_none_iff_forall_ne_some.mpr fun ip h => ?_, hbytes 2 _ hread⟩
  obtain ⟨hlength, -⟩ := (hiff _ ip).mp h
  cases hlength

end Name

end DnsBlocklist
