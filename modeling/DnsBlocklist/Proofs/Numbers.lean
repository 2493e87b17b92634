import DnsBlocklist.Proofs.IpSet.Written
import DnsBlocklist.Proofs.Name.Labels
import DnsBlocklist.Proofs.Netlist.Written

/-! Where numbers are read: the octets and the prefix length of a range, the prefix length after a
host name, the last octet of an answer, and the labels of a reversed address. -/

namespace DnsBlocklist
set_option autoImplicit false

variable {hostBits : HostBits} {t s : Text}

namespace Decimal

variable {low high n : Nat}

theorem plusWritten_iff : PlusWritten low high t n ↔
    Written low high t n ∨ ∃ u, t = '+' :: u ∧ Written low high u n := by
  constructor
  · intro h
    cases h with
    | plain h => exact Or.inl h
    | plus h => exact Or.inr ⟨_, rfl, h⟩
  · rintro (h | ⟨u, rfl, h⟩)
    · exact .plain h
    · exact .plus h

end Decimal

namespace Range

theorem read?_eq_some_iff_bare (ht : '/' ∉ t) (r : Range) :
    read? hostBits t = some r ↔ ∃ ns ip, List.Forall₂ (Decimal.Written 0 255) (t.splitOn '.') ns ∧
      ns.length ≤ 4 ∧ ip.HasOctets ns ∧ (hostBits = .reject → ip.keep (8 * ns.length) = ip) ∧
      r = around ip (8 * ns.length) := by
  simp only [read?_eq_some_iff, ← octetsWritten_iff_forall₂]
  constructor
  · rintro ⟨ip, n, hwritten, hclear, hr⟩
    cases hwritten with
    | bare hoctets hlength hip => exact ⟨_, ip, hoctets, hlength, hip, hclear, hr⟩
    | sized _ _ _ _ => simp at ht
  · rintro ⟨ns, ip, hoctets, hlength, hip, hclear, hr⟩
    exact ⟨ip, _, .bare hoctets hlength hip, hclear, hr⟩

theorem read?_eq_some_iff_sized (ht : '/' ∉ t) (r : Range) :
    read? hostBits (t ++ '/' :: s) = some r ↔
      ∃ ns ip n, List.Forall₂ (Decimal.Written 0 255) (t.splitOn '.') ns ∧ ns.length ≤ 4 ∧
        ip.HasOctets ns ∧ Decimal.Written 1 32 s n ∧ (hostBits = .reject → ip.keep n = ip) ∧
        r = around ip n := by
  have hcut := (Text.cut?_char_eq_some_iff '/' _ t s).mpr ⟨ht, rfl⟩
  simp only [read?_eq_some_iff, ← octetsWritten_iff_forall₂, ← readParts_eq_some_iff]
  constructor
  · rintro ⟨ip, n, hparts, hclear, hr⟩
    simp only [readParts, hcut, Option.bind_eq_bind, Option.bind_eq_some_iff, Option.pure_def,
      Option.some.injEq, Prod.mk.injEq] at hparts
    obtain ⟨ns, hns, m, hm, rfl, rfl⟩ := hparts
    obtain ⟨hoctets, hlength⟩ := (readOctets_eq_some_iff t ns).mp hns
    exact ⟨ns, padded ns, m, hoctets, hlength, hasOctets_padded hlength hoctets.le_of_mem,
      Decimal.readWithin?_eq_some_iff_written.mp hm, hclear, hr⟩
  · rintro ⟨ns, ip, n, hoctets, hlength, hip, hn, hclear, hr⟩
    have hwritten := Written.sized hoctets hlength hip hn
    exact ⟨ip, n, (readParts_eq_some_iff _ _ _).mpr hwritten, hclear, hr⟩

end Range

namespace Netlist

theorem Target.read_eq_ok_iff_sized {host : Text} (hhost : '/' ∉ host)
    (hother : ∃ c ∈ host ++ '/' :: s, isRangeCharacter c = false) (target : Target) :
    Target.read hostBits (host ++ '/' :: s) = .ok target ↔
      ∃ n, Decimal.PlusWritten 1 32 s n ∧ target = .host host n := by
  have hcut := (Text.cut?_char_eq_some_iff '/' _ host s).mpr ⟨hhost, rfl⟩
  have hall : ¬ (host ++ '/' :: s).all isRangeCharacter = true := by
    obtain ⟨c, hc, hfalse⟩ := hother
    intro hall
    rw [List.all_eq_true.mp hall c hc] at hfalse
    cases hfalse
  simp only [← Decimal.readPlusWithin?_eq_some_iff_written]
  rw [Target.read, if_neg hall, readHost]
  simp only [hcut]
  cases Decimal.readPlusWithin? 1 32 s with
  | none => simp
  | some n => simp [eq_comm]

end Netlist

namespace IpSet

theorem address_readListing?_eq_some_iff {base : Listing} {answer rest : Text} {ip : Ipv4}
    (hanswer : ':' ∉ answer) (hrest : rest = [] ∨ rest.head? = some ':')
    (hne : Text.trim answer ≠ []) (hread : Ipv4.read? (Text.trim answer) = none) :
    (readListing? base (answer ++ rest)).map (·.address) = some ip ↔
      ∃ n, Decimal.PlusWritten 0 255 (Text.trim answer) n ∧
        ip = Ipv4.ofOctets 127 0 0 (UInt8.ofNat n) := by
  have hnumber : readAnswer? (Text.trim answer) = some ip ↔
      ∃ n, Decimal.PlusWritten 0 255 (Text.trim answer) n ∧
        ip = Ipv4.ofOctets 127 0 0 (UInt8.ofNat n) := by
    rw [readAnswer?, hread]
    simp only [Option.map_eq_some_iff, Decimal.readPlusWithin?_eq_some_iff_written,
      eq_comm (a := ip)]
  have hplace : (readListing? base (answer ++ rest)).map (·.address) =
      readAnswer? (Text.trim answer) := by
    rcases hrest with rfl | hhead
    · have hcut := (Text.cut?_char_eq_none_iff ':' answer).mpr hanswer
      simp [readListing?, hcut, hne, Function.comp_def]
    · obtain ⟨u, rfl⟩ := List.head?_eq_some_iff.mp hhead
      have hcut := (Text.cut?_char_eq_some_iff ':' _ answer u).mpr ⟨hanswer, rfl⟩
      simp [readListing?, hcut, hne, Function.comp_def]
  rw [hplace, hnumber]

end IpSet

namespace Name

theorem reversedIpv4?_eq_some_iff_written {name : Name} {k : Nat} {d c b a : Label}
    {rest : List Label} (hlabels : name.labels = d :: c :: b :: a :: rest)
    (hdepth : name.depth = k + 4) (ip : Ipv4) :
    name.reversedIpv4? k = some ip ↔ ∃ x y z w,
      Decimal.Written 0 255 a.text x ∧ Decimal.Written 0 255 b.text y ∧
      Decimal.Written 0 255 c.text z ∧ Decimal.Written 0 255 d.text w ∧
      ip = Ipv4.ofOctets (UInt8.ofNat x) (UInt8.ofNat y) (UInt8.ofNat z) (UInt8.ofNat w) := by
  simp only [← Decimal.readWithin?_eq_some_iff_written]
  rw [reversedIpv4?, if_pos hdepth, hlabels]
  simp only [Option.bind_eq_bind, Option.bind_eq_some_iff, Option.pure_def, Option.some.injEq]
  constructor
  · rintro ⟨x, hx, y, hy, z, hz, w, hw, rfl⟩
    exact ⟨x, y, z, w, hx, hy, hz, hw, rfl⟩
  · rintro ⟨x, y, z, w, hx, hy, hz, hw, rfl⟩
    exact ⟨x, hx, y, hy, z, hz, w, hw, rfl⟩

end Name

/-- What is read as a number, place by place. Octets, the prefix length of a range and the labels of a
reversed address are digits with a value in range. The prefix length after a host name and the last
octet of an answer may have one plus sign in front of such digits, and nothing else. -/
theorem numbers_read (hostBits : HostBits) (s : Text) :
    (∀ r, '/' ∉ s → (Range.read? hostBits s = some r ↔
      ∃ ns ip, List.Forall₂ (Decimal.Written 0 255) (s.splitOn '.') ns ∧ ns.length ≤ 4 ∧
        ip.HasOctets ns ∧ (hostBits = .reject → ip.keep (8 * ns.length) = ip) ∧
        r = Range.around ip (8 * ns.length))) ∧
    (∀ t r, '/' ∉ t → (Range.read? hostBits (t ++ '/' :: s) = some r ↔
      ∃ ns ip n, List.Forall₂ (Decimal.Written 0 255) (t.splitOn '.') ns ∧ ns.length ≤ 4 ∧
        ip.HasOctets ns ∧ Decimal.Written 1 32 s n ∧ (hostBits = .reject → ip.keep n = ip) ∧
        r = Range.around ip n)) ∧
    (∀ host target, '/' ∉ host →
      (∃ c ∈ host ++ '/' :: s, Netlist.isRangeCharacter c = false) →
      (Netlist.Target.read hostBits (host ++ '/' :: s) = .ok target ↔
        ∃ n, Decimal.PlusWritten 1 32 s n ∧ target = .host host n)) ∧
    (∀ base rest ip, ':' ∉ s → (rest = [] ∨ rest.head? = some ':') → Text.trim s ≠ [] →
      Ipv4.read? (Text.trim s) = none →
      ((IpSet.readListing? base (s ++ rest)).map (·.address) = some ip ↔
        ∃ n, Decimal.PlusWritten 0 255 (Text.trim s) n ∧
          ip = Ipv4.ofOctets 127 0 0 (UInt8.ofNat n))) ∧
    (∀ (name : Name) k d c b a rest ip, name.labels = d :: c :: b :: a :: rest →
      name.depth = k + 4 → (name.reversedIpv4? k = some ip ↔ ∃ x y z w,
        Decimal.Written 0 255 a.text x ∧ Decimal.Written 0 255 b.text y ∧
        Decimal.Written 0 255 c.text z ∧ Decimal.Written 0 255 d.text w ∧
        ip = Ipv4.ofOctets (UInt8.ofNat x) (UInt8.ofNat y) (UInt8.ofNat z) (UInt8.ofNat w))) ∧
    ∀ low high t n, Decimal.PlusWritten low high t n ↔
      Decimal.Written low high t n ∨ ∃ u, t = '+' :: u ∧ Decimal.Written low high u n := by
  refine ⟨fun r hs => Range.read?_eq_some_iff_bare hs r,
    fun t r ht => Range.read?_eq_some_iff_sized ht r,
    fun host target hhost hother => Netlist.Target.read_eq_ok_iff_sized hhost hother target,
    fun base rest ip hs hrest hne hread =>
      IpSet.address_readListing?_eq_some_iff hs hrest hne hread,
    fun name k d c b a rest ip hlabels hdepth =>
      Name.reversedIpv4?_eq_some_iff_written hlabels hdepth ip,
    fun low high t n => Decimal.plusWritten_iff⟩

/-- The name `8.7.6.5`. -/
def reversedName : Name where
  labels := [⟨[56], by decide, by decide⟩, ⟨[55], by decide, by decide⟩,
    ⟨[54], by decide, by decide⟩, ⟨[53], by decide, by decide⟩]
  rooted := true
  fits := by decide

/-- One number in each place. -/
theorem numbers_read_plain :
    Range.read? .reject "10.1".toList = some (Range.around (Ipv4.ofOctets 10 1 0 0) 16) ∧
    Range.read? .reject "10/8".toList = some (Range.around (Ipv4.ofOctets 10 0 0 0) 8) ∧
    Netlist.Target.read .reject "mail/024".toList = .ok (.host "mail".toList 24) ∧
    (IpSet.readListing? Listing.initial " 5 :x".toList).map (·.address) =
      some (Ipv4.ofOctets 127 0 0 5) ∧
    reversedName.reversedIpv4? 0 = some (Ipv4.ofOctets 5 6 7 8) := by
  have hwritten : ∀ {low high n : Nat} {t : Text}, Decimal.readWithin? low high t = some n →
      Decimal.Written low high t n := Decimal.readWithin?_eq_some_iff_written.mp
  refine ⟨?_, ?_, ?_, ?_, ?_⟩
  · obtain ⟨hbare, -⟩ := numbers_read .reject "10.1".toList
    refine (hbare _ (by decide)).mpr ⟨[10, 1], _, ?_, by decide, by decide, by decide, rfl⟩
    exact .cons (hwritten (by decide)) (.cons (hwritten (by decide)) .nil)
  · obtain ⟨-, hsized, -⟩ := numbers_read .reject "8".toList
    exact (hsized "10".toList _ (by decide)).mpr ⟨[10], _, 8, .cons (hwritten (by decide)) .nil,
      by decide, by decide, hwritten (by decide), by decide, rfl⟩
  · obtain ⟨-, -, hhost, -⟩ := numbers_read .reject "024".toList
    exact (hhost "mail".toList _ (by decide) ⟨'m', by decide, by decide⟩).mpr
      ⟨24, .plain (hwritten (by decide)), rfl⟩
  · obtain ⟨-, -, -, hanswer, -⟩ := numbers_read .reject " 5 ".toList
    exact (hanswer Listing.initial ":x".toList _ (by decide) (Or.inr rfl) (by decide)
      (by decide)).mpr ⟨5, .plain (hwritten (by decide)), rfl⟩
  · obtain ⟨-, -, -, -, hlabels, -⟩ := numbers_read .reject []
    exact (hlabels reversedName 0 _ _ _ _ [] _ rfl rfl).mpr
      ⟨5, 6, 7, 8, hwritten rfl, hwritten rfl, hwritten rfl, hwritten rfl, rfl⟩

/-- A plus sign is no digit, and two of the places allow it. -/
theorem plus_read :
    Netlist.Target.read .reject "mail/+24".toList = .ok (.host "mail".toList 24) ∧
    (∀ n, ¬ Decimal.Written 1 32 "+24".toList n) ∧
    (IpSet.readListing? Listing.initial "+5".toList).map (·.address) =
      some (Ipv4.ofOctets 127 0 0 5) ∧
    ∀ n, ¬ Decimal.Written 0 255 "+5".toList n := by
  have hplus : ∀ {low high n : Nat} {u : Text}, ¬ Decimal.Written low high ('+' :: u) n := by
    intro low high n u h
    exact absurd (h.digits '+' List.mem_cons_self) (by decide)
  exact ⟨by decide +kernel, fun n => hplus, by decide +kernel, fun n => hplus⟩

end DnsBlocklist
