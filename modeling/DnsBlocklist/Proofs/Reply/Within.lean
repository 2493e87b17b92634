import DnsBlocklist.Proofs.Message.RoundTrip
import DnsBlocklist.Proofs.Text.Cut
import DnsBlocklist.Proofs.Zone.Deepest

/-! Replies within a zone. The zone's own name exists without records, four decimal labels in front of
it ask about an address, and the longest range around that address in the zone's data decides. -/

namespace DnsBlocklist
set_option autoImplicit false

/-! Names within a zone. -/

namespace Name

/-- The name is an origin with four decimal labels in front of it, the octets of an address from last
to first. -/
def AsksFor (n : Name) (ip : Ipv4) (origin : Name) : Prop :=
  ∃ rest, n.Reverses ip rest ∧ rest.map Label.lower = origin.lower.labels

theorem AsksFor.length_eq {n origin : Name} {ip : Ipv4} (h : n.AsksFor ip origin) :
    n.labels.length = origin.labels.length + 4 := by
  obtain ⟨rest, ⟨hlabels, _, _, _, _⟩, hrest⟩ := h
  have hlen := congrArg List.length hrest
  rw [List.length_map, length_labels_lower] at hlen
  rw [hlabels, ← hlen]
  rfl

theorem AsksFor.not_equals {n origin : Name} {ip : Ipv4} (h : n.AsksFor ip origin) :
    ¬ n.Equals origin := by
  intro hequals
  have hmore := h.length_eq
  have hsame := hequals.length_eq
  omega

theorem AsksFor.not_isStarOf {n origin : Name} {ip : Ipv4} (h : n.AsksFor ip origin) :
    ¬ n.IsStarOf origin := by
  intro hstar
  have hmore := h.length_eq
  have hone := hstar.length_eq
  omega

/-- Under an origin that starts with an asterisk no name asks for an address, as the asterisk would have
to be its fourth octet. -/
theorem reversedIpv4?_eq_some_iff_asksFor {n origin : Name} (hends : n.EndsIn origin) (ip : Ipv4) :
    n.reversedIpv4? origin.depth = some ip ↔ ¬ origin.Starred ∧ n.AsksFor ip origin := by
  rw [reversedIpv4?_eq_some_iff]
  constructor
  · rintro ⟨hdepth, rest, hrev⟩
    rw [depth_eq_length hrev.not_starred] at hdepth
    rcases depth_cases origin with ⟨hstarred, hlen⟩ | ⟨hplain, hlen⟩
    · obtain ⟨l, ls, hlabels, hstar⟩ := (starred_iff_lower origin).mp hstarred
      have hdrop := hends.drop_eq (k := 3) (by omega)
      obtain ⟨hn, ha, _, _, _⟩ := hrev
      rw [hn, hlabels] at hdrop
      obtain ⟨rfl, -⟩ := List.cons.inj hdrop
      exact absurd ((Label.lower_bytes_eq_star_iff _).mp hstar) ha.bytes_ne_star
    · have hdrop := hends.drop_eq (k := 4) (by omega)
      refine ⟨hplain, rest, hrev, ?_⟩
      obtain ⟨hlabels, _, _, _, _⟩ := hrev
      rw [hlabels] at hdrop
      exact hdrop
  · rintro ⟨horigin, h⟩
    have hlen := h.length_eq
    obtain ⟨rest, hrev, _⟩ := h
    rw [depth_eq_length hrev.not_starred, depth_eq_length horigin]
    exact ⟨hlen, rest, hrev⟩

end Name

namespace Reply

/-! A zone and a name under it. -/

section Within

variable {zone : Zone} {q : Question}

theorem listed?_eq_some_iff (hends : q.name.EndsIn zone.origin) (hproper : zone.data.Proper)
    (ip : Ipv4) (l : Listing) :
    listed? zone q = some (ip, l) ↔ ¬ zone.origin.Starred ∧ q.name.AsksFor ip zone.origin ∧
      ∃ range, zone.data.Longest ip range (some l) := by
  unfold listed?
  simp only [Option.bind_eq_bind, Option.bind_eq_some_iff, Option.pure_def, Option.some.injEq,
    Prod.mk.injEq]
  constructor
  · rintro ⟨ip', hip, l', hl, rfl, rfl⟩
    obtain ⟨hplain, hasks⟩ := (Name.reversedIpv4?_eq_some_iff_asksFor hends ip').mp hip
    exact ⟨hplain, hasks, (IpSet.lookup_eq_some_iff hproper ip' l').mp hl⟩
  · rintro ⟨hplain, hasks, hlongest⟩
    exact ⟨ip, (Name.reversedIpv4?_eq_some_iff_asksFor hends ip).mpr ⟨hplain, hasks⟩, l,
      (IpSet.lookup_eq_some_iff hproper ip l).mpr hlongest, rfl, rfl⟩

theorem within_of_equals_or_star
    (h : q.name.Equals zone.origin ∨ q.name.IsStarOf zone.origin) (header : Header) :
    within header q zone = plain header q true .noError := by
  unfold within
  rw [if_pos]
  rcases h with hequals | hstar
  · exact hequals.depth_eq
  · exact hstar.depth_eq

variable (hends : q.name.EndsIn zone.origin) (hproper : zone.data.Proper)

include hends hproper

theorem within_of_longest (hplain : ¬ zone.origin.Starred) {ip : Ipv4} {range : Range} {l : Listing}
    (hasks : q.name.AsksFor ip zone.origin)
    (hlongest : zone.data.Longest ip range (some l)) (header : Header) :
    within header q zone =
      { plain header q true .noError with answers := answersFor q.type ip l } := by
  have hlisted := (listed?_eq_some_iff hends hproper ip l).mpr ⟨hplain, hasks, range, hlongest⟩
  have hdepth : ¬ q.name.depth = zone.origin.depth := by
    intro h
    exact (hends.depth_eq_iff.mp h).elim hasks.not_equals hasks.not_isStarOf
  unfold within
  rw [if_neg hdepth, hlisted]

theorem within_of_unlisted (hother : ¬ q.name.Equals zone.origin)
    (hstar : ¬ q.name.IsStarOf zone.origin)
    (hunlisted : ¬ zone.origin.Starred → ∀ ip range l, q.name.AsksFor ip zone.origin →
      ¬ zone.data.Longest ip range (some l)) (header : Header) :
    within header q zone = plain header q true .nxDomain := by
  have hdepth : ¬ q.name.depth = zone.origin.depth := by
    intro h
    exact (hends.depth_eq_iff.mp h).elim hother hstar
  unfold within
  rw [if_neg hdepth]
  cases hlisted : listed? zone q with
  | none => rfl
  | some x =>
    obtain ⟨ip, l⟩ := x
    obtain ⟨hplain, hasks, range, hlongest⟩ :=
      (listed?_eq_some_iff hends hproper ip l).mp hlisted
    exact absurd hlongest (hunlisted hplain ip range l hasks)

end Within

/-! The records of an answer. -/

/-- The address records for a listing: one if addresses are asked for. -/
inductive AddressRecords (q : Question) (ttl : UInt32) (l : Listing) : List Record → Prop where
  | asked : q.type = RecordType.a ∨ q.type = RecordType.any → AddressRecords q ttl l
      [⟨q.name, RecordType.a, RecordClass.internet, ttl, .address l.address⟩]
  | other : q.type ≠ RecordType.a → q.type ≠ RecordType.any → AddressRecords q ttl l []

/-- The text records for an address with a listing: one if texts are asked for and there is one, which
is cut to the length of a string. -/
inductive TextRecords (q : Question) (ttl : UInt32) (ip : Ipv4) (l : Listing) :
    List Record → Prop where
  | asked {t p : Text} : q.type = RecordType.txt ∨ q.type = RecordType.any → l.text = some t →
      Utf8.Cut 255 (Listing.expand ip t) p → TextRecords q ttl ip l
      [⟨q.name, RecordType.txt, RecordClass.internet, ttl, .text [Utf8.encode p]⟩]
  | silent : l.text = none → TextRecords q ttl ip l []
  | other : q.type ≠ RecordType.txt → q.type ≠ RecordType.any → TextRecords q ttl ip l []

theorem records_answersFor (q : Question) (ttl : UInt32) (ip : Ipv4) (l : Listing) :
    ∃ addresses texts, AddressRecords q ttl l addresses ∧ TextRecords q ttl ip l texts ∧
      (answersFor q.type ip l).map (Answer.record q.name ttl) = addresses ++ texts := by
  unfold answersFor
  rw [List.map_append]
  refine ⟨_, _, ?_, ?_, rfl⟩
  · by_cases ha : q.type = RecordType.a ∨ q.type = RecordType.any
    · rw [if_pos ha]
      exact .asked ha
    · rw [if_neg ha]
      rw [not_or] at ha
      exact .other ha.1 ha.2
  · by_cases ht : q.type = RecordType.txt ∨ q.type = RecordType.any
    · rw [if_pos ht, Listing.render]
      cases htext : l.text with
      | none => exact .silent htext
      | some t => exact .asked ht htext (Utf8.cut_fit 255 _)
    · rw [if_neg ht]
      rw [not_or] at ht
      exact .other ht.1 ht.2

theorem fits_answersFor (type : RecordType) (ip : Ipv4) (l : Listing) :
    ∀ a ∈ answersFor type ip l, a.Fits := by
  intro a ha
  unfold answersFor at ha
  rcases List.mem_append.mp ha with ha | ha
  · split at ha
    · rw [List.mem_singleton.mp ha]
      trivial
    · cases ha
  · split at ha
    · rw [Option.mem_toList, Option.map_eq_some_iff] at ha
      obtain ⟨t, _, rfl⟩ := ha
      exact (Utf8.cut_fit 255 t).fits
    · cases ha

theorem length_answersFor_le (type : RecordType) (ip : Ipv4) (l : Listing) :
    (answersFor type ip l).length ≤ 2 := by
  unfold answersFor
  rw [List.length_append]
  have haddress : (if type = RecordType.a ∨ type = RecordType.any then
      [Answer.address l.address] else []).length ≤ 1 := by
    split
    · exact Nat.le_refl 1
    · exact Nat.zero_le 1
  have htext : (if type = RecordType.txt ∨ type = RecordType.any then
      ((l.render ip).map fun t => Answer.text (Utf8.fit Answer.longestText t)).toList
      else []).length ≤ 1 := by
    split
    · exact Option.length_toList_le
    · exact Nat.zero_le 1
  omega

end Reply

end DnsBlocklist
