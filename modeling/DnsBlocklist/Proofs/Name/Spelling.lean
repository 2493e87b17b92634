import DnsBlocklist.Proofs.Name.Labels

/-! Names in another letter case. They take the same bytes on the wire but for the case of letters, end in
the same origins, and ask for the same addresses, as digits have no case. -/

namespace DnsBlocklist
set_option autoImplicit false

namespace Label

theorem lowerByte_cases (b : UInt8) :
    lowerByte b = b ∨ (Char.ofNat (lowerByte b).toNat).isDigit = false := by
  obtain ⟨v⟩ := b
  revert v
  decide +kernel

theorem lowerByte_of_isDigit (b : UInt8) :
    (Char.ofNat b.toNat).isDigit = true → lowerByte b = b := by
  obtain ⟨v⟩ := b
  revert v
  decide +kernel

theorem lowerByte_of_lt {b : UInt8} (h : b.toNat < 65) : lowerByte b = b := by
  unfold lowerByte
  rw [if_neg]
  simp only [Bool.and_eq_true, decide_eq_true_eq, UInt8.le_iff_toNat_le, UInt8.toNat_ofNat]
  omega

/-- Digits have one spelling. -/
theorem eq_of_map_lowerByte_eq {as bs : Bytes} (h : as.map lowerByte = bs.map lowerByte)
    (hdigits : ∀ a ∈ as, (Char.ofNat a.toNat).isDigit = true) : as = bs := by
  induction as generalizing bs with
  | nil => exact (List.map_eq_nil_iff.mp h.symm).symm
  | cons a as ih =>
    cases bs with
    | nil => cases h
    | cons b bs =>
      obtain ⟨hhead, htail⟩ := List.cons.inj h
      have ha := hdigits a List.mem_cons_self
      rw [lowerByte_of_isDigit a ha] at hhead
      rcases lowerByte_cases b with hb | hb
      · rw [hhead, hb, ih htail fun x hx => hdigits x (List.mem_cons_of_mem a hx)]
      · rw [← hhead, ha] at hb
        cases hb

theorem IsOctet.eq_of_lower_eq {l k : Label} {v : UInt8} (h : l.IsOctet v)
    (hlower : l.lower = k.lower) : l = k := by
  have hbytes : l.bytes = k.bytes :=
    eq_of_map_lowerByte_eq (congrArg Label.bytes hlower) fun b hb =>
      h.digits _ (List.mem_map_of_mem hb)
  cases l
  cases k
  cases hbytes
  rfl

end Label

namespace Name

theorem Equals.symm {n m : Name} (h : n.Equals m) : m.Equals n := Eq.symm h

/-! On the wire. -/

theorem map_lowerByte_encodeLabel (l : Label) :
    (encodeLabel l).map Label.lowerByte = encodeLabel l.lower := by
  have hlen : Label.lowerByte (UInt8.ofNat l.bytes.length) = UInt8.ofNat l.bytes.length := by
    have hshort := l.short
    apply Label.lowerByte_of_lt
    rw [UInt8.toNat_ofNat']
    omega
  rw [encodeLabel, encodeLabel, List.map_cons, hlen, Label.length_lower]
  rfl

theorem map_lowerByte_encode (n : Name) : n.encode.map Label.lowerByte = n.lower.encode := by
  rw [encode, encode, List.map_append, List.map_flatMap, lower, List.flatMap_map]
  simp only [map_lowerByte_encodeLabel]
  rfl

theorem Equals.map_lowerByte_encode_eq {n m : Name} (h : n.Equals m) :
    n.encode.map Label.lowerByte = m.encode.map Label.lowerByte := by
  rw [map_lowerByte_encode, map_lowerByte_encode, encode, encode, h]

theorem Equals.length_encode_eq {n m : Name} (h : n.Equals m) :
    n.encode.length = m.encode.length := by
  have hlen := congrArg List.length h.map_lowerByte_encode_eq
  rwa [List.length_map, List.length_map] at hlen

/-! Under an origin. -/

theorem Equals.isUnder_eq {n m : Name} (h : n.Equals m) (origin : Name) :
    n.isUnder origin = m.isUnder origin := by
  have hlabels : n.labels.map Label.lower = m.labels.map Label.lower := h
  rw [isUnder, isUnder, hlabels]

theorem Equals.reverses {n m : Name} (h : n.Equals m) {ip : Ipv4} {rest : List Label}
    (hn : n.Reverses ip rest) : ∃ rest', m.Reverses ip rest' := by
  obtain ⟨hlabels, ha, hb, hc, hd⟩ := hn
  have hlower : m.labels.map Label.lower = n.labels.map Label.lower := h.symm
  rw [hlabels] at hlower
  obtain ⟨d', ds, hm, hd', hlower⟩ := List.map_eq_cons_iff.mp hlower
  obtain ⟨c', cs, rfl, hc', hlower⟩ := List.map_eq_cons_iff.mp hlower
  obtain ⟨b', bs, rfl, hb', hlower⟩ := List.map_eq_cons_iff.mp hlower
  obtain ⟨a', rest', rfl, ha', -⟩ := List.map_eq_cons_iff.mp hlower
  rw [← ha.eq_of_lower_eq ha'.symm, ← hb.eq_of_lower_eq hb'.symm, ← hc.eq_of_lower_eq hc'.symm,
    ← hd.eq_of_lower_eq hd'.symm] at hm
  exact ⟨rest', .mk hm ha hb hc hd⟩

theorem Equals.reversedIpv4?_eq {n m : Name} (h : n.Equals m) (k : Nat) :
    n.reversedIpv4? k = m.reversedIpv4? k := by
  have hall : ∀ {n m : Name}, n.Equals m → ∀ ip, n.reversedIpv4? k = some ip →
      m.reversedIpv4? k = some ip := by
    intro n m h ip hip
    obtain ⟨hdepth, rest, hrev⟩ := (reversedIpv4?_eq_some_iff n k ip).mp hip
    exact (reversedIpv4?_eq_some_iff m k ip).mpr ⟨h.depth_eq ▸ hdepth, h.reverses hrev⟩
  exact Option.ext fun ip => ⟨hall h ip, hall h.symm ip⟩

end Name

theorem Snapshot.findZone_eq_of_equals {n m : Name} (h : n.Equals m) (s : Snapshot) :
    s.findZone n = s.findZone m := by
  have hunder : n.isUnder = m.isUnder := funext h.isUnder_eq
  rw [findZone, findZone, hunder]

end DnsBlocklist
