import DnsBlocklist.Name.Wire

/-! Names written and read back. A name is read as it was written, at its own place or through a
pointer to that place, and every name that is read ends at the root. -/

namespace DnsBlocklist
set_option autoImplicit false

theorem encodedLength_append_add_one (a b : List Label) :
    encodedLength (a ++ b) + 1 = encodedLength a + encodedLength b := by
  induction a with
  | nil =>
    rw [List.nil_append, encodedLength]
    omega
  | cons l a ih =>
    rw [List.cons_append, encodedLength, encodedLength]
    omega

theorem encodedLength_pos (labels : List Label) : 0 < encodedLength labels := by
  cases labels with
  | nil => exact Nat.zero_lt_one
  | cons l ls =>
    rw [encodedLength]
    omega

theorem Label.ofBytes?_bytes (l : Label) : ofBytes? l.bytes = some l := by
  unfold ofBytes?
  rw [dif_pos ⟨l.nonempty, l.short⟩]

namespace Name

theorem ext_of {m n : Name} (hlabels : m.labels = n.labels) (hrooted : m.rooted = n.rooted) :
    m = n := by
  cases m
  cases n
  simp_all

theorem push?_eq_some {n name : Name} {l : Label} {ls : List Label}
    (h : n.labels = name.labels ++ l :: ls) :
    ∃ next, name.push? l = some next ∧ next.labels = name.labels ++ [l] ∧
      next.rooted = name.rooted := by
  have hsplit : n.labels = (name.labels ++ [l]) ++ ls := by
    rw [h, List.append_assoc, List.singleton_append]
  have hlen := encodedLength_append_add_one (name.labels ++ [l]) ls
  have hpos := encodedLength_pos ls
  have hfits := n.fits
  rw [hsplit] at hfits
  have hle : encodedLength (name.labels ++ [l]) ≤ 255 := by omega
  refine ⟨⟨name.labels ++ [l], name.rooted, hle⟩, ?_, rfl, rfl⟩
  unfold push?
  rw [dif_pos hle]

/-- Reading goes on with the labels that are still missing, up to the zero byte. -/
theorem readLabels_flatMap (message rest : Bytes) (start : Nat) {labels : List Label}
    {n name : Name} {room : Nat} (hlabels : n.labels = name.labels ++ labels)
    (hrooted : n.rooted = name.rooted) (hroom : encodedLength labels ≤ room) :
    readLabels message start room name (labels.flatMap encodeLabel ++ 0 :: rest) =
      some (n, rest) := by
  induction labels generalizing name room with
  | nil =>
    have hname : name = n := by
      apply ext_of
      · rw [hlabels, List.append_nil]
      · exact hrooted.symm
    rw [encodedLength] at hroom
    rw [List.flatMap_nil, List.nil_append, readLabels.eq_def]
    dsimp only
    rw [if_neg (by omega), if_pos rfl, hname]
  | cons l labels ih =>
    rw [encodedLength] at hroom
    -- The length of a label is neither zero, which ends a name, nor the start of a pointer.
    have hpos : 0 < l.bytes.length := List.length_pos_iff.mpr l.nonempty
    have hshort := l.short
    have hnat : (UInt8.ofNat l.bytes.length).toNat = l.bytes.length := by
      rw [UInt8.toNat_ofNat']
      omega
    have hzero : UInt8.ofNat l.bytes.length ≠ 0 := by
      intro h
      rw [h] at hnat
      simp only [UInt8.toNat_ofNat] at hnat
      omega
    have hsmall : UInt8.ofNat l.bytes.length < 64 := by
      rw [UInt8.lt_iff_toNat_lt, hnat]
      simp only [UInt8.toNat_ofNat]
      omega
    obtain ⟨next, hpush, hnext, hkeeps⟩ := push?_eq_some hlabels
    have hrest : readLabels message start (room - (l.bytes.length + 1)) next
        (labels.flatMap encodeLabel ++ 0 :: rest) = some (n, rest) := by
      apply ih
      · rw [hnext, hlabels, List.append_assoc, List.singleton_append]
      · exact hrooted.trans hkeeps.symm
      · omega
    rw [List.flatMap_cons, encodeLabel, List.cons_append, List.cons_append, readLabels.eq_def]
    dsimp only
    rw [if_neg (by omega), if_neg hzero, if_pos hsmall, hnat]
    rw [List.append_assoc, List.take_left, List.drop_left, if_neg (by simp)]
    simp only [Label.ofBytes?_bytes, hpush]
    exact hrest

theorem readWire_encode (message rest : Bytes) {n : Name} (hrooted : n.rooted = true) :
    readWire message (n.encode ++ rest) = some (n, rest) := by
  have hlen := encode_length n
  unfold readWire
  rw [List.length_append, hlen, encode, List.append_assoc, List.singleton_append]
  apply readLabels_flatMap
  · rfl
  · exact hrooted
  · omega

/-- A pointer is read as the name that it leads to, if that name ends before the pointer. -/
theorem readWire_pointer {message rest tail : Bytes} {n : Name} (hrooted : n.rooted = true)
    (hplace : message.drop 12 = n.encode ++ tail)
    (hbefore : 12 + encodedLength n.labels ≤ message.length - (rest.length + 2)) :
    readWire message (0xC0 :: 0x0C :: rest) = some (n, rest) := by
  have hpos := encodedLength_pos n.labels
  have hname : readLabels message 12 (message.length - (rest.length + 2) - 12) root
      (message.drop 12) = some (n, tail) := by
    rw [hplace, encode, List.append_assoc, List.singleton_append]
    apply readLabels_flatMap
    · rfl
    · exact hrooted
    · omega
  unfold readWire
  rw [readLabels.eq_def]
  dsimp only
  rw [if_neg (by simp), if_neg (by decide), if_neg (by decide), if_neg (by decide)]
  have htarget : ((0xC0 : UInt8).toNat - 192) * 256 + (0x0C : UInt8).toNat = 12 := by decide
  simp only [htarget, List.length_cons]
  rw [if_pos (by omega), hname]

theorem rooted_push? {name n : Name} {l : Label} (h : name.push? l = some n) :
    n.rooted = name.rooted := by
  unfold push? at h
  split at h
  · cases h
    rfl
  · cases h

theorem rooted_of_readLabels {message : Bytes} {start room : Nat} {name n : Name}
    {bytes rest : Bytes} (h : readLabels message start room name bytes = some (n, rest)) :
    n.rooted = name.rooted := by
  fun_induction readLabels message start room name bytes generalizing n rest with
  | case1 | case2 | case4 | case5 | case6 | case8 | case9 | case10 | case12 => cases h
  | case3 =>
    cases h
    rfl
  | case7 =>
    rename_i hpush ih
    exact (ih h).trans (rooted_push? hpush)
  | case11 =>
    rename_i hname ih
    cases h
    exact ih hname

theorem rooted_of_readWire {message bytes rest : Bytes} {n : Name}
    (h : readWire message bytes = some (n, rest)) : n.rooted = true :=
  rooted_of_readLabels h

end Name

end DnsBlocklist
