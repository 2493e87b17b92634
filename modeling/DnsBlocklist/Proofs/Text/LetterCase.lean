import DnsBlocklist.Name.Reader
import DnsBlocklist.Proofs.Name.Spelling
import DnsBlocklist.Proofs.Utf8.Characters

/-! Texts in another letter case. Characters that differ in case are ASCII letters, which stand for
themselves in a name, and the bytes of a text differ in the case of the same letters. -/

namespace DnsBlocklist
set_option autoImplicit false

namespace Text

/-- The texts differ at most in the case of ASCII letters. -/
def Alike (t u : Text) : Prop := t.map Char.toLower = u.map Char.toLower

theorem Alike.symm {t u : Text} (h : Alike t u) : Alike u t := Eq.symm h

theorem Alike.snoc {c d : Char} {t u : Text} (h : Alike t u) (hlast : c.toLower = d.toLower) :
    Alike (t ++ [c]) (u ++ [d]) := by
  rw [Alike, List.map_append, List.map_append, h, List.map_singleton, List.map_singleton, hlast]

theorem Alike.nil_left {u : Text} (h : Alike [] u) : u = [] := List.map_eq_nil_iff.mp h.symm

theorem Alike.cons_left {c : Char} {t u : Text} (h : Alike (c :: t) u) :
    ∃ d v, u = d :: v ∧ c.toLower = d.toLower ∧ Alike t v := by
  obtain ⟨d, v, rfl, hd, hv⟩ := List.map_eq_cons_iff.mp h.symm
  exact ⟨d, v, rfl, hd.symm, hv.symm⟩

theorem Alike.isEmpty_eq {t u : Text} (h : Alike t u) : t.isEmpty = u.isEmpty := by
  cases t with
  | nil => rw [h.nil_left]
  | cons c t =>
    obtain ⟨d, v, rfl, -⟩ := h.cons_left
    rfl

theorem isAlpha_iff (c : Char) : c.isAlpha = true ↔
    65 ≤ c.val.toNat ∧ c.val.toNat ≤ 90 ∨ 97 ≤ c.val.toNat ∧ c.val.toNat ≤ 122 := by
  change (decide ('A'.val ≤ c.val ∧ c.val ≤ 'Z'.val) ||
    decide ('a'.val ≤ c.val) && decide (c.val ≤ 'z'.val)) = true ↔ _
  simp only [Bool.or_eq_true, Bool.and_eq_true, decide_eq_true_eq, UInt32.le_iff_toNat_le]
  exact Iff.rfl

theorem isAlpha_of_toLower_eq {c d : Char} (hc : 'A'.val ≤ c.val ∧ c.val ≤ 'Z'.val)
    (h : d.val = c.val + ('a'.val - 'A'.val)) : c.isAlpha = true ∧ d.isAlpha = true := by
  have hlow : 65 ≤ c.val.toNat := UInt32.le_iff_toNat_le.mp hc.1
  have hhigh : c.val.toNat ≤ 90 := UInt32.le_iff_toNat_le.mp hc.2
  have hd : d.val.toNat = c.val.toNat + 32 := by
    have hdiff : ('a'.val - 'A'.val).toNat = 32 := rfl
    rw [h, UInt32.toNat_add, hdiff]
    omega
  rw [isAlpha_iff, isAlpha_iff]
  omega

/-- Characters that differ in case are letters. -/
theorem eq_or_isAlpha_of_toLower_eq {c d : Char} (h : c.toLower = d.toLower) :
    c = d ∨ c.isAlpha = true ∧ d.isAlpha = true := by
  unfold Char.toLower at h
  split at h <;> split at h
  · exact Or.inl (Char.ext ((UInt32.add_left_inj _).mp (congrArg Char.val h)))
  · rename_i hc _
    exact Or.inr (isAlpha_of_toLower_eq hc (congrArg Char.val h.symm))
  · rename_i _ hd
    exact Or.inr (isAlpha_of_toLower_eq hd (congrArg Char.val h)).symm
  · exact Or.inl h

theorem eq_of_toLower_eq {c d : Char} (h : c.toLower = d.toLower) (hc : c.isAlpha = false) :
    c = d := by
  rcases eq_or_isAlpha_of_toLower_eq h with hcd | ⟨halpha, -⟩
  · exact hcd
  · rw [hc] at halpha
    cases halpha

theorem Alike.mem_of_not_isAlpha {t u : Text} (h : Alike t u) {c : Char}
    (hc : c.isAlpha = false) (ht : c ∈ t) : c ∈ u := by
  have hlower : c.toLower ∈ u.map Char.toLower := h ▸ List.mem_map_of_mem ht
  obtain ⟨d, hd, hlower⟩ := List.mem_map.mp hlower
  rwa [eq_of_toLower_eq hlower.symm hc]

/-- Letters stand for themselves in a name, and no digit of an escape is one. -/
structure Plain (c : Char) : Prop where
  numeric : isNumeric c = false
  control : isControl c = false
  blank : isBlank c = false
  dot : c ≠ '.'
  backslash : c ≠ '\\'
  start : Name.isLabelStart c = true
  rest : Name.isLabelRest c = true

theorem toNat_lt_of_isAlpha {c : Char} (h : c.isAlpha = true) : c.toNat < 128 := by
  have hval : c.toNat = c.val.toNat := rfl
  rw [isAlpha_iff] at h
  omega

theorem plain_of_isAlpha {c : Char} (h : c.isAlpha = true) : Plain c := by
  have hall : ∀ n : Fin 128, (Char.ofNat n).isAlpha = true →
      isNumeric (Char.ofNat n) = false ∧ isControl (Char.ofNat n) = false ∧
      isBlank (Char.ofNat n) = false ∧ Char.ofNat n ≠ '.' ∧ Char.ofNat n ≠ '\\' ∧
      Name.isLabelStart (Char.ofNat n) = true ∧ Name.isLabelRest (Char.ofNat n) = true := by
    decide +kernel
  have hc := hall ⟨c.toNat, toNat_lt_of_isAlpha h⟩
  rw [Char.ofNat_toNat] at hc
  obtain ⟨hnumeric, hcontrol, hblank, hdot, hbackslash, hstart, hrest⟩ := hc h
  exact ⟨hnumeric, hcontrol, hblank, hdot, hbackslash, hstart, hrest⟩

theorem eq_or_plain_of_toLower_eq {c d : Char} (h : c.toLower = d.toLower) :
    c = d ∨ Plain c ∧ Plain d :=
  (eq_or_isAlpha_of_toLower_eq h).imp_right fun h =>
    ⟨plain_of_isAlpha h.1, plain_of_isAlpha h.2⟩

theorem isLabelText_of_alike {t u : Text} (h : Alike t u) :
    Name.isLabelText t = Name.isLabelText u := by
  have hrest : ∀ {t u : Text}, Alike t u → t.all Name.isLabelRest = u.all Name.isLabelRest := by
    intro t
    induction t with
    | nil =>
      intro u h
      rw [h.nil_left]
    | cons c t ih =>
      intro u h
      obtain ⟨d, v, rfl, hhead, htail⟩ := h.cons_left
      have hclass : Name.isLabelRest c = Name.isLabelRest d := by
        rcases eq_or_plain_of_toLower_eq hhead with rfl | ⟨hc, hd⟩
        · rfl
        · rw [hc.rest, hd.rest]
      rw [List.all_cons, List.all_cons, hclass, ih htail]
  cases t with
  | nil => rw [h.nil_left]
  | cons c t =>
    obtain ⟨d, v, rfl, hhead, htail⟩ := h.cons_left
    have hclass : Name.isLabelStart c = Name.isLabelStart d := by
      rcases eq_or_plain_of_toLower_eq hhead with rfl | ⟨hc, hd⟩
      · rfl
      · rw [hc.start, hd.start]
    rw [Name.isLabelText, Name.isLabelText, hclass, hrest htail]

end Text

theorem Label.lowerByte_of_le {b : UInt8} (h : 128 ≤ b.toNat) : lowerByte b = b := by
  unfold lowerByte
  rw [if_neg]
  simp only [Bool.and_eq_true, decide_eq_true_eq, UInt8.le_iff_toNat_le, UInt8.toNat_ofNat]
  omega

namespace Utf8

theorem utf8EncodeChar_toLower (c : Char) : String.utf8EncodeChar c.toLower =
    (String.utf8EncodeChar c).map Label.lowerByte := by
  by_cases hascii : c.toNat < 128
  · have hall : ∀ n : Fin 128, String.utf8EncodeChar (Char.ofNat n).toLower =
        (String.utf8EncodeChar (Char.ofNat n)).map Label.lowerByte := by
      decide +kernel
    have hc := hall ⟨c.toNat, hascii⟩
    rwa [Char.ofNat_toNat] at hc
  · have hbytes := toNat_of_mem_utf8EncodeChar (Nat.not_lt.mp hascii)
    have hlower : c.toLower = c := by
      unfold Char.toLower
      have hval : c.toNat = c.val.toNat := rfl
      have hZ : 'Z'.val.toNat = 90 := rfl
      rw [dif_neg]
      rintro ⟨-, hhigh⟩
      rw [UInt32.le_iff_toNat_le] at hhigh
      omega
    rw [hlower, List.map_congr_left fun b hb => Label.lowerByte_of_le (hbytes b hb), List.map_id']

theorem encode_map_toLower (t : Text) :
    encode (t.map Char.toLower) = (encode t).map Label.lowerByte := by
  rw [encode, encode, List.flatMap_map, List.map_flatMap]
  simp only [utf8EncodeChar_toLower]

theorem map_lowerByte_encode_of_alike {t u : Text} (h : Text.Alike t u) :
    (encode t).map Label.lowerByte = (encode u).map Label.lowerByte := by
  rw [← encode_map_toLower, ← encode_map_toLower, h]

end Utf8

end DnsBlocklist
