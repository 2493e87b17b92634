import DnsBlocklist.Proofs.Text.Cut
import DnsBlocklist.Proofs.Utf8.Reading

/-! Texts cut in their bytes. The boundaries in the bytes of a text are where a beginning of it ends, so
going back from the limit to the nearest boundary gives up no character that would still fit. As no
character has more than four bytes, the limit is missed by three at most. -/

namespace DnsBlocklist.Utf8
set_option autoImplicit false

/-- A character starts at the place, or the bytes end there. -/
def IsBoundary (bytes : Bytes) (i : Nat) : Prop :=
  i = bytes.length ∨ ∃ b, bytes[i]? = some b ∧ b.IsUTF8FirstByte

instance (bytes : Bytes) (i : Nat) : Decidable (IsBoundary bytes i) :=
  inferInstanceAs (Decidable (_ ∨ ∃ b, b ∈ bytes[i]? ∧ b.IsUTF8FirstByte))

/-- The nearest boundary on the way back from a place, `none` if the way passes the start. -/
def boundaryBack? (bytes : Bytes) : Nat → Option Nat
  | 0 => if IsBoundary bytes 0 then some 0 else none
  | i + 1 => if IsBoundary bytes (i + 1) then some (i + 1) else boundaryBack? bytes i

/-- Bytes over the limit cut at the nearest boundary on the way back from it. -/
def truncate? (limit : Nat) (bytes : Bytes) : Option Bytes :=
  if limit < bytes.length then (boundaryBack? bytes limit).map bytes.take else some bytes

/-- `bytes` are the longest beginning of the text's bytes that is well-formed and within the limit. They are
what going back from the limit finds, which never passes the start. -/
structure CutBytes (limit : Nat) (t : Text) (bytes : Bytes) : Prop where
  wellFormed : ∃ p, decode? bytes = some p
  starts : bytes <+: encode t
  fits : bytes.length ≤ limit
  longest : ∀ q, q <+: encode t → (∃ p, decode? q = some p) → q.length ≤ limit →
    q.length ≤ bytes.length
  whole : (encode t).length ≤ limit → bytes = encode t
  close : limit < (encode t).length → limit ≤ bytes.length + 3
  found : truncate? limit (encode t) = some bytes

/-! Beginnings of a text and of its bytes. -/

theorem encode_prefix_encode {p t : Text} (h : p <+: t) : encode p <+: encode t := by
  obtain ⟨r, rfl⟩ := h
  rw [encode_append]
  exact List.prefix_append ..

/-- A text begins another one if its bytes do. -/
theorem prefix_of_encode {p t : Text} (h : encode p <+: encode t) : p <+: t := by
  induction p generalizing t with
  | nil => exact List.nil_prefix
  | cons c p ih =>
    rw [encode_cons] at h
    cases t with
    | nil =>
      have hnil := List.append_eq_nil_iff.mp (List.prefix_nil.mp h)
      exact absurd hnil.1 String.utf8EncodeChar_ne_nil
    | cons d t =>
      rw [encode_cons] at h
      have hcd : c = d := by
        rcases List.prefix_or_prefix_of_prefix ((List.prefix_append ..).trans h)
          (List.prefix_append ..) with hprefix | hprefix
        · exact eq_of_prefix_utf8EncodeChar hprefix
        · exact (eq_of_prefix_utf8EncodeChar hprefix).symm
      subst hcd
      exact List.cons_prefix_cons.mpr ⟨rfl, ih ((List.prefix_append_right_inj _).mp h)⟩

/-! Boundaries. -/

theorem isBoundary_within {c : Char} {i : Nat} (hi : i < (String.utf8EncodeChar c).length)
    (rest : Bytes) : IsBoundary (String.utf8EncodeChar c ++ rest) i ↔ i = 0 := by
  have hbyte : (String.utf8EncodeChar c ++ rest)[i]? = some (String.utf8EncodeChar c)[i] := by
    rw [List.getElem?_append_left hi, List.getElem?_eq_getElem hi]
  unfold IsBoundary
  rw [hbyte]
  constructor
  · intro h
    rcases h with hend | ⟨b, hb, hfirst⟩
    · rw [List.length_append] at hend
      omega
    · rw [Option.some.injEq] at hb
      rw [← hb] at hfirst
      exact UInt8.isUTF8FirstByte_getElem_utf8EncodeChar.mp hfirst
  · intro hzero
    exact Or.inr ⟨_, rfl, UInt8.isUTF8FirstByte_getElem_utf8EncodeChar.mpr hzero⟩

theorem isBoundary_after (x rest : Bytes) (i : Nat) :
    IsBoundary (x ++ rest) (x.length + i) ↔ IsBoundary rest i := by
  unfold IsBoundary
  rw [List.getElem?_append_right (Nat.le_add_right ..), Nat.add_sub_cancel_left, List.length_append,
    Nat.add_right_inj]

/-- The boundaries in the bytes of a text are where a beginning of it ends. -/
theorem isBoundary_encode_iff (t : Text) (i : Nat) :
    IsBoundary (encode t) i ↔ ∃ p, p <+: t ∧ (encode p).length = i := by
  induction t generalizing i with
  | nil =>
    constructor
    · intro h
      rcases h with hend | ⟨b, hb, -⟩
      · exact ⟨[], List.prefix_rfl, hend.symm⟩
      · cases hb
    · rintro ⟨p, hp, rfl⟩
      rw [List.prefix_nil.mp hp]
      exact Or.inl rfl
  | cons c t ih =>
    have hpos := List.length_pos_iff.mpr (String.utf8EncodeChar_ne_nil (c := c))
    rw [encode_cons]
    rcases Nat.lt_or_ge i (String.utf8EncodeChar c).length with hi | hi
    -- Within the first character only the empty beginning ends.
    · rw [isBoundary_within hi]
      constructor
      · intro hzero
        exact ⟨[], List.nil_prefix, hzero.symm⟩
      · rintro ⟨p, hp, rfl⟩
        rcases List.prefix_cons_iff.mp hp with rfl | ⟨q, rfl, -⟩
        · rfl
        · rw [encode_cons, List.length_append] at hi
          omega
    · obtain ⟨j, rfl⟩ := Nat.exists_eq_add_of_le hi
      rw [isBoundary_after, ih]
      constructor
      · rintro ⟨p, hp, rfl⟩
        refine ⟨c :: p, List.cons_prefix_cons.mpr ⟨rfl, hp⟩, ?_⟩
        rw [encode_cons, List.length_append]
      · rintro ⟨p, hp, hlength⟩
        rcases List.prefix_cons_iff.mp hp with rfl | ⟨q, rfl, hq⟩
        · have hzero : (encode []).length = 0 := rfl
          omega
        · rw [encode_cons, List.length_append, Nat.add_right_inj] at hlength
          exact ⟨q, hq, hlength⟩

/-- Of the boundaries up to a place, `stop` is the last one. -/
structure LastBoundary (bytes : Bytes) (i stop : Nat) : Prop where
  le : stop ≤ i
  boundary : IsBoundary bytes stop
  last : ∀ k, IsBoundary bytes k → k ≤ i → k ≤ stop

section Back

variable {bytes : Bytes} {i stop : Nat}

theorem lastBoundary_iff_of_isBoundary (h : IsBoundary bytes i) :
    LastBoundary bytes i stop ↔ i = stop := by
  constructor
  · intro hstop
    exact Nat.le_antisymm (hstop.last i h (Nat.le_refl i)) hstop.le
  · intro heq
    subst heq
    exact ⟨Nat.le_refl i, h, fun k _ hk => hk⟩

theorem lastBoundary_succ_iff (h : ¬ IsBoundary bytes (i + 1)) :
    LastBoundary bytes (i + 1) stop ↔ LastBoundary bytes i stop := by
  have hbelow : ∀ {k}, IsBoundary bytes k → k ≤ i + 1 → k ≤ i := by
    intro k hk hle
    rcases Nat.le_succ_iff.mp hle with hle | heq
    · exact hle
    · rw [heq] at hk
      exact absurd hk h
  constructor
  · intro hstop
    exact ⟨hbelow hstop.boundary hstop.le, hstop.boundary, fun k hk hle =>
      hstop.last k hk (Nat.le_succ_of_le hle)⟩
  · intro hstop
    exact ⟨Nat.le_succ_of_le hstop.le, hstop.boundary, fun k hk hle =>
      hstop.last k hk (hbelow hk hle)⟩

theorem boundaryBack?_eq_some_iff :
    boundaryBack? bytes i = some stop ↔ LastBoundary bytes i stop := by
  induction i with
  | zero =>
    rw [boundaryBack?]
    split
    · rename_i hhere
      rw [Option.some.injEq, lastBoundary_iff_of_isBoundary hhere]
    · rename_i hhere
      apply iff_of_false
      · intro h
        cases h
      · intro hstop
        apply hhere
        rw [← Nat.le_zero.mp hstop.le]
        exact hstop.boundary
  | succ i ih =>
    rw [boundaryBack?]
    split
    · rename_i hhere
      rw [Option.some.injEq, lastBoundary_iff_of_isBoundary hhere]
    · rename_i hhere
      rw [ih, lastBoundary_succ_iff hhere]

end Back

/-! The cut of a text is the one of its bytes. -/

section Cut

variable {limit : Nat} {t p : Text}

theorem Cut.prefix_of_fits (h : Cut limit t p) {q : Text} (hq : q <+: t)
    (hfits : (encode q).length ≤ limit) : q <+: p :=
  List.prefix_of_prefix_length_le hq h.starts (h.longest q hq hfits)

theorem Cut.boundaryBack?_eq (h : Cut limit t p) :
    boundaryBack? (encode t) limit = some (encode p).length := by
  rw [boundaryBack?_eq_some_iff]
  refine ⟨h.fits, (isBoundary_encode_iff t _).mpr ⟨p, h.starts, rfl⟩, fun k hk hfits => ?_⟩
  obtain ⟨q, hq, rfl⟩ := (isBoundary_encode_iff t k).mp hk
  exact (encode_prefix_encode (h.prefix_of_fits hq hfits)).length_le

theorem Cut.eq_of_fits (h : Cut limit t p) (hfits : (encode t).length ≤ limit) : p = t :=
  h.starts.eq_of_length_le (h.longest t List.prefix_rfl hfits)

theorem Cut.truncate?_eq (h : Cut limit t p) : truncate? limit (encode t) = some (encode p) := by
  rw [truncate?]
  split
  · have htake := List.prefix_iff_eq_take.mp (encode_prefix_encode h.starts)
    rw [h.boundaryBack?_eq, Option.map_some, ← htake]
  · rename_i hfits
    rw [h.eq_of_fits (Nat.le_of_not_lt hfits)]

/-- The character after the cut would not fit, and it has at most four bytes. -/
theorem Cut.close (h : Cut limit t p) (hlong : limit < (encode t).length) :
    limit ≤ (encode p).length + 3 := by
  obtain ⟨r, hr⟩ := h.starts
  cases r with
  | nil =>
    rw [List.append_nil] at hr
    have hfits := h.fits
    rw [hr] at hfits
    omega
  | cons c r =>
    refine Nat.le_of_not_lt fun hfar => ?_
    have hnext : p ++ [c] <+: t := ⟨r, by rw [← hr, List.append_assoc, List.singleton_append]⟩
    have hsize : (encode (p ++ [c])).length = (encode p).length + c.utf8Size := by
      rw [encode_append, List.length_append, length_encode_cons]
      rfl
    have hfour := c.utf8Size_le_four
    have hlength := h.longest (p ++ [c]) hnext (by omega)
    rw [List.length_append, List.length_singleton] at hlength
    exact absurd hlength (Nat.not_succ_le_self _)

theorem Cut.cutBytes (h : Cut limit t p) : CutBytes limit t (encode p) where
  wellFormed := ⟨p, (decode?_eq_some_iff _ p).mpr rfl⟩
  starts := encode_prefix_encode h.starts
  fits := h.fits
  longest q hq hread hfits := by
    obtain ⟨u, hu⟩ := hread
    rw [decode?_eq_some_iff] at hu
    subst hu
    exact (encode_prefix_encode (h.prefix_of_fits (prefix_of_encode hq) hfits)).length_le
  whole hfits := by rw [h.eq_of_fits hfits]
  close := h.close
  found := h.truncate?_eq

end Cut

end DnsBlocklist.Utf8
