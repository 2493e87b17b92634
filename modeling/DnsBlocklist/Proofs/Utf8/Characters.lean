import DnsBlocklist.Text.Utf8

/-! The bytes of characters. The first byte tells how many are to come and between which bounds the
second one lies, so a character can be followed byte by byte, and none reaches over a byte below 128. -/

namespace DnsBlocklist.Utf8
set_option autoImplicit false

/-- The next byte is one that the unfinished character can go on with. -/
def Unfinished.Takes (u : Unfinished) (b : UInt8) : Prop := u.low ≤ b ∧ b ≤ u.high

/-- The bits read when `b` comes next. -/
def Unfinished.bitsAfter (u : Unfinished) (b : UInt8) : Nat := u.bits * 64 + (b.toNat - 0x80)

/-- The bytes complete the unfinished character to `c`. -/
inductive Completes : Unfinished → Bytes → Char → Prop where
  | last {u : Unfinished} {b : UInt8} : u.missing ≤ 1 → u.Takes b →
      Completes u [b] (Char.ofNat (u.bitsAfter b))
  | more {u : Unfinished} {b : UInt8} {q : Bytes} {c : Char} : 1 < u.missing → u.Takes b →
      Completes ⟨u.bitsAfter b, u.missing - 1, 0x80, 0xBF⟩ q c → Completes u (b :: q) c

variable {b : UInt8} {u : Unfinished} {q : Bytes} {c : Char}

theorem takes_iff : u.Takes b ↔ u.low.toNat ≤ b.toNat ∧ b.toNat ≤ u.high.toNat := by
  rw [Unfinished.Takes, UInt8.le_iff_toNat_le, UInt8.le_iff_toNat_le]

theorem Completes.of_last {bits : Nat} {low high : UInt8} (h : Completes ⟨bits, 1, low, high⟩ q c) :
    ∃ b, q = [b] ∧ (low.toNat ≤ b.toNat ∧ b.toNat ≤ high.toNat) ∧
      c = Char.ofNat (bits * 64 + (b.toNat - 0x80)) := by
  cases h with
  | @last _ b _ hb => exact ⟨b, rfl, takes_iff.mp hb, rfl⟩
  | more hmore _ _ => exact absurd hmore (Nat.lt_irrefl 1)

theorem Completes.of_more {bits k : Nat} {low high : UInt8}
    (h : Completes ⟨bits, k + 2, low, high⟩ q c) :
    ∃ b r, q = b :: r ∧ (low.toNat ≤ b.toNat ∧ b.toNat ≤ high.toNat) ∧
      Completes ⟨bits * 64 + (b.toNat - 0x80), k + 1, 0x80, 0xBF⟩ r c := by
  cases h with
  | last hlast _ => exact absurd hlast (by simp)
  | @more _ b r _ _ hb h => exact ⟨b, r, rfl, takes_iff.mp hb, h⟩

/-- What the first byte of a character leaves to come. The second byte is kept from what shorter
sequences say, from surrogates and from numbers beyond the last character. -/
inductive Opens (b : UInt8) : Unfinished → Prop where
  | two {bits : Nat} : b.toNat = 0xC0 + bits → 2 ≤ bits → bits < 32 → Opens b ⟨bits, 1, 0x80, 0xBF⟩
  | three {bits : Nat} {low high : UInt8} : b.toNat = 0xE0 + bits → bits < 16 →
      (low = if bits = 0 then 0xA0 else 0x80) → (high = if bits = 13 then 0x9F else 0xBF) →
      Opens b ⟨bits, 2, low, high⟩
  | four {bits : Nat} {low high : UInt8} : b.toNat = 0xF0 + bits → bits ≤ 4 →
      (low = if bits = 0 then 0x90 else 0x80) → (high = if bits = 4 then 0x8F else 0xBF) →
      Opens b ⟨bits, 3, low, high⟩

theorem open?_eq_some_iff (b : UInt8) (u : Unfinished) : open? b = some u ↔ Opens b u := by
  constructor
  · intro h
    grind [open?, Opens]
  · intro h
    cases h with
    | two hb hlow hhigh => grind [open?]
    | three hb hbits hlow hhigh => grind [open?]
    | four hb hbits hlow hhigh =>
      rw [open?.eq_1]
      grind

theorem toNat_of_eq_ite {p : Prop} [Decidable p] {z x y : UInt8} (h : z = if p then x else y) :
    p ∧ z.toNat = x.toNat ∨ ¬ p ∧ z.toNat = y.toNat := by
  split at h
  · rename_i hp
    exact Or.inl ⟨hp, congrArg UInt8.toNat h⟩
  · rename_i hp
    exact Or.inr ⟨hp, congrArg UInt8.toNat h⟩

theorem toNat_of_eq_ofNat {n : Nat} (hc : c = Char.ofNat n)
    (h : n < 0xD800 ∨ 0xDFFF < n ∧ n < 0x110000) : c.toNat = n := by
  rw [hc, Char.ofNat, dif_pos h]
  rfl

/-! The bytes of a character, by their number. -/

theorem utf8EncodeChar_one (hlow : c.toNat < 0x80) (hb : b.toNat = c.toNat) :
    String.utf8EncodeChar c = [b] := by
  have hval : c.val.toNat = c.toNat := rfl
  rw [String.utf8EncodeChar.eq_1, hval, if_pos (by omega), ← hb, UInt8.ofNat_toNat]

theorem utf8EncodeChar_two {x : UInt8} (hlow : 0x80 ≤ c.toNat) (hhigh : c.toNat < 0x800)
    (hb : b.toNat = 0xC0 + c.toNat / 64) (hx : x.toNat = 0x80 + c.toNat % 64) :
    String.utf8EncodeChar c = [b, x] := by
  have hval : c.val.toNat = c.toNat := rfl
  rw [String.utf8EncodeChar.eq_1, hval, if_neg (by omega), if_pos (by omega)]
  simp only [List.cons.injEq, and_true, ← UInt8.toNat_inj, UInt8.toNat_ofNat']
  omega

theorem utf8EncodeChar_three {x y : UInt8} (hlow : 0x800 ≤ c.toNat)
    (hhigh : c.toNat < 0x10000) (hb : b.toNat = 0xE0 + c.toNat / 4096)
    (hx : x.toNat = 0x80 + c.toNat / 64 % 64) (hy : y.toNat = 0x80 + c.toNat % 64) :
    String.utf8EncodeChar c = [b, x, y] := by
  have hval : c.val.toNat = c.toNat := rfl
  rw [String.utf8EncodeChar.eq_1, hval, if_neg (by omega), if_neg (by omega), if_pos (by omega)]
  simp only [List.cons.injEq, and_true, ← UInt8.toNat_inj, UInt8.toNat_ofNat']
  omega

theorem utf8EncodeChar_four {x y z : UInt8} (hlow : 0x10000 ≤ c.toNat)
    (hhigh : c.toNat < 0x110000) (hb : b.toNat = 0xF0 + c.toNat / 262144)
    (hx : x.toNat = 0x80 + c.toNat / 4096 % 64) (hy : y.toNat = 0x80 + c.toNat / 64 % 64)
    (hz : z.toNat = 0x80 + c.toNat % 64) : String.utf8EncodeChar c = [b, x, y, z] := by
  have hval : c.val.toNat = c.toNat := rfl
  rw [String.utf8EncodeChar.eq_1, hval, if_neg (by omega), if_neg (by omega), if_neg (by omega)]
  simp only [List.cons.injEq, and_true, ← UInt8.toNat_inj, UInt8.toNat_ofNat']
  omega

/-- A first byte and what completes it are the encoding of the character. -/
theorem Completes.utf8EncodeChar_eq (h : Completes u q c) (hb : Opens b u) :
    String.utf8EncodeChar c = b :: q := by
  cases hb with
  | two hb hbits hbits' =>
    obtain ⟨x, rfl, hx, hc⟩ := h.of_last
    simp only [UInt8.toNat_ofNat] at hx
    have hn := toNat_of_eq_ofNat hc (by omega)
    clear hc
    apply utf8EncodeChar_two <;> omega
  | three hb hbits hlow hhigh =>
    obtain ⟨x, r, rfl, hx, h⟩ := h.of_more
    obtain ⟨y, rfl, hy, hc⟩ := h.of_last
    have hlow := toNat_of_eq_ite hlow
    have hhigh := toNat_of_eq_ite hhigh
    simp only [UInt8.toNat_ofNat] at hlow hhigh hy
    have hn := toNat_of_eq_ofNat hc (by omega)
    clear hc
    apply utf8EncodeChar_three <;> omega
  | four hb hbits hlow hhigh =>
    obtain ⟨x, r, rfl, hx, h⟩ := h.of_more
    obtain ⟨y, s, rfl, hy, h⟩ := h.of_more
    obtain ⟨z, rfl, hz, hc⟩ := h.of_last
    have hlow := toNat_of_eq_ite hlow
    have hhigh := toNat_of_eq_ite hhigh
    simp only [UInt8.toNat_ofNat] at hlow hhigh hy hz
    have hn := toNat_of_eq_ofNat hc (by omega)
    clear hc
    apply utf8EncodeChar_four <;> omega

theorem completes_last {bits : Nat} {low high x : UInt8}
    (hx : low.toNat ≤ x.toNat ∧ x.toNat ≤ high.toNat) (hc : c.toNat = bits * 64 + (x.toNat - 0x80)) :
    Completes ⟨bits, 1, low, high⟩ [x] c := by
  have h : Completes ⟨bits, 1, low, high⟩ [x] (Char.ofNat (bits * 64 + (x.toNat - 0x80))) :=
    .last (Nat.le_refl 1) (takes_iff.mpr hx)
  rwa [← hc, Char.ofNat_toNat] at h

theorem completes_more {bits k : Nat} {low high x : UInt8}
    (hx : low.toNat ≤ x.toNat ∧ x.toNat ≤ high.toNat)
    (h : Completes ⟨bits * 64 + (x.toNat - 0x80), k + 1, 0x80, 0xBF⟩ q c) :
    Completes ⟨bits, k + 2, low, high⟩ (x :: q) c :=
  .more (by simp) (takes_iff.mpr hx) h

theorem opens_of_utf8EncodeChar (h : String.utf8EncodeChar c = b :: q) :
    (c.toNat < 0x80 ∧ b.toNat = c.toNat ∧ q = []) ∨ ∃ u, Opens b u ∧ Completes u q c := by
  have hval : c.val.toNat = c.toNat := rfl
  have hvalid : c.toNat < 0xD800 ∨ 0xDFFF < c.toNat ∧ c.toNat < 0x110000 := c.valid
  rw [String.utf8EncodeChar.eq_1, hval] at h
  split at h
  · simp only [List.cons.injEq, ← UInt8.toNat_inj, UInt8.toNat_ofNat'] at h
    exact Or.inl ⟨by omega, by omega, h.2.symm⟩
  split at h
  · obtain ⟨hb, rfl⟩ := List.cons.inj h
    simp only [← UInt8.toNat_inj, UInt8.toNat_ofNat'] at hb
    have hopens : Opens b ⟨c.toNat / 64, 1, 0x80, 0xBF⟩ := .two (by omega) (by omega) (by omega)
    refine Or.inr ⟨_, hopens, completes_last ?_ ?_⟩ <;>
      simp only [UInt8.toNat_ofNat', UInt8.toNat_ofNat] <;> omega
  split at h
  · obtain ⟨hb, rfl⟩ := List.cons.inj h
    simp only [← UInt8.toNat_inj, UInt8.toNat_ofNat'] at hb
    have hopens : Opens b ⟨c.toNat / 4096, 2, _, _⟩ := .three (by omega) (by omega) rfl rfl
    have hlow := toNat_of_eq_ite (z := if c.toNat / 4096 = 0 then 0xA0 else 0x80) rfl
    have hhigh := toNat_of_eq_ite (z := if c.toNat / 4096 = 13 then 0x9F else 0xBF) rfl
    simp only [UInt8.toNat_ofNat] at hlow hhigh
    refine Or.inr ⟨_, hopens, completes_more ?_ (completes_last ?_ ?_)⟩ <;>
      simp only [UInt8.toNat_ofNat', UInt8.toNat_ofNat] <;> omega
  · obtain ⟨hb, rfl⟩ := List.cons.inj h
    simp only [← UInt8.toNat_inj, UInt8.toNat_ofNat'] at hb
    have hopens : Opens b ⟨c.toNat / 262144, 3, _, _⟩ := .four (by omega) (by omega) rfl rfl
    have hlow := toNat_of_eq_ite (z := if c.toNat / 262144 = 0 then 0x90 else 0x80) rfl
    have hhigh := toNat_of_eq_ite (z := if c.toNat / 262144 = 4 then 0x8F else 0xBF) rfl
    simp only [UInt8.toNat_ofNat] at hlow hhigh
    refine Or.inr ⟨_, hopens, completes_more ?_ (completes_more ?_ (completes_last ?_ ?_))⟩ <;>
      simp only [UInt8.toNat_ofNat', UInt8.toNat_ofNat] <;> omega

theorem Opens.le (h : Opens b u) : 0xC2 ≤ b.toNat := by
  cases h <;> omega

theorem Opens.unique {v : Unfinished} (hu : Opens b u) (hv : Opens b v) : u = v := by
  rw [← open?_eq_some_iff] at hu hv
  exact Option.some.inj (hu.symm.trans hv)

theorem takes_following (bits missing : Nat) : Unfinished.Takes ⟨bits, missing, 0x80, 0xBF⟩ 0x80 :=
  ⟨UInt8.le_refl 0x80, (by decide : (0x80 : UInt8) ≤ 0xBF)⟩

theorem Opens.takes (h : Opens b u) : ∃ x, u.Takes x := by
  cases h with
  | two => exact ⟨0x80, takes_following ..⟩
  | @three _ low high _ _ hlow hhigh | @four _ low high _ _ hlow hhigh =>
    have hlow := toNat_of_eq_ite hlow
    have hhigh := toNat_of_eq_ite hhigh
    simp only [UInt8.toNat_ofNat] at hlow hhigh
    have hle : low.toNat ≤ high.toNat := by omega
    exact ⟨low, takes_iff.mpr ⟨Nat.le_refl low.toNat, hle⟩⟩

theorem Completes.ne_nil (h : Completes u q c) : q ≠ [] := by
  cases h <;> exact List.cons_ne_nil _ _

theorem Completes.takes (h : Completes u (b :: q) c) : u.Takes b := by
  cases h <;> assumption

theorem Completes.eq_of_append {r : Bytes} {d : Char} (hc : Completes u q c)
    (hd : Completes u (q ++ r) d) : c = d := by
  induction hc with
  | last hlast _ =>
    cases hd with
    | last _ _ => rfl
    | more hmore _ _ => exact absurd hlast (Nat.not_le.mpr hmore)
  | @more _ _ q _ hmore _ _ ih =>
    rw [List.cons_append] at hd
    generalize hs : q ++ r = s at hd
    cases hd with
    | last hlast _ => exact absurd hlast (Nat.not_le.mpr hmore)
    | more _ _ hd => exact ih (hs ▸ hd)

theorem exists_completes (h : ∃ b, u.Takes b) : ∃ q c, Completes u q c := by
  obtain ⟨bits, missing, low, high⟩ := u
  induction missing generalizing bits low high with
  | zero =>
    obtain ⟨b, hb⟩ := h
    exact ⟨[b], _, .last (Nat.zero_le 1) hb⟩
  | succ k ih =>
    obtain ⟨b, hb⟩ := h
    rcases Nat.lt_or_ge 1 (k + 1) with hmore | hlast
    · obtain ⟨q, c, hq⟩ := ih (bits * 64 + (b.toNat - 0x80)) 0x80 0xBF ⟨0x80, takes_following ..⟩
      exact ⟨b :: q, c, .more hmore hb hq⟩
    · exact ⟨[b], _, .last hlast hb⟩

/-- No character's bytes begin those of another one. -/
theorem eq_of_prefix_utf8EncodeChar {d : Char}
    (h : String.utf8EncodeChar c <+: String.utf8EncodeChar d) : c = d := by
  obtain ⟨r, hr⟩ := h
  obtain ⟨b, q, hc⟩ := List.exists_cons_of_ne_nil (String.utf8EncodeChar_ne_nil (c := c))
  rw [hc, List.cons_append] at hr
  rcases opens_of_utf8EncodeChar hc with ⟨hlow, hb, -⟩ | ⟨u, hu, hq⟩
  · rcases opens_of_utf8EncodeChar hr.symm with ⟨-, hd, -⟩ | ⟨v, hv, -⟩
    · exact Char.toNat_inj.mp (hb.symm.trans hd)
    · have := hv.le
      omega
  · rcases opens_of_utf8EncodeChar hr.symm with ⟨hlow, hd, -⟩ | ⟨v, hv, hqr⟩
    · have := hu.le
      omega
    · rw [hv.unique hu] at hqr
      exact hq.eq_of_append hqr

theorem toNat_of_mem_utf8EncodeChar (hc : 128 ≤ c.toNat) :
    ∀ b ∈ String.utf8EncodeChar c, 128 ≤ b.toNat := by
  have hval : c.toNat = c.val.toNat := rfl
  intro b hb
  unfold String.utf8EncodeChar at hb
  dsimp only at hb
  rw [if_neg (by omega)] at hb
  split at hb
  · simp only [List.mem_cons, List.not_mem_nil, or_false] at hb
    rcases hb with rfl | rfl <;> rw [UInt8.toNat_ofNat'] <;> omega
  split at hb
  · simp only [List.mem_cons, List.not_mem_nil, or_false] at hb
    rcases hb with rfl | rfl | rfl <;> rw [UInt8.toNat_ofNat'] <;> omega
  · simp only [List.mem_cons, List.not_mem_nil, or_false] at hb
    rcases hb with rfl | rfl | rfl | rfl <;> rw [UInt8.toNat_ofNat'] <;> omega

theorem eq_singleton_of_mem (hb : b ∈ String.utf8EncodeChar c) (hlow : b.toNat < 0x80) :
    String.utf8EncodeChar c = [b] := by
  have hc : c.toNat < 0x80 := by
    refine Nat.lt_of_not_le fun hc => ?_
    have hhigh := toNat_of_mem_utf8EncodeChar hc b hb
    omega
  have hone := utf8EncodeChar_one hc (b := UInt8.ofNat c.toNat)
    (by rw [UInt8.toNat_ofNat']; omega)
  rw [hone] at hb ⊢
  rw [List.mem_singleton.mp hb]

/-- No character reaches over a byte below 128. -/
theorem prefix_of_prefix_append {x y : Bytes} (hx : x ≠ []) (hlow : b.toNat < 0x80)
    (hq : q <+: x ++ b :: y) (hc : q <+: String.utf8EncodeChar c) : q <+: x := by
  rcases Nat.lt_or_ge x.length q.length with hlong | hshort
  · obtain ⟨r, rfl⟩ :=
      List.prefix_of_prefix_length_le (List.prefix_append x _) hq (Nat.le_of_lt hlong)
    rw [List.prefix_append_right_inj] at hq
    cases r with
    | nil => simp at hlong
    | cons d r =>
      -- The low byte would be one of several bytes of a character.
      obtain rfl : d = b := (List.cons_prefix_cons.mp hq).1
      have hmem : d ∈ String.utf8EncodeChar c := hc.subset (by simp)
      have hlength := hc.length_le
      have hpos := List.length_pos_iff.mpr hx
      rw [eq_singleton_of_mem hmem hlow] at hlength
      simp only [List.length_append, List.length_cons, List.length_nil] at hlength
      omega
  · exact List.prefix_of_prefix_length_le hq (List.prefix_append x _) hshort

end DnsBlocklist.Utf8
