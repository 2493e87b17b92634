import DnsBlocklist.Text.Utf8

/-! Texts cut to a number of bytes. The cut falls between characters and gives up no character that
would still fit. -/

namespace DnsBlocklist.Utf8
set_option autoImplicit false

/-- Of the beginnings of `t` that take at most `limit` bytes, `p` is the longest. -/
structure Cut (limit : Nat) (t p : Text) : Prop where
  starts : p <+: t
  fits : (encode p).length ≤ limit
  longest : ∀ q, q <+: t → (encode q).length ≤ limit → q.length ≤ p.length

theorem length_encode_cons (c : Char) (cs : Text) :
    (encode (c :: cs)).length = c.utf8Size + (encode cs).length := by
  rw [encode_cons, List.length_append, String.length_utf8EncodeChar]

theorem cut_fit (limit : Nat) (t : Text) : Cut limit t (fit limit t) := by
  induction t generalizing limit with
  | nil =>
    refine ⟨List.prefix_rfl, Nat.zero_le limit, fun q hq _ => ?_⟩
    exact List.IsPrefix.length_le hq
  | cons c cs ih =>
    by_cases hc : c.utf8Size ≤ limit
    · obtain ⟨hstarts, hfits, hlongest⟩ := ih (limit - c.utf8Size)
      rw [fit, if_pos hc]
      refine ⟨?_, ?_, fun q hq hbytes => ?_⟩
      · exact List.cons_prefix_cons.mpr ⟨rfl, hstarts⟩
      · rw [length_encode_cons]
        omega
      · cases q with
        | nil => exact Nat.zero_le _
        | cons d q =>
          obtain ⟨rfl, hrest⟩ := List.cons_prefix_cons.mp hq
          rw [length_encode_cons] at hbytes
          exact Nat.succ_le_succ (hlongest q hrest (by omega))
    · rw [fit, if_neg hc]
      refine ⟨List.nil_prefix, Nat.zero_le limit, fun q hq hbytes => ?_⟩
      cases q with
      | nil => exact Nat.le_refl 0
      | cons d q =>
        obtain ⟨rfl, -⟩ := List.cons_prefix_cons.mp hq
        rw [length_encode_cons] at hbytes
        omega

end DnsBlocklist.Utf8
