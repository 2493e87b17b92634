import DnsBlocklist.Text.Basic

/-! Character strings in wire form: a length byte and as many bytes as it says. -/

namespace DnsBlocklist.CharacterString
set_option autoImplicit false

/-- Reads one string off the front. -/
def read : Bytes → Option (Bytes × Bytes)
  | [] => none
  | n :: rest =>
    if rest.length < n.toNat then none else some (rest.take n.toNat, rest.drop n.toNat)

theorem length_read {bytes s rest : Bytes} (h : read bytes = some (s, rest)) :
    rest.length < bytes.length := by
  cases bytes with
  | nil => simp [read] at h
  | cons n bytes =>
    simp only [read, Option.ite_none_left_eq_some, Option.some.injEq, Prod.mk.injEq] at h
    obtain ⟨_, _, rfl⟩ := h
    simp only [List.length_drop, List.length_cons]
    omega

/-- The strings that bytes are made of. -/
def readAll (bytes : Bytes) : Option (List Bytes) :=
  match bytes with
  | [] => some []
  | b :: bytes =>
    match _h : read (b :: bytes) with
    | none => none
    | some (s, left) => (readAll left).map (s :: ·)
termination_by bytes.length
decreasing_by exact length_read _h

end DnsBlocklist.CharacterString
