import DnsBlocklist.Text.Canonical.Order
import DnsBlocklist.Text.Joining

/-! Where the zero width joiner and non-joiner may stand in a label. -/

namespace DnsBlocklist.Name.Idna
set_option autoImplicit false

def nonJoiner : Char := Char.ofNat 0x200C

def joiner : Char := Char.ofNat 0x200D

def isVirama (c : Char) : Bool := Text.combiningClass c == 9

/-- Whether the nearest character that is not transparent to joining satisfies `p`. -/
def nearest (p : Char → Bool) (t : Text) : Bool :=
  match t.dropWhile Text.isTransparent with
  | [] => false
  | c :: _ => p c

/-- A joiner or non-joiner may follow a virama, and a non-joiner may part two letters that would
join. `before` is the text in front, backwards. -/
def joinerFits (c : Char) (before after : Text) : Bool :=
  match before with
  | [] => false
  | b :: _ =>
    isVirama b ||
      (c = nonJoiner && nearest Text.joinsNext before && nearest Text.joinsPrevious after)

/-- Whether all joiners of a label fit, `before` being what stands in front of it, backwards. -/
def joinersFit (before : Text) : Text → Bool
  | [] => true
  | c :: cs =>
    (if c = joiner ∨ c = nonJoiner then joinerFits c before cs else true) &&
      joinersFit (c :: before) cs

end DnsBlocklist.Name.Idna
