import DnsBlocklist.Name.Basic
import DnsBlocklist.Name.Idna.Basic
import DnsBlocklist.Text.Utf8

/-! Names as they are shown. Letters, digits and underscores stand for themselves, other printable
characters follow a backslash, and every other byte is written as three octal digits. A label that
is the ASCII form of an internationalized one is shown in its own script. -/

namespace DnsBlocklist
set_option autoImplicit false

namespace Label

def octal (b : UInt8) : Text :=
  [Char.ofNat (48 + b.toNat / 64), Char.ofNat (48 + b.toNat / 8 % 8), Char.ofNat (48 + b.toNat % 8)]

/-- One byte of a label; `first` tells whether it is the first one. -/
def displayByte (first : Bool) (b : UInt8) : Text :=
  let c := Char.ofNat b.toNat
  if c.isAlphanum || c == '_' || (c == '-' && !first) || (c == '*' && first) then [c]
  else if 0x21 ≤ b && b ≤ 0x7E then ['\\', c]
  else '\\' :: octal b

def displayAscii : Bytes → Text
  | [] => []
  | b :: bs => displayByte true b ++ bs.flatMap (displayByte false)

/-- Labels that start with `xn--` in small letters are shown in Unicode form if they have one, dots
and all. -/
def display (l : Label) : Text :=
  if [0x78, 0x6E, 0x2D, 0x2D].isPrefixOf l.bytes then
    (Name.Idna.toUnicode? (Utf8.decode l.bytes)).getD (displayAscii l.bytes)
  else displayAscii l.bytes

end Label

namespace Name

def display (n : Name) : Text :=
  Text.join ['.'] (n.labels.map Label.display) ++ if n.rooted then ['.'] else []

end Name

end DnsBlocklist
