import DnsBlocklist.Name.Idna.Bidi
import DnsBlocklist.Name.Idna.Joiner
import DnsBlocklist.Name.Idna.Status
import DnsBlocklist.Name.Punycode
import DnsBlocklist.Text.Canonical.Basic
import DnsBlocklist.Text.Mark

/-! Internationalized names: the labels that a text stands for, and their Unicode and ASCII forms.
The rules are those of Unicode Technical Standard 46 without its hyphen checks. -/

namespace DnsBlocklist.Name.Idna
set_option autoImplicit false

/-- The ASCII characters that labels may hold: all of them, or those of host names. -/
inductive Alphabet where
  | all
  | host
deriving DecidableEq

def isAscii (c : Char) : Bool := c.toNat < 0x80

namespace Alphabet

def allows : Alphabet → Char → Bool
  | all, _ => true
  | host, c => !isAscii c || c.isLower || c.isDigit || c == '-'

end Alphabet

def startsWithMark : Text → Bool
  | [] => false
  | c :: _ => Text.isMark c

/-- Whether a label in Unicode form may be used. -/
def isLabel (alphabet : Alphabet) (l : Text) : Bool :=
  l.all alphabet.allows && !startsWithMark l && joinersFit [] l

/-- The label that ASCII text after `xn--` stands for. It must be one that replacement and
normalization leave alone. -/
def decodeLabel? (alphabet : Alphabet) (code : Text) : Option Text :=
  match code.getLast? with
  | none => none
  | some last =>
    if last == '-' || !code.all isAscii then none
    else
      match Punycode.decode? code with
      | none => none
      | some l =>
        if l.all (Status.ofChar · = .valid) && Text.canonical l == l && isLabel alphabet l then
          some l
        else none

def readLabel? (alphabet : Alphabet) : Text → Option Text
  | 'x' :: 'n' :: '-' :: '-' :: code => decodeLabel? alphabet code
  | l => if isLabel alphabet l then some l else none

/-- The labels of a text in Unicode form; empty ones are kept. -/
def labels? (alphabet : Alphabet) (t : Text) : Option (List Text) :=
  match replaceAll? t with
  | none => none
  | some t =>
    match ((Text.canonical t).splitOnP (· == '.')).mapM (readLabel? alphabet) with
    | none => none
    | some labels => if keepDirections labels then some labels else none

/-- The Unicode form of a text. -/
def toUnicode? (t : Text) : Option Text := (labels? .all t).map (Text.join ['.'])

def asciiLabel (l : Text) : Text :=
  if l.all isAscii then l else "xn--".toList ++ Punycode.encode l

/-- Whether labels can stand in a name: none is empty or longer than 63 characters, and with the
dots between them they are 253 at most. -/
def haveLengths (labels : List Text) : Bool :=
  (Text.join ['.'] labels).length ≤ 253 && labels.all fun l => 1 ≤ l.length && l.length ≤ 63

/-- The ASCII form of a text as a host name. -/
def toAscii? (t : Text) : Option Text :=
  match labels? .host t with
  | none => none
  | some labels =>
    let labels := labels.map asciiLabel
    if haveLengths labels then some (Text.join ['.'] labels) else none

end DnsBlocklist.Name.Idna
