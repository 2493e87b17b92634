import DnsBlocklist.Name.Basic
import DnsBlocklist.Name.Idna.Basic
import DnsBlocklist.Text.Numeric
import DnsBlocklist.Text.Utf8

/-! Names written as text. A dot ends a label, a backslash takes the next character as it is or
reads three octal digits as one character, and a name whose last dot ends a label is rooted. Labels
are ASCII, or, in the names of hosts, of any script. -/

namespace DnsBlocklist.Name
set_option autoImplicit false

/-- Why a text is no name. -/
inductive Fault where
  | strayCharacter (c : Char)
  | notOctal (c : Char)
  | malformedLabel (label : Text)
  | noAsciiForm (label : Text)
  | labelTooLong (bytes : Nat)
  | tooLong (bytes : Nat)
deriving DecidableEq

namespace Fault

def message : Fault → Text
  | strayCharacter c => "unrecognized char: ".toList ++ [c]
  | notOctal c => "illegal char: ".toList ++ [c]
  | malformedLabel label => "Malformed label: ".toList ++ label
  | noAsciiForm label => "Label contains invalid characters: ".toList ++ label
  | labelTooLong n => "label bytes exceed 63: ".toList ++ Nat.toDigits 10 n
  | tooLong n => "name label data exceed 255: ".toList ++ Nat.toDigits 10 n

end Fault

def isLabelStart (c : Char) : Bool := c.isAlphanum || c == '_' || c == '.' || c == '*'

def isLabelRest (c : Char) : Bool := c.isAlphanum || c == '_' || c == '.' || c == '-'

/-- Whether a label can be written like this: ASCII letters, digits, underscores and escaped dots,
a hyphen anywhere but in front, an asterisk only in front. -/
def isLabelText : Text → Bool
  | [] => false
  | c :: cs => isLabelStart c && cs.all isLabelRest

/-- A label in ASCII. -/
def readLabel (label : Text) : Except Fault Label :=
  let bytes := Utf8.encode label
  if 63 < bytes.length then .error (.labelTooLong bytes.length)
  else if isLabelText label then
    match Label.ofBytes? bytes with
    | none => .error (.malformedLabel label)
    | some l => .ok l
  else .error (.malformedLabel label)

/-- A label of a host name. A lone `*` and a label that starts with an underscore are read as they
are, any other one in its ASCII form. -/
def readHostLabel : Text → Except Fault Label
  | ['*'] => readLabel ['*']
  | '_' :: label => readLabel ('_' :: label)
  | label =>
    match Idna.toAscii? label with
    | none => .error (.noAsciiForm label)
    | some label => readLabel label

def append (n : Name) (l : Label) : Except Fault Name :=
  match n.push? l with
  | some n => .ok n
  | none => .error (.tooLong (encodedLength (n.labels ++ [l])))

/-- An octal digit where a numeric character stands. -/
def octal (c : Char) : Except Fault Nat :=
  if '0' ≤ c && c ≤ '7' then .ok (c.toNat - 48) else .error (.notOctal c)

/-- A later octal digit of an escape. -/
def nextOctal (c : Char) : Except Fault Nat :=
  if Text.isNumeric c then octal c else .error (.strayCharacter c)

/-- Reads labels off a text. The result is the name so far and the text of its unfinished label; an
escape that the text ends in is dropped. -/
def scan (read : Text → Except Fault Label) (n : Name) (label : Text) :
    Text → Except Fault (Name × Text)
  | [] => .ok (n, label)
  | '\\' :: [] => .ok (n, label)
  | '\\' :: a :: rest =>
    if Text.isNumeric a then do
      let x ← octal a
      match rest with
      | [] => .ok (n, label)
      | b :: rest =>
        let y ← nextOctal b
        match rest with
        | [] => .ok (n, label)
        | c :: rest =>
          let z ← nextOctal c
          scan read n (label ++ [Char.ofNat (64 * x + 8 * y + z)]) rest
    else scan read n (label ++ [a]) rest
  | c :: rest =>
    if c == '.' then do
      let l ← read label
      let n ← n.append l
      scan read n [] rest
    else if Text.isControl c || Text.isBlank c then .error (.strayCharacter c)
    else scan read n (label ++ [c]) rest

def readWith (read : Text → Except Fault Label) (t : Text) : Except Fault Name :=
  if t = ['.'] then .ok root
  else do
    let (n, label) ← scan read empty [] t
    if label.isEmpty then .ok (n.withRoot !t.isEmpty)
    else
      let l ← read label
      n.append l

def read (t : Text) : Except Fault Name := readWith readLabel t

def readHost (t : Text) : Except Fault Name := readWith readHostLabel t

end DnsBlocklist.Name
