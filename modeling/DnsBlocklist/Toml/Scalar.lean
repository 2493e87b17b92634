import DnsBlocklist.Text.Decimal
import DnsBlocklist.Toml.Value

/-! Numbers, times and truth values, read as whole words. -/

namespace DnsBlocklist.Toml
set_option autoImplicit false

/-- The characters that such a word is made of. -/
def isWordCharacter (c : Char) : Bool :=
  c.isAlphanum || c == '+' || c == '-' || c == '.' || c == ':' || c == '_'

/-- The digits of a run that goes on, where an underscore may stand between two digits. -/
def moreDigits (p : Char → Bool) : Text → Text × Text
  | [] => ([], [])
  | '_' :: c :: t =>
    if p c then
      let (digits, rest) := moreDigits p t
      (c :: digits, rest)
    else ([], '_' :: c :: t)
  | c :: t =>
    if p c then
      let (digits, rest) := moreDigits p t
      (c :: digits, rest)
    else ([], c :: t)

/-- One or more digits. -/
def readDigits (p : Char → Bool) : Text → Option (Text × Text)
  | [] => none
  | c :: t =>
    if p c then
      let (digits, rest) := moreDigits p t
      some (c :: digits, rest)
    else none

def readSign : Text → Bool × Text
  | '-' :: t => (true, t)
  | '+' :: t => (false, t)
  | t => (false, t)

/-- A decimal number without leading zeros. -/
def readDecimal (t : Text) : Option (Bool × Text × Text) :=
  let (negative, t) := readSign t
  match readDigits Char.isDigit t with
  | some ('0' :: _ :: _, _) | none => none
  | some (digits, rest) => some (negative, digits, rest)

def digitValue (c : Char) : Nat :=
  if c.isDigit then c.toNat - 48 else if 'a' ≤ c then c.toNat - 87 else c.toNat - 55

def isHexDigit (c : Char) : Bool :=
  c.isDigit || ('a' ≤ c && c ≤ 'f') || ('A' ≤ c && c ≤ 'F')

def valueIn (base : Nat) (digits : Text) : Nat :=
  digits.foldl (fun n c => base * n + digitValue c) 0

/-- A number with 64 bits. -/
def bounded (n : Int) : Option Value :=
  if -9223372036854775808 ≤ n ∧ n ≤ 9223372036854775807 then some (.integer n) else none

def inBase (base : Nat) (p : Char → Bool) (t : Text) : Option Value :=
  match readDigits p t with
  | some (digits, []) => bounded (valueIn base digits)
  | _ => none

def integer? : Text → Option Value
  | '0' :: 'x' :: t => inBase 16 isHexDigit t
  | '0' :: 'o' :: t => inBase 8 (fun c => '0' ≤ c && c ≤ '7') t
  | '0' :: 'b' :: t => inBase 2 (fun c => c == '0' || c == '1') t
  | t =>
    match readDecimal t with
    | some (negative, digits, []) =>
      let n : Int := valueIn 10 digits
      bounded (if negative then -n else n)
    | _ => none

/-- The exponent that ends a number, 0 where there is none. -/
def readExponent : Text → Option Int
  | [] => some 0
  | c :: t =>
    if c == 'e' || c == 'E' then
      let (negative, t) := readSign t
      match readDigits Char.isDigit t with
      | some (digits, []) =>
        let n : Int := valueIn 10 digits
        some (if negative then -n else n)
      | _ => none
    else none

/-- Whether `digits * 10 ^ exponent` is too large for a number with 64 bits: whether it is nearer to
`2 ^ 1024` than to the largest such number. -/
def isHuge (digits : Text) (exponent : Int) : Bool :=
  let n := valueIn 10 digits
  let size : Int := (digits.dropWhile (· == '0')).length + exponent
  if n = 0 || size < 300 then false
  else if 320 < size then true
  else
    let limit := Nat.pow 2 1024 - Nat.pow 2 970
    if 0 ≤ exponent then limit ≤ n * Nat.pow 10 exponent.toNat
    else limit * Nat.pow 10 (-exponent).toNat ≤ n

def fraction? (t : Text) : Option Value :=
  let (_, plain) := readSign t
  if plain = "inf".toList ∨ plain = "nan".toList then some .fraction
  else do
    let (negative, whole, rest) ← readDecimal t
    let (digits, rest) ← match rest with
      | '.' :: rest => readDigits Char.isDigit rest
      | [] => none
      | rest => some ([], rest)
    let exponent ← readExponent rest
    if !negative && isHuge (whole ++ digits) (exponent - digits.length) then none
    else some .fraction

/-- A number of exactly two digits between two bounds. -/
def twoDigits? (low high : Nat) (a b : Char) : Option Nat := Decimal.readWithin? low high [a, b]

def daysIn (year month : Nat) : Nat :=
  if month = 2 then
    if year % 4 = 0 ∧ (year % 100 ≠ 0 ∨ year % 400 = 0) then 29 else 28
  else if month = 4 ∨ month = 6 ∨ month = 9 ∨ month = 11 then 30
  else 31

/-- A calendar date off the front of a word. -/
def readDate : Text → Option Text
  | a :: b :: c :: d :: '-' :: e :: f :: '-' :: g :: h :: rest => do
    let year ← Decimal.read? [a, b, c, d]
    let month ← twoDigits? 1 12 e f
    let _ ← twoDigits? 1 (daysIn year month) g h
    return rest
  | _ => none

/-- A time of day off the front of a word. -/
def readTime : Text → Option Text
  | a :: b :: ':' :: c :: d :: ':' :: e :: f :: rest => do
    let _ ← twoDigits? 0 23 a b
    let _ ← twoDigits? 0 59 c d
    let _ ← twoDigits? 0 60 e f
    match rest with
    | '.' :: c :: rest => if c.isDigit then some (rest.dropWhile Char.isDigit) else none
    | rest => some rest
  | _ => none

/-- The offset from world time that may end a time. -/
def isOffset : Text → Bool
  | [] => true
  | [c] => c == 'Z' || c == 'z'
  | [sign, a, b, ':', c, d] =>
    (sign == '+' || sign == '-') && (twoDigits? 0 23 a b).isSome && (twoDigits? 0 59 c d).isSome
  | _ => false

def isTime (t : Text) : Bool :=
  match readDate t with
  | some [] => true
  | some (c :: rest) => (c == 'T' || c == 't') && ((readTime rest).map isOffset).getD false
  | none => readTime t == some []

def scalar? (word : Text) : Option Value :=
  if word = "true".toList then some (.boolean true)
  else if word = "false".toList then some (.boolean false)
  else if isTime word then some .time
  else match integer? word with
    | some v => some v
    | none => fraction? word

/-- Whether a time of day seems to start here. -/
def startsTime : Text → Bool
  | a :: b :: ':' :: _ => a.isDigit && b.isDigit
  | _ => false

/-- Reads a word. A date and the time after it may have a space between them. -/
def readScalar (t : Text) : Option (Value × Text) :=
  let word := t.takeWhile isWordCharacter
  let rest := t.drop word.length
  match rest with
  | ' ' :: after =>
    if readDate word == some [] && startsTime after then
      let clock := after.takeWhile isWordCharacter
      (scalar? (word ++ 'T' :: clock)).map (·, after.drop clock.length)
    else (scalar? word).map (·, rest)
  | _ => (scalar? word).map (·, rest)

end DnsBlocklist.Toml
