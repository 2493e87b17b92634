import DnsBlocklist.Text.Basic

/-! UTF-8. Decoding replaces every maximal ill-formed sequence by one replacement character, and a
strict form refuses such bytes. The decoder looks at one byte at a time and remembers at most one
unfinished character, so an ASCII byte always stands for itself. -/

namespace DnsBlocklist.Utf8
set_option autoImplicit false

/-- An unfinished character: the bits read so far, how many bytes are missing, and the range the
next byte must lie in. -/
structure Unfinished where
  bits : Nat
  missing : Nat
  low : UInt8
  high : UInt8
deriving DecidableEq

def replacement : Char := Char.ofNat 0xFFFD

/-- What a byte that starts a character opens, `none` for a byte that cannot start one. -/
def open? (b : UInt8) : Option Unfinished :=
  let n := b.toNat
  if 0xC2 ≤ n && n ≤ 0xDF then some ⟨n - 0xC0, 1, 0x80, 0xBF⟩
  else if n == 0xE0 then some ⟨0, 2, 0xA0, 0xBF⟩
  else if n == 0xED then some ⟨13, 2, 0x80, 0x9F⟩
  else if 0xE1 ≤ n && n ≤ 0xEF then some ⟨n - 0xE0, 2, 0x80, 0xBF⟩
  else if n == 0xF0 then some ⟨0, 3, 0x90, 0xBF⟩
  else if 0xF1 ≤ n && n ≤ 0xF3 then some ⟨n - 0xF0, 3, 0x80, 0xBF⟩
  else if n == 0xF4 then some ⟨4, 3, 0x80, 0x8F⟩
  else none

/-- The decoder between two bytes. `reversed` holds the decoded text backwards, `none` in it stands
for an ill-formed sequence. -/
structure Decoder where
  unfinished : Option Unfinished
  reversed : List (Option Char)

def Decoder.start : Decoder := ⟨none, []⟩

/-- A byte at the start of a character. -/
def Decoder.begin (out : List (Option Char)) (b : UInt8) : Decoder :=
  if b < 0x80 then ⟨none, some (Char.ofNat b.toNat) :: out⟩
  else match open? b with
    | some u => ⟨some u, out⟩
    | none => ⟨none, none :: out⟩

def Decoder.step (d : Decoder) (b : UInt8) : Decoder :=
  match d.unfinished with
  | none => .begin d.reversed b
  | some u =>
    if u.low ≤ b && b ≤ u.high then
      let bits := u.bits * 64 + (b.toNat - 0x80)
      if u.missing ≤ 1 then ⟨none, some (Char.ofNat bits) :: d.reversed⟩
      else ⟨some ⟨bits, u.missing - 1, 0x80, 0xBF⟩, d.reversed⟩
    else .begin (none :: d.reversed) b

def Decoder.finish (d : Decoder) : List (Option Char) :=
  match d.unfinished with
  | none => d.reversed.reverse
  | some _ => (none :: d.reversed).reverse

/-- The characters the bytes stand for, `none` for each maximal ill-formed sequence. -/
def scan (bytes : Bytes) : List (Option Char) := (bytes.foldl Decoder.step .start).finish

def decode (bytes : Bytes) : Text := (scan bytes).map (·.getD replacement)

/-- The text the bytes stand for, if all of them are well-formed. -/
def decode? (bytes : Bytes) : Option Text := (scan bytes).mapM id

def encode (t : Text) : Bytes := t.flatMap String.utf8EncodeChar

theorem encode_cons (c : Char) (t : Text) : encode (c :: t) = String.utf8EncodeChar c ++ encode t :=
  List.flatMap_cons

theorem encode_append (t u : Text) : encode (t ++ u) = encode t ++ encode u := List.flatMap_append

/-- The longest prefix whose encoding has at most `limit` bytes. -/
def fit : Nat → Text → Text
  | _, [] => []
  | limit, c :: cs => if c.utf8Size ≤ limit then c :: fit (limit - c.utf8Size) cs else []

end DnsBlocklist.Utf8
