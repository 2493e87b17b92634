import DnsBlocklist.Text.Canonical.Order
import DnsBlocklist.Text.Canonical.Pair

/-! Normalization Form C. Composed characters are taken apart, marks on one base are brought into
the order of their classes, and what composes is composed again. Characters that stand for one other
character have no place here: the texts that are normalized have them replaced beforehand. -/

namespace DnsBlocklist.Text
set_option autoImplicit false

/-! Hangul syllables: 19 leading consonants, 21 vowels, and 27 trailing consonants or none. -/

namespace Hangul

def isSyllable (n : Nat) : Bool := 0xAC00 ≤ n && n < 0xAC00 + 11172

def split? (c : Char) : Option Text :=
  if isSyllable c.toNat then
    let i := c.toNat - 0xAC00
    let base := [Char.ofNat (0x1100 + i / 588), Char.ofNat (0x1161 + i % 588 / 28)]
    some (if i % 28 = 0 then base else base ++ [Char.ofNat (0x11A7 + i % 28)])
  else none

/-- A leading consonant with a vowel, or a syllable of these two with a trailing consonant. -/
def join? (first second : Char) : Option Char :=
  let a := first.toNat
  let b := second.toNat
  if 0x1100 ≤ a && a < 0x1113 && 0x1161 ≤ b && b < 0x1176 then
    some (Char.ofNat (0xAC00 + ((a - 0x1100) * 21 + (b - 0x1161)) * 28))
  else if isSyllable a && (a - 0xAC00) % 28 == 0 && 0x11A8 ≤ b && b < 0x11C3 then
    some (Char.ofNat (a + (b - 0x11A7)))
  else none

end Hangul

/-- Takes a character apart, `steps` pairs deep at most. -/
def decomposeChar : Nat → Char → Text
  | 0, c => [c]
  | steps + 1, c =>
    match Hangul.split? c with
    | some t => t
    | none =>
      match pairOf? c with
      | some (first, second) => decomposeChar steps first ++ [second]
      | none => [c]

/-- No composed character has more than three marks on its base. -/
def decompose (t : Text) : Text := t.flatMap (decomposeChar 3)

/-- Puts a character in front of a text whose marks are in order. A mark moves behind the marks of
lower classes that follow it. -/
def insertMark (c : Char) : Text → Text
  | [] => [c]
  | d :: ds =>
    if combiningClass d ≠ 0 ∧ combiningClass d < combiningClass c then d :: insertMark c ds
    else c :: d :: ds

def orderMarks (t : Text) : Text := t.foldr insertMark []

def compose? (first second : Char) : Option Char :=
  match Hangul.join? first second with
  | some c => some c
  | none => composedOf? first second

/-- Composes what follows `base`. `kept` are the marks on it that did not compose; one of them that
is not of a lower class than the next character blocks that character. -/
def composeAfter (base : Char) (kept : Text) : Text → Text
  | [] => base :: kept
  | c :: cs =>
    let free := kept.all (combiningClass · < combiningClass c)
    match if free then compose? base c else none with
    | some b => composeAfter b kept cs
    | none =>
      if combiningClass c = 0 then base :: kept ++ composeAfter c [] cs
      else composeAfter base (kept ++ [c]) cs

/-- Composes an ordered text. Marks in front of the first base stay as they are. -/
def compose : Text → Text
  | [] => []
  | c :: cs => if combiningClass c = 0 then composeAfter c [] cs else c :: compose cs

/-- The text in Normalization Form C. -/
def canonical (t : Text) : Text := compose (orderMarks (decompose t))

end DnsBlocklist.Text
