import DnsBlocklist.Text.Direction

/-! The rule for labels of mixed direction. Where a name holds a character that is written from
right to left, or an Arabic digit, each of its labels must keep to one direction. -/

namespace DnsBlocklist.Name.Idna
set_option autoImplicit false

open Text (Direction)

def isRightToLeft (d : Direction) : Bool :=
  d = .right || d = .arabicLetter || d = .arabicNumber

/-- The characters that count for the end of a label: its trailing marks are left out. -/
def withoutTrailingMarks (ds : List Direction) : List Direction :=
  (ds.reverse.dropWhile (· = .nonspacingMark)).reverse

def staysNeutral (d : Direction) : Bool :=
  d = .europeanNumber || d = .europeanSeparator || d = .commonSeparator ||
    d = .europeanTerminator || d = .otherNeutral || d = .boundaryNeutral || d = .nonspacingMark

/-- What follows the first character of a label that runs from left to right. -/
def continuesLeft (ds : List Direction) : Bool :=
  (match ds.getLast? with
    | none => true
    | some last => last = .left || last = .europeanNumber) &&
  ds.dropLast.all fun d => d = .left || staysNeutral d

/-- What follows the first character of a label that runs from right to left. Its digits are all
Arabic or all European. -/
def continuesRight (ds : List Direction) : Bool :=
  (match ds.getLast? with
    | none => true
    | some last => isRightToLeft last || last = .europeanNumber) &&
  ds.dropLast.all (fun d => isRightToLeft d || staysNeutral d) &&
  !(ds.contains .europeanNumber && ds.contains .arabicNumber)

def keepsDirection : List Direction → Bool
  | [] => true
  | .left :: ds => continuesLeft (withoutTrailingMarks ds)
  | .right :: ds => continuesRight (withoutTrailingMarks ds)
  | .arabicLetter :: ds => continuesRight (withoutTrailingMarks ds)
  | _ :: _ => false

/-- Whether labels may stand in one name. -/
def keepDirections (labels : List Text) : Bool :=
  let directions := labels.map (·.map Direction.ofChar)
  !directions.any (·.any isRightToLeft) || directions.all keepsDirection

end DnsBlocklist.Name.Idna
