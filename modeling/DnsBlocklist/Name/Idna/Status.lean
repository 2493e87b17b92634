import DnsBlocklist.Name.Idna.Replacement
import DnsBlocklist.Name.Idna.Table

/-! What becomes of the characters of an internationalized label, and the text with every character
replaced. Zero width joiners are valid here; whether they may stand where they do is another rule. -/

namespace DnsBlocklist.Name.Idna
set_option autoImplicit false

inductive Status where
  | valid
  | disallowed
  | replaced (text : Text)
deriving DecidableEq

/-- The other letter case in a run that pairs up neighbours. -/
def alternate? (n : Nat) : Option Nat :=
  (alternatingRuns.find? fun (first, last) => first ≤ n && n ≤ last && (n - first) % 2 == 0).map
    fun _ => n + 1

def shifted? (n : Nat) : Option Nat :=
  (shiftedRuns.find? fun (first, last, _) => first ≤ n && n ≤ last).map
    fun (first, _, target) => target + (n - first)

def single? (n : Nat) : Option Nat :=
  singleReplacements.findSome? fun (first, targets) =>
    if first ≤ n then targets[n - first]? else none

def multiple? (n : Nat) : Option (List Nat) :=
  multipleReplacements.findSome? fun (first, targets) =>
    if first ≤ n then targets[n - first]? else none

/-- The code points that replace one, if it does not stay. -/
def replacement? (n : Nat) : Option (List Nat) :=
  match alternate? n with
  | some m => some [m]
  | none =>
    match shifted? n with
    | some m => some [m]
    | none =>
      match single? n with
      | some m => some [m]
      | none => multiple? n

namespace Status

def ofChar (c : Char) : Status :=
  if disallowedRuns.covers c then disallowed
  else if ignoredRuns.covers c then replaced []
  else
    match replacement? c.toNat with
    | some ns => replaced (ns.map Char.ofNat)
    | none => valid

end Status

/-- The text with every character replaced, if it holds none that is disallowed. -/
def replaceAll? : Text → Option Text
  | [] => some []
  | c :: cs =>
    match Status.ofChar c with
    | .disallowed => none
    | .replaced t => (replaceAll? cs).map (t ++ ·)
    | .valid => (replaceAll? cs).map (c :: ·)

end DnsBlocklist.Name.Idna
