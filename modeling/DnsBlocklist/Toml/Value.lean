import DnsBlocklist.Text.Basic

/-! Values of a TOML document. Numbers with a fraction and times are told apart from other values
but not kept. -/

namespace DnsBlocklist.Toml
set_option autoImplicit false

/-- How a table came about: written between braces, needed by a longer header, needed by a dotted
key, or written as a header of its own. -/
inductive TableKind where
  | closed
  | implicit
  | dotted
  | stated
deriving DecidableEq

inductive Value where
  | string (t : Text)
  | integer (n : Int)
  | fraction
  | boolean (b : Bool)
  | time
  | array (values : List Value)
  | table (kind : TableKind) (entries : List (Text × Value))
  | tables (elements : List (List (Text × Value)))

abbrev Entries := List (Text × Value)

namespace Entries

def get? (es : Entries) (key : Text) : Option Value := es.lookup key

/-- Sets the value of a key, at the end if it is new. -/
def set (es : Entries) (key : Text) (v : Value) : Entries :=
  match es with
  | [] => [(key, v)]
  | (k, w) :: es => if k = key then (key, v) :: es else (k, w) :: set es key v

/-- Applies `f` to the table at the end of a path. Tables on the way are made where they are missing,
dotted ones if `dotted` says so; a path that leads through a value, or a dotted one through a table
with a header of its own, has no end. Of an array of tables the last one is meant. -/
def descend {α : Type} (dotted : Bool) (f : TableKind → Entries → Option (Entries × α)) :
    List Text → TableKind → Entries → Option (Entries × α)
  | [], kind, es => f kind es
  | key :: path, _, es =>
    match es.get? key with
    | none => do
      let kind := if dotted then .dotted else .implicit
      let (inner, a) ← descend dotted f path kind []
      return (es.set key (.table kind inner), a)
    | some (.table .closed _) => none
    | some (.table kind inner) =>
      if dotted && kind == .stated then none
      else do
        let (inner, a) ← descend dotted f path kind inner
        return (es.set key (.table kind inner), a)
    | some (.tables elements) =>
      match elements.getLast? with
      | none => none
      | some last => do
        let (inner, a) ← descend dotted f path .stated last
        return (es.set key (.tables (elements.dropLast ++ [inner])), a)
    | some _ => none

/-- Adds a key to a table. Only the tables that a dotted key needs itself take dotted keys. -/
def assignHere (isDotted : Bool) (key : Text) (v : Value) (kind : TableKind) (es : Entries) :
    Option (Entries × Unit) :=
  if (kind == .dotted) != isDotted || (es.get? key).isSome then none else some (es.set key v, ())

/-- Adds a key, whose parts but the last one are `path`. -/
def assign (path : List Text) (key : Text) (v : Value) (es : Entries) : Option Entries :=
  (descend true (assignHere (!path.isEmpty) key v) path .stated es).map (·.1)

end Entries

end DnsBlocklist.Toml
