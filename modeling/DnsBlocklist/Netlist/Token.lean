import DnsBlocklist.Netlist.Basic

/-! Netlists as written: tokens between commas, semicolons and spaces. A token of digits, dots and
slashes alone is a range, any other one a host name that may have a prefix length. -/

namespace DnsBlocklist
set_option autoImplicit false

namespace Netlist

inductive Target where
  | range (r : Range)
  | host (name : Text) (length : Nat)
deriving DecidableEq

structure Token where
  accept : Bool
  target : Target
deriving DecidableEq

def isSeparator (c : Char) : Bool := c == ',' || c == ';' || c == ' '

def split (spec : Text) : List Text := (spec.splitOnP isSeparator).filter (!·.isEmpty)

def isRangeCharacter (c : Char) : Bool := c.isDigit || c == '.' || c == '/'

namespace Target

/-- A host name and the prefix length of the ranges around its addresses. -/
def readHost (t : Text) : Except ConfigFault Target :=
  match Text.cut? (· == '/') t with
  | none => .ok (.host t 32)
  | some (name, bits) =>
    match Decimal.readPlusWithin? 1 32 bits with
    | some length => .ok (.host name length)
    | none => .error (.mask bits)

def read (hostBits : HostBits) (t : Text) : Except ConfigFault Target :=
  if t.all isRangeCharacter then (Range.read hostBits t).map .range else readHost t

end Target

namespace Token

def read (hostBits : HostBits) : Text → Except ConfigFault Token
  | '!' :: t => (Target.read hostBits t).map fun target => ⟨false, target⟩
  | t => (Target.read hostBits t).map fun target => ⟨true, target⟩

/-- All tokens of a netlist, or the fault of the first one that is malformed. -/
def readAll (hostBits : HostBits) : List Text → Except ConfigFault (List Token)
  | [] => .ok []
  | t :: ts =>
    match read hostBits t with
    | .error fault => .error fault
    | .ok token =>
      match readAll hostBits ts with
      | .error fault => .error fault
      | .ok tokens => .ok (token :: tokens)

end Token

/-- How host names become addresses. -/
abbrev Resolver (m : Type → Type) := Text → m (Except ConfigFault (List Ipv4))

variable {m : Type → Type} [Monad m]

/-- The rules of one token: one for a range, one for each address of a host. -/
def Token.rules (resolve : Resolver m) (token : Token) : m (Except ConfigFault (List Rule)) :=
  match token.target with
  | .range r => pure (.ok [⟨r, token.accept⟩])
  | .host name length => do
    match ← resolve name with
    | .error fault => pure (.error fault)
    | .ok [] => pure (.error (.unknownHost name))
    | .ok ips => pure (.ok (ips.map fun ip => ⟨Range.around ip length, token.accept⟩))

/-- The rules of all tokens in order, or the fault of the first host that cannot be resolved. -/
def rulesOf (resolve : Resolver m) : List Token → m (Except ConfigFault (List Rule))
  | [] => pure (.ok [])
  | token :: tokens => do
    match ← token.rules resolve with
    | .error fault => pure (.error fault)
    | .ok here =>
      match ← rulesOf resolve tokens with
      | .error fault => pure (.error fault)
      | .ok there => pure (.ok (here ++ there))

/-- The netlist of a text. Hosts are asked for only when every token is well-formed. -/
def build (resolve : Resolver m) (hostBits : HostBits) (spec : Text) :
    m (Except ConfigFault Netlist) :=
  match Token.readAll hostBits (split spec) with
  | .error fault => pure (.error fault)
  | .ok tokens => do
    match ← rulesOf resolve tokens with
    | .error fault => pure (.error fault)
    | .ok rules => pure (.ok ⟨rules, fallbackAfter (tokens.getLast?.map (·.accept))⟩)

/-- The netlist that a setting asks for, none where the setting is absent. -/
def build? (resolve : Resolver m) (hostBits : HostBits) :
    Option Text → m (Except ConfigFault (Option Netlist))
  | none => pure (.ok none)
  | some spec => do return (← build resolve hostBits spec).map some

/-- Names that need no lookup: `localhost` and names under it are the loopback address, names under
`invalid` do not exist. -/
def reservedAnswer? (host : Text) : Option (Except ConfigFault (List Ipv4)) :=
  match Name.readHost host with
  | .error fault => some (.error (.unresolved host fault.message))
  | .ok name =>
    match name.lower.labels.getLast?.map fun l => l.bytes.map fun b => Char.ofNat b.toNat with
    | none => none
    | some top =>
      if top = "localhost".toList then some (.ok [Ipv4.localhost])
      else if top = "invalid".toList then
        some (.error (.unresolved host "no such name".toList))
      else none

end Netlist

end DnsBlocklist
