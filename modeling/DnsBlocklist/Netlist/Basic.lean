import DnsBlocklist.Range

/-! Netlists: rules on address ranges, read top to bottom. The first rule that contains an address
decides, and addresses in no rule get the fallback. -/

namespace DnsBlocklist
set_option autoImplicit false

/-- A range of addresses, accepted or refused. -/
structure Rule where
  range : Range
  accept : Bool
deriving DecidableEq

structure Netlist where
  rules : List Rule
  fallback : Bool
deriving DecidableEq

namespace Rule

def text (r : Rule) : Text := (if r.accept then [] else ['!']) ++ r.range.text

end Rule

namespace Netlist

/-- What addresses in no rule get: the opposite of the last verdict, and everything is accepted
where there is none. -/
def fallbackAfter (last : Option Bool) : Bool :=
  match last with
  | none => true
  | some accept => !accept

def ofRules (rules : List Rule) : Netlist := ⟨rules, fallbackAfter (rules.getLast?.map (·.accept))⟩

/-- The rules, and the fallback as a rule for all addresses. -/
def allRules (l : Netlist) : List Rule := l.rules ++ [⟨Range.everything, l.fallback⟩]

def acceptsV4 (l : Netlist) (ip : Ipv4) : Bool :=
  match l.rules.find? (·.range.contains ip) with
  | some r => r.accept
  | none => l.fallback

/-- Mapped addresses count as the IPv4 addresses they hold, other IPv6 addresses are in no rule. -/
def accepts (l : Netlist) : IpAddress → Bool
  | .v4 ip => l.acceptsV4 ip
  | .v6 ip =>
    match ip.mapped? with
    | some v4 => l.acceptsV4 v4
    | none => l.fallback

/-- The place in `allRules` of the first rule that contains an address. -/
def ruleIndex (l : Netlist) (ip : Ipv4) : Nat :=
  (l.rules.findIdx? (·.range.contains ip)).getD l.rules.length

def text (l : Netlist) : Text := Text.join [','] (l.allRules.map Rule.text)

/-- No netlist accepts everyone. -/
def allows (l : Option Netlist) (ip : IpAddress) : Bool := l.all (·.accepts ip)

end Netlist

end DnsBlocklist
