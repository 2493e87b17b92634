import DnsBlocklist.IpSet.Line
import DnsBlocklist.Text.Utf8

/-! Loading dataset texts into a set. Lines that cannot be used are skipped with a warning and have
no other effect. -/

namespace DnsBlocklist.IpSet
set_option autoImplicit false

/-- A skipped line: its number, counted from one, and why. -/
structure Warning where
  line : Nat
  problem : Problem
deriving DecidableEq

/-- A load between two lines; the warnings are in reverse. -/
structure Loading where
  set : IpSet
  base : Listing
  lines : Nat
  warnings : List Warning

namespace Loading

def start (s : IpSet) : Loading := ⟨s, Listing.initial, 0, []⟩

def apply (l : Loading) : Line → Loading
  | .ignored => { l with lines := l.lines + 1 }
  | .initial base => { l with lines := l.lines + 1, base }
  | .entry r e => { l with lines := l.lines + 1, set := l.set.insert r e }
  | .skipped problem =>
    { l with lines := l.lines + 1, warnings := ⟨l.lines + 1, problem⟩ :: l.warnings }

def step (hostBits : HostBits) (l : Loading) (raw : Text) : Loading :=
  l.apply (Line.read hostBits l.base raw)

end Loading

/-- Adds the entries of a text to a set. -/
def load (hostBits : HostBits) (s : IpSet) (t : Text) : IpSet × List Warning :=
  let l := (t.splitOn '\n').foldl (Loading.step hostBits) (Loading.start s)
  (l.set, l.warnings.reverse)

/-- As `load`, of the bytes of a file; what is not UTF-8 is replaced. -/
def loadBytes (hostBits : HostBits) (s : IpSet) (bytes : Bytes) : IpSet × List Warning :=
  load hostBits s (Utf8.decode bytes)

end DnsBlocklist.IpSet
