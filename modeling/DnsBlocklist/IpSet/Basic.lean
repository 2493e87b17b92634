import DnsBlocklist.Range
import Std.Data.TreeMap.Basic
import Std.Data.TreeMap.Lemmas

/-! Sets of IPv4 ranges. Every range in a set is either listed with what to answer or excluded, and
the longest range that contains an address decides. -/

namespace DnsBlocklist
set_option autoImplicit false

/-- What is answered for a listed address. A dollar sign in the text stands for that address. -/
structure Listing where
  address : Ipv4
  text : Option Text
deriving DecidableEq

namespace Listing

/-- The listing in force where nothing else was said. -/
def initial : Listing := ⟨Ipv4.ofOctets 127 0 0 2, none⟩

def expand (ip : Ipv4) (t : Text) : Text := t.flatMap fun c => if c == '$' then ip.text else [c]

def render (l : Listing) (ip : Ipv4) : Option Text := l.text.map (expand ip)

end Listing

/-- What a set holds for a range: a listing, or nothing for an exclusion. -/
abbrev Entry := Option Listing

/-- The entries in buckets by prefix length, and their number. -/
structure IpSet where
  buckets : Vector (Std.TreeMap (BitVec 32) Entry) 33
  size : Nat

namespace IpSet

def empty : IpSet := ⟨Vector.replicate 33 ∅, 0⟩

def bucket (s : IpSet) (r : Range) : Std.TreeMap (BitVec 32) Entry :=
  have h := r.length_lt
  s.buckets[r.length]

def get? (s : IpSet) (r : Range) : Option Entry := (s.bucket r)[r.network.bits]?

/-- Adds an entry, in place of the one that the same range had. -/
def insert (s : IpSet) (r : Range) (e : Entry) : IpSet where
  buckets := s.buckets.set r.length ((s.bucket r).insert r.network.bits e)
    r.length_lt
  size := if (s.get? r).isSome then s.size else s.size + 1

/-- The entry of the longest range around an address whose length is between 1 and `longest`. -/
def narrowest (s : IpSet) (ip : Ipv4) : Nat → Option Entry
  | 0 => none
  | n + 1 =>
    match s.get? (Range.around ip (n + 1)) with
    | some e => some e
    | none => narrowest s ip n

def lookup (s : IpSet) (ip : Ipv4) : Option Listing := (s.narrowest ip 32).join

@[simp] theorem get?_empty (r : Range) : empty.get? r = none := by
  simp [get?, bucket, empty]

theorem get?_insert (s : IpSet) (r r' : Range) (e : Entry) :
    (s.insert r e).get? r' = if r = r' then some e else s.get? r' := by
  unfold get? insert bucket
  simp only [Vector.getElem_set]
  by_cases hl : r.length = r'.length
  · simp only [hl, if_true, Std.TreeMap.getElem?_insert, Std.LawfulEqCmp.compare_eq_iff_eq]
    by_cases hn : r.network = r'.network
    · have : r = r' := by cases r; cases r'; simp_all
      simp [this]
    · have h1 : r ≠ r' := fun h => hn (congrArg Range.network h)
      have h2 : r.network.bits ≠ r'.network.bits := fun h => hn (Ipv4.ext h)
      simp [h1, h2]
  · have h1 : r ≠ r' := fun h => hl (congrArg Range.length h)
    simp [hl, h1]

theorem size_insert (s : IpSet) (r : Range) (e : Entry) :
    (s.insert r e).size = if (s.get? r).isSome then s.size else s.size + 1 := rfl

end IpSet

end DnsBlocklist
