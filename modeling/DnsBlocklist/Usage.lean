import DnsBlocklist.Text.Decimal

/-! Reports of time and memory used. -/

namespace DnsBlocklist
set_option autoImplicit false

structure Duration where
  seconds : Nat
  nanoseconds : Nat
deriving DecidableEq

namespace Duration

/-- Seconds with two places; what is beyond them is cut off. -/
def text (d : Duration) : Text :=
  let hundredths := d.nanoseconds / 10000000
  Decimal.write d.seconds ++ '.' :: Decimal.write (hundredths / 10) ++
    Decimal.write (hundredths % 10)

end Duration

/-- Time spent on something: by the clock, and by the processor where that is known. -/
structure Elapsed where
  wall : Duration
  processor : Option Duration
deriving DecidableEq

namespace Elapsed

def text (e : Elapsed) : Text :=
  e.wall.text ++ 'e' :: match e.processor with
    | none => []
    | some d => '/' :: d.text ++ ['u']

def reportLine (e : Elapsed) : Text := "zones (re)loaded: ".toList ++ e.text ++ " sec".toList

end Elapsed

/-- Memory in bytes. -/
structure MemoryUsage where
  resident : Nat
  virtual : Nat
deriving DecidableEq

namespace MemoryUsage

def text (m : MemoryUsage) : Text :=
  "memory usage: rss=".toList ++ Decimal.write (m.resident / 1024) ++ "KiB virt=".toList ++
    Decimal.write (m.virtual / 1024) ++ "KiB".toList

end MemoryUsage

end DnsBlocklist
