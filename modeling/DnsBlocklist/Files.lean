import DnsBlocklist.Failure

/-! What the server asks of the file system. The operations run in any monad, so the same code
serves real files and files held in memory. -/

namespace DnsBlocklist
set_option autoImplicit false

/-- Why no system can be asked about a path: it holds a zero byte, or is too long. -/
def Path.fault? (p : Path) : Option OsError :=
  if p.contains (Char.ofNat 0) then some .zeroByteInName
  else if 4096 ≤ (Utf8.encode p).length then some .nameTooLong
  else none

/-- When a file was last changed, in nanoseconds since 1970, and its length in bytes. -/
structure FileState where
  modified : Int
  length : Nat
deriving DecidableEq

structure DataFiles (m : Type → Type) where
  state : Path → m (Except OsError FileState)
  read : Path → m (Except OsError Bytes)

/-- Files that are only ever appended to. Opening creates a file where there is none, and appending
tells how many of the bytes were taken. -/
structure AppendFiles (m : Type → Type) (H : Type) where
  openFile : Path → m (Except OsError H)
  append : H → Bytes → m (Except OsError Nat)

end DnsBlocklist
