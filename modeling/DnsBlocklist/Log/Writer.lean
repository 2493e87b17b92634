import DnsBlocklist.Files

/-! Writing to a file through a buffer. Bytes stay in the buffer until it is full or flushed, and
what could not be written stays in it. -/

namespace DnsBlocklist
set_option autoImplicit false

/-- Why bytes could not be written. A file that takes none of them stalls a flush, or a write that goes
past the buffer. -/
inductive WriteFault where
  | os (e : OsError)
  | stalledFlush
  | stalledWrite
deriving DecidableEq

namespace WriteFault

def message : WriteFault → Text
  | os e => e.message
  | stalledFlush => "failed to write the buffered data".toList
  | stalledWrite => "failed to write whole buffer".toList

end WriteFault

/-- An open file and the bytes on their way to it. -/
structure Writer (H : Type) where
  handle : H
  pending : Bytes

namespace Writer

/-- The bytes that the buffer holds at most. -/
def capacity : Nat := 8192

variable {m : Type → Type} [Monad m] {H : Type}

/-- Writes bytes until none are left or writing fails, with the fault given where the file takes none of
them; what is left comes back. -/
def writeOut (files : AppendFiles m H) (handle : H) (stalled : WriteFault) (bytes : Bytes) :
    m (Bytes × Option WriteFault) :=
  match bytes with
  | [] => pure ([], none)
  | b :: rest => do
    match ← files.append handle (b :: rest) with
    | .error e => pure (b :: rest, some (.os e))
    | .ok 0 => pure (b :: rest, some stalled)
    | .ok (taken + 1) => writeOut files handle stalled (rest.drop taken)
termination_by bytes.length
decreasing_by
  simp only [List.length_drop, List.length_cons]
  omega

def flush (files : AppendFiles m H) (w : Writer H) : m (Writer H × Option WriteFault) := do
  let (left, fault) ← writeOut files w.handle .stalledFlush w.pending
  return ({ w with pending := left }, fault)

/-- Bytes that do not fit are preceded by a flush, and bytes that would fill the buffer alone go
past it. -/
def put (files : AppendFiles m H) (w : Writer H) (bytes : Bytes) :
    m (Writer H × Option WriteFault) := do
  if w.pending.length + bytes.length ≤ capacity ∧ bytes.length < capacity then
    return ({ w with pending := w.pending ++ bytes }, none)
  else
    let (w, fault) ←
      if w.pending.length + bytes.length ≤ capacity then pure (w, none) else w.flush files
    if fault.isSome then return (w, fault)
    else if bytes.length < capacity then return ({ w with pending := w.pending ++ bytes }, none)
    else
      let (_, fault) ← writeOut files w.handle .stalledWrite bytes
      return (w, fault)

/-- Puts one piece after the other, up to the first one that fails. -/
def putAll (files : AppendFiles m H) (w : Writer H) : List Bytes → m (Writer H × Option WriteFault)
  | [] => pure (w, none)
  | piece :: pieces => do
    let (w, fault) ← w.put files piece
    if fault.isSome then return (w, fault) else putAll files w pieces

end Writer

end DnsBlocklist
