import DnsBlocklist.Message.Data

/-! Reading messages. A message is read completely or not at all, and bytes after it are ignored. -/

namespace DnsBlocklist
set_option autoImplicit false

namespace Question

def read (message rest : Bytes) : Option (Question × Bytes) := do
  let (name, rest) ← Name.readWire message rest
  let (type, rest) ← Word.read16 rest
  let (recordClass, rest) ← Word.read16 rest
  return (⟨name, type, recordClass⟩, rest)

end Question

namespace Record

def read (message rest : Bytes) : Option (Record × Bytes) := do
  let (owner, rest) ← Name.readWire message rest
  let (type, rest) ← Word.read16 rest
  if type = RecordType.opt ∧ owner ≠ Name.root then none
  let (recordClass, rest) ← Word.read16 rest
  let (ttl, rest) ← Word.read32 rest
  let (length, rest) ← Word.read16 rest
  if rest.length < length.toNat then none
  let data ←
    RecordData.read type message (message.length - rest.length) (rest.take length.toNat)
  return (⟨owner, type, recordClass, ttl, data⟩, rest.drop length.toNat)

end Record

namespace Message

/-- Reads `count` things of one kind. -/
def readMany {α : Type} (one : Bytes → Option (α × Bytes)) : Nat → Bytes → Option (List α × Bytes)
  | 0, rest => some ([], rest)
  | count + 1, rest => do
    let (x, rest) ← one rest
    let (xs, rest) ← readMany one count rest
    return (x :: xs, rest)

/-- The message may have one extension record at most in its additional section. -/
def hasOneExtension (additional : List Record) : Bool :=
  additional.countP (·.type == RecordType.opt) ≤ 1

def read (message : Bytes) : Option Message := do
  let (header, rest) ← Header.read message
  let (questionCount, rest) ← Word.read16 rest
  let (answerCount, rest) ← Word.read16 rest
  let (authorityCount, rest) ← Word.read16 rest
  let (additionalCount, rest) ← Word.read16 rest
  let (questions, rest) ← readMany (Question.read message) questionCount.toNat rest
  let (answers, rest) ← readMany (Record.read message) answerCount.toNat rest
  let (authority, rest) ← readMany (Record.read message) authorityCount.toNat rest
  let (additional, _) ← readMany (Record.read message) additionalCount.toNat rest
  if hasOneExtension additional then some ⟨header, questions, answers, authority, additional⟩
  else none

end Message

end DnsBlocklist
