import DnsBlocklist.Name.Basic

/-! Names in wire form: every label after its length, and a zero byte at the end. In place of its
remaining labels a name may point to an earlier place in the message. -/

namespace DnsBlocklist.Name
set_option autoImplicit false

def encodeLabel (l : Label) : Bytes := UInt8.ofNat l.bytes.length :: l.bytes

def encode (n : Name) : Bytes := n.labels.flatMap encodeLabel ++ [0]

/-- Reads the labels that follow `name`, up to the end of the name. `start` is where this run of
labels starts in the message, and the next label must start within the next `room` bytes. A pointer
leads to a run of labels that starts before `start` and has to end there. -/
def readLabels (message : Bytes) (start room : Nat) (name : Name) : Bytes → Option (Name × Bytes)
  | [] => none
  | b :: rest =>
    if room = 0 then none
    else if b = 0 then some (name, rest)
    else if b < 64 then
      if rest.length < b.toNat then none
      else match Label.ofBytes? (rest.take b.toNat) with
        | none => none
        | some l =>
          match name.push? l with
          | none => none
          | some name => readLabels message start (room - (b.toNat + 1)) name (rest.drop b.toNat)
    else if b < 192 then none
    else match rest with
      | [] => none
      | c :: rest =>
        let target := (b.toNat - 192) * 256 + c.toNat
        if target < start then
          match readLabels message target (start - target) name (message.drop target) with
          | none => none
          | some (name, _) => some (name, rest)
        else none
termination_by rest => (start, rest.length)
decreasing_by
  · apply Prod.Lex.right
    simp only [List.length_drop, List.length_cons]
    omega
  · apply Prod.Lex.left
    assumption

/-- Reads a name off the front of what is left of a message. -/
def readWire (message rest : Bytes) : Option (Name × Bytes) :=
  readLabels message (message.length - rest.length) (rest.length + 1) root rest

theorem encode_length (n : Name) : n.encode.length = encodedLength n.labels := by
  have h : ∀ labels : List Label,
      (labels.flatMap encodeLabel ++ [0]).length = encodedLength labels := by
    intro labels
    induction labels with
    | nil => rfl
    | cons l ls ih =>
      rw [encodedLength, ← ih]
      simp only [List.flatMap_cons, encodeLabel, List.length_append, List.length_cons]
      omega
  exact h n.labels

end DnsBlocklist.Name
