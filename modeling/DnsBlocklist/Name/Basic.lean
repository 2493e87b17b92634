import DnsBlocklist.Text.Basic

/-! Domain names: labels of one to 63 bytes, at most 255 bytes in wire form. Names are compared
without regard to ASCII case. -/

namespace DnsBlocklist
set_option autoImplicit false

structure Label where
  bytes : Bytes
  nonempty : bytes ≠ []
  short : bytes.length ≤ 63
deriving DecidableEq

namespace Label

/-- The ASCII capitals become small letters, every other byte stays. -/
def lowerByte (b : UInt8) : UInt8 := if 65 ≤ b && b ≤ 90 then b + 32 else b

def lower (l : Label) : Label where
  bytes := l.bytes.map lowerByte
  nonempty := by simpa using l.nonempty
  short := by simpa using l.short

def ofBytes? (bytes : Bytes) : Option Label :=
  if h : bytes ≠ [] ∧ bytes.length ≤ 63 then some ⟨bytes, h.1, h.2⟩ else none

theorem lowerByte_lowerByte (b : UInt8) : lowerByte (lowerByte b) = lowerByte b := by
  unfold lowerByte
  split
  · rename_i h
    simp only [Bool.and_eq_true, decide_eq_true_eq, UInt8.le_iff_toNat_le, UInt8.toNat_ofNat] at h
    have h1 : (b + 32).toNat = b.toNat + 32 := by
      rw [UInt8.toNat_add]
      simp only [UInt8.toNat_ofNat]
      omega
    simp only [Bool.and_eq_true, decide_eq_true_eq, UInt8.le_iff_toNat_le, UInt8.toNat_ofNat, h1]
    rw [if_neg (by omega)]
  · rfl

@[simp] theorem lower_lower (l : Label) : l.lower.lower = l.lower := by
  simp [lower, lowerByte_lowerByte]

@[simp] theorem length_lower (l : Label) : l.lower.bytes.length = l.bytes.length := by
  simp [lower]

end Label

/-- The bytes that labels take in wire form: one length byte each, and the zero byte at the end. -/
def encodedLength : List Label → Nat
  | [] => 1
  | l :: ls => l.bytes.length + 1 + encodedLength ls

theorem encodedLength_map_lower (labels : List Label) :
    encodedLength (labels.map Label.lower) = encodedLength labels := by
  induction labels with
  | nil => rfl
  | cons l ls ih => simp [encodedLength, ih]

/-- A name; `rooted` tells whether it was given with its final dot. -/
structure Name where
  labels : List Label
  rooted : Bool
  fits : encodedLength labels ≤ 255
deriving DecidableEq

namespace Name

def empty : Name := ⟨[], false, by decide⟩

def root : Name := ⟨[], true, by decide⟩

def withRoot (n : Name) (rooted : Bool) : Name := { n with rooted }

def lower (n : Name) : Name :=
  ⟨n.labels.map Label.lower, n.rooted, (encodedLength_map_lower n.labels).symm ▸ n.fits⟩

/-- The name with one more label at its end, if that still fits. -/
def push? (n : Name) (l : Label) : Option Name :=
  if h : encodedLength (n.labels ++ [l]) ≤ 255 then some ⟨n.labels ++ [l], n.rooted, h⟩ else none

def isWildcard (l : Label) : Bool := l.bytes == [42]

/-- The number of labels, a leading `*` left out. -/
def depth (n : Name) : Nat :=
  match n.labels with
  | [] => 0
  | l :: ls => if isWildcard l then ls.length else ls.length + 1

/-- Whether the labels of `origin` end those of `n`, in any letter case. -/
def isUnder (n origin : Name) : Bool :=
  (origin.labels.map Label.lower).isSuffixOf (n.labels.map Label.lower)

theorem isUnder_iff (n origin : Name) :
    n.isUnder origin = true ↔ origin.labels.map Label.lower <:+ n.labels.map Label.lower :=
  List.isSuffixOf_iff_suffix

@[simp] theorem lower_lower (n : Name) : n.lower.lower = n.lower := by
  simp [lower, Function.comp_def]

@[simp] theorem rooted_lower (n : Name) : n.lower.rooted = n.rooted := rfl

end Name

end DnsBlocklist
