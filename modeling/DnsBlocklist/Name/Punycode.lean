import DnsBlocklist.Text.Basic

/-! Punycode, the ASCII form of internationalized labels. The text after the last hyphen codes the
places and the code points of the characters that are inserted into the text before it. -/

namespace DnsBlocklist.Name.Punycode
set_option autoImplicit false

def digit? (c : Char) : Option Nat :=
  if 'a' ≤ c && c ≤ 'z' then some (c.toNat - 97)
  else if 'A' ≤ c && c ≤ 'Z' then some (c.toNat - 65)
  else if '0' ≤ c && c ≤ '9' then some (c.toNat - 22)
  else none

/-- The digit value below which a number ends at digit position `k`. -/
def threshold (bias k : Nat) : Nat :=
  if k ≤ bias then 1 else if bias + 26 ≤ k then 26 else k - bias

/-- Reads one number of variable length off the front, least digit first. -/
def readNumber (bias : Nat) : Nat → Nat → Nat → Text → Option (Nat × Text)
  | _, _, _, [] => none
  | k, weight, sum, c :: cs =>
    match digit? c with
    | none => none
    | some d =>
      let t := threshold bias k
      if d < t then some (sum + d * weight, cs)
      else readNumber bias (k + 36) (weight * (36 - t)) (sum + d * weight) cs

theorem length_readNumber {bias k weight sum n : Nat} {t rest : Text}
    (h : readNumber bias k weight sum t = some (n, rest)) : rest.length < t.length := by
  induction t generalizing k weight sum with
  | nil => simp [readNumber] at h
  | cons c cs ih =>
    simp only [readNumber] at h
    split at h
    · simp at h
    · split at h
      · simp only [Option.some.injEq, Prod.mk.injEq] at h
        simp [h.2]
      · have := ih h
        simp only [List.length_cons]
        omega

def adaptFrom (k delta : Nat) : Nat :=
  if 455 < delta then adaptFrom (k + 36) (delta / 35) else k + 36 * delta / (delta + 38)
termination_by delta

/-- The bias after `delta` has brought the text to `length` characters. -/
def adapt (delta length : Nat) (first : Bool) : Nat :=
  let delta := if first then delta / 700 else delta / 2
  adaptFrom 0 (delta + delta / length)

/-- A code point that is a character. -/
def char? (n : Nat) : Option Char := if n.isValidChar then some (Char.ofNat n) else none

/-- Inserts the characters that `code` stands for. `place` is where the next one may go at the
earliest, `point` the code point of the last one. -/
def insertAll (point place bias : Nat) (first : Bool) (out : Text) (code : Text) : Option Text :=
  if code.isEmpty then some out
  else
    match _h : readNumber bias 36 1 0 code with
    | none => none
    | some (delta, rest) =>
      let count := out.length + 1
      let sum := place + delta
      let point := point + sum / count
      let place := sum % count
      match char? point with
      | none => none
      | some c =>
        insertAll point (place + 1) (adapt delta count first) false
          (out.take place ++ c :: out.drop place) rest
termination_by code.length
decreasing_by exact length_readNumber _h

/-- A hyphen in front is no separator, and as it is no digit either, it spoils the text. -/
def decode? (t : Text) : Option Text :=
  match t.reverse.findIdx? (· == '-') with
  | none => insertAll 128 0 72 true [] t
  | some i =>
    if i + 1 = t.length then none
    else insertAll 128 0 72 true (t.take (t.length - 1 - i)) (t.drop (t.length - i))

/-! Writing. The inserted characters are coded in the order of their code points. -/

def digit (n : Nat) : Char := if n < 26 then Char.ofNat (97 + n) else Char.ofNat (22 + n)

/-- Zero ends every number, so that the writing of one comes to an end. -/
theorem one_le_threshold (bias k : Nat) : 1 ≤ threshold bias k := by
  unfold threshold
  split
  · omega
  · split <;> omega

/-- Writes one number of variable length, least digit first. -/
def writeNumber (bias k n : Nat) : Text :=
  let t := threshold bias k
  if n < t then [digit n]
  else digit (t + (n - t) % (36 - t)) :: writeNumber bias (k + 36) ((n - t) / (36 - t))
termination_by n
decreasing_by
  have h := one_le_threshold bias k
  have := Nat.div_le_self (n - threshold bias k) (36 - threshold bias k)
  omega

structure Encoder where
  out : Text
  delta : Nat
  bias : Nat
  handled : Nat
  first : Bool

namespace Encoder

/-- Passes one character of the text while those with code point `n` are inserted. -/
def pass (n : Nat) (e : Encoder) (c : Char) : Encoder :=
  if c.toNat < n then { e with delta := e.delta + 1 }
  else if c.toNat = n then
    ⟨e.out ++ writeNumber e.bias 36 e.delta, 0, adapt e.delta (e.handled + 1) e.first,
      e.handled + 1, false⟩
  else e

/-- Inserts the characters with the given code points, in ascending order. `next` is the lowest
code point that can come next. -/
def insertPoints (t : Text) (next : Nat) (e : Encoder) : List Nat → Encoder
  | [] => e
  | n :: ns =>
    let e := t.foldl (pass n) { e with delta := e.delta + (n - next) * (e.handled + 1) }
    insertPoints t (n + 1) { e with delta := e.delta + 1 } ns

end Encoder

/-- Adds a number to an ascending list that does not hold it. -/
def insertDistinct (n : Nat) : List Nat → List Nat
  | [] => [n]
  | m :: ms =>
    if n < m then n :: m :: ms else if n = m then m :: ms else m :: insertDistinct n ms

/-- The code points outside ASCII that a text holds, in ascending order. -/
def points (t : Text) : List Nat :=
  ((t.map Char.toNat).filter (128 ≤ ·)).foldr insertDistinct []

def encode (t : Text) : Text :=
  let base := t.filter (·.toNat < 128)
  let start := if base.isEmpty then [] else base ++ ['-']
  (Encoder.insertPoints t 128 ⟨start, 0, 72, base.length, true⟩ (points t)).out

end DnsBlocklist.Name.Punycode
