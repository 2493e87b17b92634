import DnsBlocklist.Toml.Scalar

/-! Quoted texts: basic ones with escapes, literal ones without, each on one line or, between three
quotes, on several. -/

namespace DnsBlocklist.Toml
set_option autoImplicit false

def isWideCharacter (c : Char) : Bool := 0x80 ≤ c.toNat

/-- The characters of a comment or of a line of quoted text. -/
def isLineCharacter (c : Char) : Bool :=
  c == '\t' || (0x20 ≤ c.toNat && c.toNat ≤ 0x7E) || isWideCharacter c

def isSpace (c : Char) : Bool := c == ' ' || c == '\t'

/-- The text after a line break. -/
def afterBreak? : Text → Option Text
  | '\n' :: t => some t
  | '\r' :: '\n' :: t => some t
  | _ => none

/-- Skips spaces and line breaks. -/
def skipBreaks : Text → Text
  | [] => []
  | c :: t =>
    if isSpace c || c == '\n' then skipBreaks t
    else if c == '\r' then match t with
      | '\n' :: t => skipBreaks t
      | t => c :: t
    else c :: t

/-- The character with a hexadecimal number. -/
def numbered? (digits : Text) : Option Char :=
  let n := valueIn 16 digits
  if digits.all isHexDigit && n.isValidChar then some (Char.ofNat n) else none

/-- The character of a short escape. -/
def escaped? (c : Char) : Option Char :=
  if c == '"' || c == '\\' then some c
  else if c == 'b' then some '\x08'
  else if c == 't' then some '\t'
  else if c == 'n' then some '\n'
  else if c == 'f' then some '\x0c'
  else if c == 'r' then some '\r'
  else none

/-- The hexadecimal digits that an escape has after its first character. -/
def escapeWidth (e : Char) : Nat := if e == 'u' then 4 else if e == 'U' then 8 else 0

/-- Reads what follows the backslash of an escape. -/
def readEscape : Text → Option (Char × Text)
  | [] => none
  | e :: t =>
    if escapeWidth e = 0 then (escaped? e).map (·, t)
    else if t.length < escapeWidth e then none
    else (numbered? (t.take (escapeWidth e))).map (·, t.drop (escapeWidth e))

theorem length_readEscape {t rest : Text} {c : Char} (h : readEscape t = some (c, rest)) :
    rest.length < t.length := by
  cases t with
  | nil => simp [readEscape] at h
  | cons e t =>
    simp only [readEscape] at h
    split at h
    · obtain ⟨_, _, heq⟩ := Option.map_eq_some_iff.mp h
      simp only [Prod.mk.injEq] at heq
      simp [← heq.2]
    · split at h
      · simp at h
      · obtain ⟨_, _, heq⟩ := Option.map_eq_some_iff.mp h
        simp only [Prod.mk.injEq] at heq
        rw [← heq.2, List.length_drop, List.length_cons]
        omega

theorem length_skipBreaks (t : Text) : (skipBreaks t).length ≤ t.length := by
  fun_induction skipBreaks t <;> simp_all <;> omega

theorem length_afterBreak? {t rest : Text} (h : afterBreak? t = some rest) :
    rest.length < t.length := by
  unfold afterBreak? at h
  split at h
  all_goals grind

/-- The rest of a basic text on one line. -/
def readBasic (t : Text) : Option (Text × Text) :=
  match t with
  | [] => none
  | '"' :: t => some ([], t)
  | '\\' :: t =>
    match _h : readEscape t with
    | none => none
    | some (c, rest) => (readBasic rest).map fun (s, rest) => (c :: s, rest)
  | c :: t =>
    if isLineCharacter c then (readBasic t).map fun (s, rest) => (c :: s, rest) else none
termination_by t.length
decreasing_by
  · have := length_readEscape _h
    simp only [List.length_cons]
    omega
  · simp

/-- The rest of a literal text on one line. -/
def readLiteral : Text → Option (Text × Text)
  | [] => none
  | c :: t =>
    if c == '\'' then some ([], t)
    else if isLineCharacter c then (readLiteral t).map fun (s, rest) => (c :: s, rest)
    else none

/-- The quotes after the first three that end a text on several lines; up to two of them belong to
the text. -/
def closing (quote : Char) : Text → Text × Text
  | a :: b :: t =>
    if a == quote && b == quote then ([a, b], t)
    else if a == quote then ([a], b :: t)
    else ([], a :: b :: t)
  | [a] => if a == quote then ([a], []) else ([], [a])
  | [] => ([], [])

/-- The rest of a basic text on several lines. A backslash at the end of a line takes away the line
break and the blanks after it. -/
def readLongBasic (t : Text) : Option (Text × Text) :=
  match t with
  | [] => none
  | '"' :: '"' :: '"' :: t => some (closing '"' t)
  | '\\' :: t =>
    match _h : afterBreak? (t.dropWhile isSpace) with
    | some rest => readLongBasic (skipBreaks rest)
    | none =>
      match _h : readEscape t with
      | none => none
      | some (c, rest) => (readLongBasic rest).map fun (s, rest) => (c :: s, rest)
  | '\r' :: '\n' :: t => (readLongBasic t).map fun (s, rest) => ('\n' :: s, rest)
  | c :: t =>
    if isLineCharacter c || c == '\n' then
      (readLongBasic t).map fun (s, rest) => (c :: s, rest)
    else none
termination_by t.length
decreasing_by
  · have h1 := length_afterBreak? _h
    have h2 := length_skipBreaks rest
    have h3 := (List.dropWhile_suffix isSpace (l := t)).length_le
    simp only [List.length_cons]
    omega
  · have := length_readEscape _h
    simp only [List.length_cons]
    omega
  · simp only [List.length_cons]
    omega
  · simp

/-- The rest of a literal text on several lines. -/
def readLongLiteral : Text → Option (Text × Text)
  | '\'' :: '\'' :: '\'' :: t => some (closing '\'' t)
  | '\r' :: '\n' :: t => (readLongLiteral t).map fun (s, rest) => ('\n' :: s, rest)
  | c :: t =>
    if isLineCharacter c || c == '\n' then
      (readLongLiteral t).map fun (s, rest) => (c :: s, rest)
    else none
  | [] => none

/-- Leaves out a line break right after the opening quotes. -/
def dropBreak (t : Text) : Text := (afterBreak? t).getD t

/-- Reads a quoted text of any kind. -/
def readQuoted : Text → Option (Text × Text)
  | '"' :: '"' :: '"' :: t => readLongBasic (dropBreak t)
  | '"' :: t => readBasic t
  | '\'' :: '\'' :: '\'' :: t => readLongLiteral (dropBreak t)
  | '\'' :: t => readLiteral t
  | _ => none

end DnsBlocklist.Toml
