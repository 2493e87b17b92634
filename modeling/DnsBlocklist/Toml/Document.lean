import DnsBlocklist.Toml.Quoted

/-! TOML documents. A document is lines that give a key a value, and headers that tell which table
the following keys go to. -/

namespace DnsBlocklist.Toml
set_option autoImplicit false

/-- Skips spaces, line breaks and comments; the flag tells whether a comment is being skipped. -/
def skipBlank (comment : Bool) : Text → Text
  | [] => []
  | '\r' :: '\n' :: t => skipBlank false t
  | c :: t =>
    if c == '\n' then skipBlank false t
    else if comment then if isLineCharacter c then skipBlank true t else c :: t
    else if isSpace c then skipBlank false t
    else if c == '#' then skipBlank true t
    else c :: t

/-- The text after the end of a line that may have a comment. -/
def endLine? (t : Text) : Option Text :=
  let t := match t.dropWhile isSpace with
    | '#' :: t => t.dropWhile isLineCharacter
    | t => t
  if t.isEmpty then some [] else afterBreak? t

def isBareKey (c : Char) : Bool := c.isAlphanum || c == '-' || c == '_'

/-- One part of a key: bare, or quoted on one line. -/
def readKeyPart (t : Text) : Option (Text × Text) :=
  match t with
  | '"' :: t => readBasic t
  | '\'' :: t => readLiteral t
  | t =>
    let key := t.takeWhile isBareKey
    if key.isEmpty then none else some (key, t.drop key.length)

/-- Keys have fewer parts than this, and values are nested less deep. -/
def deepest : Nat := 80

/-- The parts of a key, with dots between them. -/
def readKey : Nat → Text → Option (List Text × Text)
  | 0, _ => none
  | room + 1, t => do
    let (part, t) ← readKeyPart (t.dropWhile isSpace)
    match t.dropWhile isSpace with
    | '.' :: t =>
      let (parts, t) ← readKey room t
      return (part :: parts, t)
    | t => return ([part], t)

/-- A key, as the parts before its last one and that one. -/
def readSplitKey (t : Text) : Option (List Text × Text × Text) := do
  let (parts, t) ← readKey (deepest - 1) t
  let last ← parts.getLast?
  return (parts.dropLast, last, t)

/-- A key, an equals sign and a value. -/
def readPair (value : Text → Option (Value × Text)) (t : Text) :
    Option ((List Text × Text × Value) × Text) := do
  let (path, key, t) ← readSplitKey t
  match t with
  | '=' :: t =>
    let (v, t) ← value (t.dropWhile isSpace)
    return ((path, key, v), t)
  | _ => none

/-- The values of an array up to its closing bracket; a comma may follow the last one. There are at
most `room` of them. -/
def readElements (value : Text → Option (Value × Text)) : Nat → Text → Option (List Value × Text)
  | 0, _ => none
  | room + 1, t =>
    match skipBlank false t with
    | ']' :: t => some ([], t)
    | t => do
      let (v, t) ← value t
      match skipBlank false t with
      | ',' :: t =>
        let (vs, t) ← readElements value room t
        return (v :: vs, t)
      | ']' :: t => return ([v], t)
      | _ => none

/-- The pairs of a table between braces, each one after a comma but the first. -/
def readPairs (value : Text → Option (Value × Text)) : Nat → Entries → Text → Option (Entries × Text)
  | 0, _, _ => none
  | room + 1, es, t => do
    let ((path, key, v), t) ← readPair value t
    let es ← es.assign path key v
    match t.dropWhile isSpace with
    | ',' :: t => readPairs value room es t
    | '}' :: t => return (es, t)
    | _ => none

/-- Reads a value that holds at most `depth` levels of arrays and tables. -/
def readValue (depth : Nat) (t : Text) : Option (Value × Text) :=
  match depth, t with
  | depth + 1, '[' :: t => (readElements (readValue depth) (t.length + 1) t).map fun (vs, t) =>
    (.array vs, t)
  | depth + 1, '{' :: t =>
    match t.dropWhile isSpace with
    | '}' :: t => some (.table .closed [], t)
    | t => (readPairs (readValue depth) (t.length + 1) [] t).map fun (es, t) =>
      (.table .closed es, t)
  | _, t =>
    match readQuoted t with
    | some (s, rest) => some (.string s, rest)
    | none => readScalar t

/-- The table that a header asks for. -/
inductive Header where
  | document
  | table (path : List Text) (key : Text)
  | element (path : List Text) (key : Text)

/-- A document read in part: the tables that are complete, and the one that is being filled. -/
structure Document where
  complete : Entries
  header : Header
  current : Entries

namespace Document

def start : Document := ⟨[], .document, []⟩

/-- Puts a filled table where its header says. -/
def place (current : Entries) (key : Text) (isElement : Bool) (_ : TableKind) (es : Entries) :
    Option (Entries × Unit) :=
  if isElement then
    match es.get? key with
    | none => some (es.set key (.tables [current]), ())
    | some (.tables elements) => some (es.set key (.tables (elements ++ [current])), ())
    | some _ => none
  else some (es.set key (.table .stated current), ())

/-- The document with its last table in place. -/
def finish (d : Document) : Option Entries :=
  match d.header with
  | .document => some d.current
  | .table path key => (Entries.descend false (place d.current key false) path .stated d.complete).map
    (·.1)
  | .element path key => (Entries.descend false (place d.current key true) path .stated
    d.complete).map (·.1)

/-- What a table already holds when its header is read: a table has one header at most, and only
what longer headers needed may be there before it. -/
def opening (key : Text) (isElement : Bool) (_ : TableKind) (es : Entries) :
    Option (Entries × Entries) :=
  match es.get? key, isElement with
  | none, _ => some (es, [])
  | some (.tables _), true => some (es, [])
  | some (.table .implicit inner), false => some (es, inner)
  | _, _ => none

/-- Goes on with the table of a header. -/
def openTable (d : Document) (path : List Text) (key : Text) (isElement : Bool) :
    Option Document := do
  let complete ← d.finish
  let (complete, current) ← Entries.descend false (opening key isElement) path .stated complete
  return ⟨complete, if isElement then .element path key else .table path key, current⟩

/-- Reads one line with a header. -/
def readHeader (d : Document) (t : Text) : Option (Document × Text) :=
  match t with
  | '[' :: '[' :: t => do
    let (path, key, t) ← readSplitKey t
    match t with
    | ']' :: ']' :: t => return (← d.openTable path key true, ← endLine? t)
    | _ => none
  | '[' :: t => do
    let (path, key, t) ← readSplitKey t
    match t with
    | ']' :: t => return (← d.openTable path key false, ← endLine? t)
    | _ => none
  | _ => none

/-- Reads one line with a key. -/
def readAssignment (d : Document) (t : Text) : Option (Document × Text) := do
  let ((path, key, v), t) ← readPair (readValue (deepest - 1)) t
  let current ← d.current.assign path key v
  return ({ d with current }, ← endLine? t)

/-- Reads at most `room` lines. -/
def readLines : Nat → Document → Text → Option Entries
  | 0, _, _ => none
  | room + 1, d, t =>
    match t.dropWhile isSpace with
    | [] => d.finish
    | '[' :: t => (d.readHeader ('[' :: t)).bind fun (d, t) => readLines room d t
    | c :: t =>
      if c == '#' || c == '\n' || c == '\r' then
        (endLine? (c :: t)).bind fun t => readLines room d t
      else (d.readAssignment (c :: t)).bind fun (d, t) => readLines room d t

/-- The entries of a whole document. A byte order mark in front is skipped. -/
def read (t : Text) : Option Entries :=
  let t := if t.head? == some (Char.ofNat 0xFEFF) then t.tail else t
  readLines (t.length + 1) start t

end Document

end DnsBlocklist.Toml
