import DnsBlocklist.CommandLine.Basic

/-! Reading the command line from left to right. The value of an option is looked at when the next
known option or a zone declaration follows it, or at the end. -/

namespace DnsBlocklist.CommandLine
set_option autoImplicit false

/-- What was read so far, and the last option with the value that follows it. -/
structure Progress where
  line : CommandLine
  pending : Option (ValueOption × Option Text)

/-- A number that may have a sign; only zero may be negative. -/
def readNumber? (high : Nat) : Text → Option Nat
  | '-' :: t => Decimal.readWithin? 0 0 t
  | t => Decimal.readPlusWithin? 0 high t

/-- Whether an option has been given. -/
def has (line : CommandLine) : ValueOption → Bool
  | .bind => line.listen.isSome
  | .ttl => line.ttl.isSome
  | .check => line.reloadInterval.isSome
  | .logFile => line.logFile.isSome
  | .logFilter => line.logFilter.isSome
  | .access => line.access.isSome
  | .config => line.config.isSome

/-- A value where there is one, and otherwise the reason to stop. -/
def orStop {α : Type} (why : Stop) : Option α → Except Stop α
  | some a => .ok a
  | none => .error why

/-- Gives an option its value. -/
def set (line : CommandLine) (o : ValueOption) (v : Text) : Except Stop CommandLine :=
  if line.has o then .error .givenTwice
  else match o with
    | .bind => do
      let a ← orStop .invalidValue (SocketAddress.readWithDefault? Config.domainPort v)
      return { line with listen := some a }
    | .ttl => do
      let n ← orStop .invalidValue (readNumber? 4294967295 v)
      return { line with ttl := some (UInt32.ofNat n) }
    | .check => do
      let n ← orStop .invalidValue (Decimal.readPlusWithin? 0 18446744073709551615 v)
      return { line with reloadInterval := some (UInt64.ofNat n) }
    | .logFile => .ok { line with logFile := some v }
    | .logFilter => .ok { line with logFilter := some v }
    | .access => .ok { line with access := some v }
    | .config => if v.isEmpty then .error .emptyPath else .ok { line with config := some v }

def raise (line : CommandLine) : Flag → Except Stop CommandLine
  | .acceptInCidr =>
    if line.acceptInCidr then .error .givenTwice else .ok { line with acceptInCidr := true }
  | .quickstart =>
    if line.quickstart then .error .givenTwice else .ok { line with quickstart := true }
  | .stats => if line.stats then .error .givenTwice else .ok { line with stats := true }
  | .verbose => .ok { line with verbosity := line.verbosity + 1 }
  | .help => .error .help
  | .version => .error .version

namespace Progress

def start : Progress := ⟨empty, none⟩

/-- Looks at the value of the last option. -/
def settle (p : Progress) : Except Stop CommandLine :=
  match p.pending with
  | none => .ok p.line
  | some (_, none) => .error .missingValue
  | some (o, some v) => p.line.set o v

/-- Goes on with an option that has its value attached, or else waits for it. -/
def option (p : Progress) (o : ValueOption) (attached : Option Text) : Except Stop Progress := do
  let line ← p.settle
  match attached with
  | some v => return ⟨← line.set o v, none⟩
  | none => return ⟨line, some (o, none)⟩

def flag (p : Progress) (f : Flag) : Except Stop Progress := do
  let line ← p.settle
  return ⟨← line.raise f, none⟩

/-- A word after two hyphens. -/
def long (p : Progress) (word : Text) : Except Stop Progress :=
  let (name, attached) := match Text.cut? (· == '=') word with
    | some (name, v) => (name, some v)
    | none => (word, none)
  match CommandOption.ofLong? name, attached with
  | none, _ => .error .unknownArgument
  | some (.value o), attached => p.option o attached
  | some (.flag _), some _ => .error .needlessValue
  | some (.flag f), none => p.flag f

/-- The letters after one hyphen. What follows a letter that takes a value is that value. -/
def short (p : Progress) : Text → Except Stop Progress
  | [] => .ok p
  | c :: cs =>
    match CommandOption.ofShort? c with
    | none => .error .unknownArgument
    | some (.flag f) =>
      match p.flag f with
      | .error why => .error why
      | .ok p => short p cs
    | some (.value o) =>
      match cs with
      | [] => p.option o none
      | '=' :: v => p.option o (some v)
      | v => p.option o (some v)

/-- A word that is no option: the value that the last option waits for, or a zone declaration. -/
def plain (p : Progress) (word : Text) : Except Stop Progress :=
  match p.pending with
  | some (o, none) => .ok { p with pending := some (o, some word) }
  | _ => do
    let line ← p.settle
    return ⟨{ line with zones := line.zones ++ [word] }, none⟩

/-- Reads words; two hyphens alone make all words after them zone declarations. -/
def words (p : Progress) : List Text → Except Stop CommandLine
  | [] => p.settle
  | ['-', '-'] :: rest => do
    let line ← p.settle
    return { line with zones := line.zones ++ rest }
  | ('-' :: '-' :: word) :: rest =>
    match p.long word with
    | .error why => .error why
    | .ok p => words p rest
  | ('-' :: c :: cs) :: rest =>
    match p.short (c :: cs) with
    | .error why => .error why
    | .ok p => words p rest
  | word :: rest =>
    match p.plain word with
    | .error why => .error why
    | .ok p => words p rest

end Progress

/-- Reads the words of a command line. The environment may name the settings file where they do
not. -/
def read (words : List Text) (environment : Option Text) : Except Stop CommandLine := do
  let line ← Progress.start.words words
  match line.config, environment with
  | none, some path => line.set .config path
  | _, _ => return line

end DnsBlocklist.CommandLine
