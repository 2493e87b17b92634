import DnsBlocklist.IpSet.Basic

/-! Lines of a dataset file. A line that starts with a colon sets the default listing, any other one
is a range that may be followed by what to answer, and a range after an exclamation mark is
excluded. -/

namespace DnsBlocklist.IpSet
set_option autoImplicit false

/-- Why a line is skipped. -/
inductive Problem where
  | defaultValue
  | range (written : Text)
  | value
deriving DecidableEq

namespace Problem

def message : Problem → Text
  | defaultValue => "invalid default value line".toList
  | range _ => "invalid ip4set entry".toList
  | value => "invalid entry value".toList

end Problem

inductive Line where
  | ignored
  | initial (l : Listing)
  | entry (r : Range) (e : Entry)
  | skipped (p : Problem)
deriving DecidableEq

/-- An address, or the last octet of one in 127.0.0.0/24. -/
def readAnswer? (t : Text) : Option Ipv4 :=
  match Ipv4.read? t with
  | some ip => some ip
  | none => (Decimal.readPlusWithin? 0 255 t).map fun n => Ipv4.ofOctets 127 0 0 (UInt8.ofNat n)

/-- What is written after a first colon: an address, and a text after a second one. What is left out
is taken from `base`, but an empty text is no text. -/
def readListing? (base : Listing) (t : Text) : Option Listing :=
  let (answer, text) := match Text.cut? (· == ':') t with
    | some (answer, text) => (answer, if (Text.trim text).isEmpty then none else some (Text.trim text))
    | none => (t, base.text)
  if (Text.trim answer).isEmpty then some ⟨base.address, text⟩
  else (readAnswer? (Text.trim answer)).map (⟨·, text⟩)

/-- The listing that follows a range on its line: written in full, or as a text alone. -/
def readValue? (base : Listing) : Text → Option Listing
  | [] => some base
  | ':' :: t => readListing? base t
  | t => some ⟨base.address, some t⟩

namespace Line

def isComment (t : Text) : Bool :=
  match t with
  | [] => true
  | c :: _ => c == '#' || c == ';'

/-- The first word of a line and the trimmed rest. -/
def cutWord (t : Text) : Text × Text :=
  match Text.cut? Text.isBlank t with
  | some (word, rest) => (word, Text.trim rest)
  | none => (t, [])

def readListed (hostBits : HostBits) (base : Listing) (word rest : Text) : Line :=
  match Range.read? hostBits word with
  | none => skipped (.range word)
  | some r =>
    match readValue? base rest with
    | none => skipped .value
    | some l => entry r (some l)

def readExcluded (hostBits : HostBits) (word : Text) : Line :=
  match Range.read? hostBits word with
  | none => skipped (.range word)
  | some r => entry r none

/-- Reads a line where `base` is the default listing. -/
def read (hostBits : HostBits) (base : Listing) (raw : Text) : Line :=
  let t := Text.trim raw
  if isComment t then ignored
  else match t with
    | ':' :: rest =>
      match readListing? base rest with
      | some l => initial l
      | none => skipped .defaultValue
    | _ =>
      let (word, rest) := cutWord t
      match word with
      | '!' :: word => readExcluded hostBits word
      | _ => readListed hostBits base word rest

end Line

end DnsBlocklist.IpSet
