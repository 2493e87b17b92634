import DnsBlocklist.Address.Ipv6

/-! Host addresses of either family, and addresses with a port. -/

namespace DnsBlocklist
set_option autoImplicit false

inductive IpAddress where
  | v4 (ip : Ipv4)
  | v6 (ip : Ipv6)
deriving DecidableEq

namespace IpAddress

def pieces : IpAddress → List Text
  | v4 ip => ip.pieces
  | v6 ip => ip.pieces

def text (ip : IpAddress) : Text := ip.pieces.flatten

def read? (t : Text) : Option IpAddress :=
  (Ipv4.read? t).map v4 <|> (Ipv6.read? t).map v6

end IpAddress

/-- An address to listen on. `scope` is the zone of an IPv6 address, 0 where none is given. -/
structure SocketAddress where
  ip : IpAddress
  port : UInt16
  scope : UInt32
deriving DecidableEq

namespace SocketAddress

def text (a : SocketAddress) : Text :=
  let port := ':' :: Decimal.write a.port.toNat
  match a.ip with
  | .v4 ip => ip.text ++ port
  | .v6 ip =>
    let scope := if a.scope == 0 then [] else '%' :: Decimal.write a.scope.toNat
    '[' :: ip.text ++ scope ++ ']' :: port

/-- Reads a number of at most `high` off the front of a text. -/
def readNumber (high : Nat) (t : Text) : Option (Nat × Text) :=
  let digits := t.takeWhile Char.isDigit
  (Decimal.readWithin? 0 high digits).map fun n => (n, t.drop digits.length)

/-- The port that ends an address. -/
def readPort : Text → Option UInt16
  | ':' :: t =>
    match readNumber 65535 t with
    | some (n, []) => some (UInt16.ofNat n)
    | _ => none
  | _ => none

/-- The scope of an IPv6 address, 0 where none can be read. -/
def readScope : Text → UInt32 × Text
  | '%' :: t =>
    match readNumber 4294967295 t with
    | some (n, rest) => (UInt32.ofNat n, rest)
    | none => (0, '%' :: t)
  | t => (0, t)

def readV4? (t : Text) : Option SocketAddress := do
  let (ip, t) ← Ipv4.readFrom t
  let port ← readPort t
  return ⟨.v4 ip, port, 0⟩

def readV6? : Text → Option SocketAddress
  | '[' :: t => do
    let (ip, t) ← Ipv6.readFrom t
    match readScope t with
    | (scope, ']' :: t) =>
      let port ← readPort t
      return ⟨.v6 ip, port, scope⟩
    | _ => none
  | _ => none

def read? (t : Text) : Option SocketAddress := readV4? t <|> readV6? t

/-- An address with a port, or a bare host address on port `defaultPort`. -/
def readWithDefault? (defaultPort : UInt16) (t : Text) : Option SocketAddress :=
  read? t <|> (IpAddress.read? t).map fun ip => ⟨ip, defaultPort, 0⟩

end SocketAddress

end DnsBlocklist
