import DnsBlocklist.Message.CharacterString
import DnsBlocklist.Text.Utf8

/-! The parameters of service records: numbered values in ascending order of their numbers. -/

namespace DnsBlocklist.Service
set_option autoImplicit false

/-- Whether bytes are the names of application protocols, one at least. -/
def areProtocols (value : Bytes) : Bool :=
  match CharacterString.readAll value with
  | none => false
  | some names => !names.isEmpty && names.all fun n => (Utf8.decode? n).isSome

/-- Whether a parameter may have a value. Those without a rule of their own take any. -/
def fits (key : Nat) (value : Bytes) : Bool :=
  match key with
  | 0 => !value.isEmpty && value.length % 2 == 0
  | 1 => areProtocols value
  | 2 => value.isEmpty
  | 3 => 2 ≤ value.length
  | 4 => value.length % 4 == 0
  | 6 => value.length % 16 == 0
  | _ => true

/-- Whether bytes are parameters with numbers from `least` on. -/
def areParameters (least : Nat) : Bytes → Bool
  | [] => true
  | a :: b :: c :: d :: rest =>
    let key := a.toNat * 256 + b.toNat
    let length := c.toNat * 256 + d.toNat
    least ≤ key && length ≤ rest.length && fits key (rest.take length) &&
      areParameters (key + 1) (rest.drop length)
  | _ => false
termination_by bytes => bytes.length
decreasing_by
  simp only [List.length_drop, List.length_cons]
  omega

end DnsBlocklist.Service
