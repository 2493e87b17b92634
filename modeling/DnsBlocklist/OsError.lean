import DnsBlocklist.Text.Decimal

/-! What the operating system answers when it refuses an operation. -/

namespace DnsBlocklist
set_option autoImplicit false

inductive OsError where
  | notFound
  | notDirectory
  | isDirectory
  | permissionDenied
  | addressInUse
  | addressUnavailable
  | noSpace
  | busy
  | alreadyThere
  | nameTooLong
  /-- refused before the system is asked -/
  | zeroByteInName
  | other (code : Nat) (text : Text)
deriving DecidableEq

namespace OsError

def code? : OsError → Option Nat
  | notFound => some 2
  | permissionDenied => some 13
  | busy => some 16
  | alreadyThere => some 17
  | notDirectory => some 20
  | isDirectory => some 21
  | noSpace => some 28
  | nameTooLong => some 36
  | addressInUse => some 98
  | addressUnavailable => some 99
  | zeroByteInName => none
  | other code _ => some code

def text : OsError → Text
  | notFound => "No such file or directory".toList
  | permissionDenied => "Permission denied".toList
  | busy => "Device or resource busy".toList
  | alreadyThere => "File exists".toList
  | notDirectory => "Not a directory".toList
  | isDirectory => "Is a directory".toList
  | noSpace => "No space left on device".toList
  | nameTooLong => "File name too long".toList
  | addressInUse => "Address already in use".toList
  | addressUnavailable => "Cannot assign requested address".toList
  | zeroByteInName => "file name contained an unexpected NUL byte".toList
  | other _ text => text

def message (e : OsError) : Text :=
  match e.code? with
  | some code => e.text ++ " (os error ".toList ++ Decimal.write code ++ [')']
  | none => e.text

end OsError

end DnsBlocklist
