import DnsBlocklist.Text.Decimal

/-! The numbers of record types, classes and response codes, and the words for them in reports. -/

namespace DnsBlocklist
set_option autoImplicit false

abbrev RecordType := UInt16

abbrev RecordClass := UInt16

abbrev Rcode := UInt16

namespace RecordType

def a : RecordType := 1

def txt : RecordType := 16

def opt : RecordType := 41

def any : RecordType := 255

def words : List (Nat × String) :=
  [(0, "ZERO"), (1, "A"), (2, "NS"), (5, "CNAME"), (6, "SOA"), (10, "NULL"), (12, "PTR"),
    (13, "HINFO"), (15, "MX"), (16, "TXT"), (24, "SIG"), (25, "KEY"), (28, "AAAA"), (33, "SRV"),
    (35, "NAPTR"), (37, "CERT"), (41, "OPT"), (43, "DS"), (44, "SSHFP"), (46, "RRSIG"),
    (47, "NSEC"), (48, "DNSKEY"), (50, "NSEC3"), (51, "NSEC3PARAM"), (52, "TLSA"), (59, "CDS"),
    (60, "CDNSKEY"), (61, "OPENPGPKEY"), (62, "CSYNC"), (64, "SVCB"), (65, "HTTPS"), (250, "TSIG"),
    (251, "IXFR"), (252, "AXFR"), (255, "ANY"), (257, "CAA"), (65305, "ANAME")]

def unknownWord : Text := "Unknown".toList

def word (t : RecordType) : Text :=
  match words.lookup t.toNat with
  | some w => w.toList
  | none => unknownWord

end RecordType

namespace RecordClass

def internet : RecordClass := 1

def any : RecordClass := 255

def word (c : RecordClass) : Text :=
  if c = 1 then "IN".toList
  else if c = 3 then "CH".toList
  else if c = 4 then "HS".toList
  else if c = 254 then "NONE".toList
  else if c = 255 then "ANY".toList
  else "UNKNOWN".toList

end RecordClass

namespace Rcode

def noError : Rcode := 0

def formErr : Rcode := 1

def nxDomain : Rcode := 3

def notImp : Rcode := 4

def refused : Rcode := 5

def word (r : Rcode) : Text :=
  if r = 0 then "NOERROR".toList
  else if r = 1 then "FORMERR".toList
  else if r = 2 then "SERVFAIL".toList
  else if r = 3 then "NXDOMAIN".toList
  else if r = 4 then "NOTIMP".toList
  else if r = 5 then "REFUSED".toList
  else "RCODE".toList ++ Decimal.write r.toNat

end Rcode

end DnsBlocklist
