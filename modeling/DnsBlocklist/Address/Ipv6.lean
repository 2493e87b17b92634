import DnsBlocklist.Address.Ipv4

/-! IPv6 addresses and their text: the longest run of at least two zero groups, the first one of
equals, is written as a double colon, and a mapped IPv4 address keeps its dotted form. -/

namespace DnsBlocklist
set_option autoImplicit false

structure Ipv6 where
  groups : Vector UInt16 8
deriving DecidableEq

namespace Ipv6

/-- The IPv4 address of `::ffff:a.b.c.d`. -/
def mapped? (ip : Ipv6) : Option Ipv4 :=
  if ip.groups.toList.take 6 = [0, 0, 0, 0, 0, 0xFFFF] then
    let high := ip.groups[6].toNat
    let low := ip.groups[7].toNat
    some (Ipv4.ofOctets (UInt8.ofNat (high / 256)) (UInt8.ofNat (high % 256))
      (UInt8.ofNat (low / 256)) (UInt8.ofNat (low % 256)))
  else none

def ofMapped (ip : Ipv4) : Ipv6 :=
  ⟨#v[0, 0, 0, 0, 0, 0xFFFF,
    UInt16.ofNat (ip.bits.toNat / 65536), UInt16.ofNat (ip.bits.toNat % 65536)]⟩

theorem mapped?_ofMapped (a : Ipv4) : (ofMapped a).mapped? = some a := by
  have h := a.bits.isLt
  have hhigh : (UInt16.ofNat (a.bits.toNat / 65536)).toNat = a.bits.toNat / 65536 :=
    UInt16.toNat_ofNat_of_lt (by simp only [UInt16.size]; omega)
  have hlow : (UInt16.ofNat (a.bits.toNat % 65536)).toNat = a.bits.toNat % 65536 :=
    UInt16.toNat_ofNat_of_lt (by simp only [UInt16.size]; omega)
  have hprefix : (ofMapped a).groups.toList.take 6 = [0, 0, 0, 0, 0, 0xFFFF] := rfl
  have h6 : (ofMapped a).groups[6].toNat = a.bits.toNat / 65536 := hhigh
  have h7 : (ofMapped a).groups[7].toNat = a.bits.toNat % 65536 := hlow
  rw [mapped?, if_pos hprefix]
  simp only [h6, h7, Ipv4.ofOctets, Option.some.injEq]
  apply Ipv4.ext
  apply BitVec.eq_of_toNat_eq
  simp only [UInt8.toNat_ofNat', BitVec.toNat_ofNat]
  omega

theorem mapped?_eq_some_iff (ip : Ipv6) (a : Ipv4) : ip.mapped? = some a ↔ ip = ofMapped a := by
  constructor
  · intro h
    rw [mapped?] at h
    split at h
    · rename_i hprefix
      simp only [Option.some.injEq] at h
      subst h
      have hfirst : ∀ i (hi : i < 6), ip.groups[i] = ([0, 0, 0, 0, 0, 0xFFFF] : List UInt16)[i] := by
        intro i hi
        rw [← List.getElem_of_eq hprefix (by simp; omega)]
        simp
      have hhigh := ip.groups[6].toNat_lt
      have hlow := ip.groups[7].toNat_lt
      have hbits : (Ipv4.ofOctets (UInt8.ofNat (ip.groups[6].toNat / 256))
          (UInt8.ofNat (ip.groups[6].toNat % 256)) (UInt8.ofNat (ip.groups[7].toNat / 256))
          (UInt8.ofNat (ip.groups[7].toNat % 256))).bits.toNat =
          65536 * ip.groups[6].toNat + ip.groups[7].toNat := by
        simp only [Ipv4.ofOctets, UInt8.toNat_ofNat', BitVec.toNat_ofNat]
        omega
      have hquot : (65536 * ip.groups[6].toNat + ip.groups[7].toNat) / 65536 = ip.groups[6].toNat := by
        omega
      have hrem : (65536 * ip.groups[6].toNat + ip.groups[7].toNat) % 65536 = ip.groups[7].toNat := by
        omega
      refine congrArg Ipv6.mk (Vector.ext fun i hi => ?_)
      rw [hbits, hquot, hrem, UInt16.ofNat_toNat, UInt16.ofNat_toNat]
      have hi' : i = 0 ∨ i = 1 ∨ i = 2 ∨ i = 3 ∨ i = 4 ∨ i = 5 ∨ i = 6 ∨ i = 7 := by omega
      rcases hi' with rfl | rfl | rfl | rfl | rfl | rfl | rfl | rfl
      · exact hfirst 0 (by omega)
      · exact hfirst 1 (by omega)
      · exact hfirst 2 (by omega)
      · exact hfirst 3 (by omega)
      · exact hfirst 4 (by omega)
      · exact hfirst 5 (by omega)
      · rfl
      · rfl
    · cases h
  · rintro rfl
    exact mapped?_ofMapped a

def hex (n : Nat) : Text := Nat.toDigits 16 n

/-- The groups in hexadecimal with colons between them, in the pieces they are written in. -/
def groupPieces : List UInt16 → List Text
  | [] => []
  | g :: gs => hex g.toNat :: gs.flatMap fun h => [[':'], hex h.toNat]

/-- Start and length of the longest run of zeros, the first one of equals. -/
def longestZeros (groups : List UInt16) : Nat × Nat :=
  (List.range groups.length).foldl (fun best start =>
    let run := ((groups.drop start).takeWhile (· == 0)).length
    if best.2 < run then (start, run) else best) (0, 0)

def pieces (ip : Ipv6) : List Text :=
  match ip.mapped? with
  | some v4 => "::ffff:".toList :: v4.pieces
  | none =>
    let groups := ip.groups.toList
    let (start, run) := longestZeros groups
    if 1 < run then
      groupPieces (groups.take start) ++ "::".toList :: groupPieces (groups.drop (start + run))
    else groupPieces groups

def text (ip : Ipv6) : Text := ip.pieces.flatten

def hexDigit? (c : Char) : Option Nat :=
  if c.isDigit then some (c.toNat - 48)
  else if 'a' ≤ c && c ≤ 'f' then some (c.toNat - 87)
  else if 'A' ≤ c && c ≤ 'F' then some (c.toNat - 55)
  else none

/-- A group: one to four hexadecimal digits. -/
def readGroup (t : Text) : Option (UInt16 × Text) :=
  let digits := t.takeWhile fun c => (hexDigit? c).isSome
  if digits.isEmpty || 4 < digits.length then none
  else some (UInt16.ofNat (digits.foldl (fun n c => 16 * n + (hexDigit? c).getD 0) 0),
    t.drop digits.length)

/-- The text after the colon that every group but the first one has in front. -/
def afterColon (first : Bool) (t : Text) : Option Text :=
  if first then some t
  else match t with
    | ':' :: t => some t
    | _ => none

/-- Reads up to `room` groups. A dotted IPv4 address takes the place of two groups and ends the
list; the flag tells whether one was read. -/
def readGroups : Nat → Bool → Text → List UInt16 × Bool × Text
  | 0, _, t => ([], false, t)
  | room + 1, first, t =>
    match afterColon first t with
    | none => ([], false, t)
    | some u =>
      match if 0 < room then Ipv4.readFrom u else none with
      | some (v4, rest) =>
        ([UInt16.ofNat (v4.bits.toNat / 65536), UInt16.ofNat (v4.bits.toNat % 65536)], true, rest)
      | none =>
        match readGroup u with
        | none => ([], false, t)
        | some (g, rest) =>
          let (gs, dotted, rest) := readGroups room false rest
          (g :: gs, dotted, rest)

/-- Eight groups made from those before and those after the double colon. -/
def ofParts (front back : List UInt16) : Ipv6 :=
  let all := front ++ List.replicate (8 - front.length - back.length) 0 ++ back
  ⟨Vector.ofFn fun i => all.getD i.val 0⟩

/-- Reads an address off the front of a text. -/
def readFrom (t : Text) : Option (Ipv6 × Text) :=
  let (front, dotted, rest) := readGroups 8 true t
  if front.length = 8 then some (ofParts front [], rest)
  else if dotted then none
  else match rest with
    | ':' :: ':' :: rest =>
      let (back, _, rest) := readGroups (7 - front.length) true rest
      some (ofParts front back, rest)
    | _ => none

def read? (t : Text) : Option Ipv6 :=
  match readFrom t with
  | some (ip, []) => some ip
  | _ => none

end Ipv6

end DnsBlocklist
