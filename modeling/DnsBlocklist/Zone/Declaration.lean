import DnsBlocklist.Failure

/-! Zone declarations, written `name:ip4set:file,file`. Declarations of one name add up to one
zone, whatever the letter case and the final dot of the name. -/

namespace DnsBlocklist
set_option autoImplicit false

/-- A zone and the files that hold its data. -/
structure Declaration where
  origin : Name
  files : List Path
deriving DecidableEq

namespace Declaration

def datasetType : Text := "ip4set".toList

/-- The texts before the first colon, between the first two, and after the second one. -/
def fields? (t : Text) : Option (Text × Text × Text) :=
  match Text.cut? (· == ':') t with
  | none => none
  | some (name, rest) =>
    match Text.cut? (· == ':') rest with
    | none => none
    | some (type, files) => some (name, type, files)

def splitFiles (t : Text) : List Path := (t.splitOn ',').filter (!·.isEmpty)

def read (t : Text) : Except ConfigFault Declaration :=
  match fields? t with
  | none => .error (.zoneForm t)
  | some (name, type, files) =>
    if type ≠ datasetType then .error (.datasetType type)
    else if name.isEmpty then .error (.unnamedZone t)
    else match Name.read name with
      | .error fault => .error (.zoneName name fault)
      | .ok origin =>
        if (splitFiles files).isEmpty then .error (.noFiles name)
        else .ok ⟨origin.lower.withRoot true, splitFiles files⟩

/-- Adds a declaration: its files go to the zone of the same origin, or to a new zone at the end. -/
def add : List Declaration → Declaration → List Declaration
  | [], d => [d]
  | z :: zs, d => if z.origin = d.origin then { z with files := z.files ++ d.files } :: zs
    else z :: add zs d

/-- The zones of a list of declarations, or the fault of the first malformed one. -/
def readAllFrom (zones : List Declaration) : List Text → Except ConfigFault (List Declaration)
  | [] => .ok zones
  | t :: ts =>
    match read t with
    | .error fault => .error fault
    | .ok d => readAllFrom (add zones d) ts

def readAll (ts : List Text) : Except ConfigFault (List Declaration) := readAllFrom [] ts

/-- The files of a zone, none where it is not declared. -/
def filesOf (origin : Name) (zones : List Declaration) : List Path :=
  (zones.filter (·.origin = origin)).flatMap (·.files)

theorem filesOf_add (origin : Name) (zones : List Declaration) (d : Declaration)
    (h : (zones.map (·.origin)).Nodup) :
    filesOf origin (add zones d) =
      filesOf origin zones ++ if d.origin = origin then d.files else [] := by
  induction zones with
  | nil => by_cases hd : d.origin = origin <;> simp [add, filesOf, hd]
  | cons z zs ih =>
    simp only [List.map_cons, List.nodup_cons] at h
    by_cases hz : z.origin = d.origin
    · by_cases hd : d.origin = origin
      · have hnone : zs.filter (·.origin = origin) = [] := by
          rw [List.filter_eq_nil_iff]
          intro y hy hyo
          apply h.1
          simp only [decide_eq_true_eq] at hyo
          exact List.mem_map.mpr ⟨y, hy, by rw [hyo, hz, hd]⟩
        simp [add, filesOf, hz, hd, hnone]
      · simp [add, filesOf, hz, hd]
    · have ih' := ih h.2
      have hadd : add (z :: zs) d = z :: add zs d := by simp [add, hz]
      rw [hadd]
      simp only [filesOf] at ih' ⊢
      by_cases hzo : z.origin = origin <;> simp [hzo, ih']

theorem map_origin_add (zones : List Declaration) (d : Declaration) :
    (add zones d).map (·.origin) =
      zones.map (·.origin) ++ if d.origin ∈ zones.map (·.origin) then [] else [d.origin] := by
  induction zones with
  | nil => simp [add]
  | cons z zs ih =>
    by_cases hz : z.origin = d.origin
    · simp [add, hz]
    · have hz' : ¬ d.origin = z.origin := fun h => hz h.symm
      simp only [add, hz, if_false, List.map_cons, ih, List.cons_append, List.mem_cons, hz',
        false_or]

end Declaration

end DnsBlocklist
