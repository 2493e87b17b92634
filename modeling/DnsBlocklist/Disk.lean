import DnsBlocklist.Files

/-! A file system held in memory. A file keeps its contents under every name it is given, and who has
opened it keeps writing to it after it was renamed or removed. -/

namespace DnsBlocklist
set_option autoImplicit false

structure StoredFile where
  bytes : Bytes
  modified : Int
deriving DecidableEq

/-- What a name stands for. A device keeps no bytes, and a full one takes none. -/
inductive Node where
  | folder
  | file (number : Nat)
  | device (full : Bool)
deriving DecidableEq

/-- The steps from the working folder, or from the root where the first one is a slash, or from the
folder around the working folder where the first one is two dots. -/
abbrev Place := List Text

structure Disk where
  names : List (Place × Node)
  files : Array StoredFile
  now : Int

namespace Disk

def root : Place := [['/']]

def surroundings : Place := [['.', '.']]

/-- A disk with nothing on it but a folder for temporary files and two devices. -/
def blank (now : Int) : Disk :=
  ⟨[([], .folder), (surroundings, .folder), (root, .folder), (root ++ ["tmp".toList], .folder),
    (root ++ ["dev".toList], .folder),
    (root ++ ["dev".toList, "full".toList], .device true),
    (root ++ ["dev".toList, "null".toList], .device false)], #[], now⟩

def node? (d : Disk) (place : Place) : Option Node := d.names.lookup place

/-- The steps of a path; slashes in a row count as one. -/
def steps (p : Path) : List Text := (p.splitOn '/').filter (· ≠ [])

/-- The folder that a place is in. The root is in itself, and what is around the working folder
counts as one folder. -/
def above (place : Place) : Place :=
  if place = [] then surroundings
  else if place = root ∨ place = surroundings then place
  else place.dropLast

def next (place : Place) (s : Text) : Place :=
  if s = ['.'] then place else if s = ['.', '.'] then above place else place ++ [s]

/-- Follows the steps of a path; each of them is taken in a folder. -/
def follow (d : Disk) (place : Place) : List Text → Except OsError Place
  | [] => .ok place
  | s :: rest =>
    match d.node? place with
    | none => .error .notFound
    | some .folder =>
      if 255 < (Utf8.encode s).length then .error .nameTooLong else follow d (next place s) rest
    | some _ => .error .notDirectory

/-- The place that a path leads to. Its last step may lead to nothing. -/
def place (d : Disk) (p : Path) : Except OsError Place :=
  match p.fault? with
  | some why => .error why
  | none =>
    match p with
    | [] => .error .notFound
    | '/' :: rest => d.follow root (steps rest)
    | p => d.follow [] (steps p)

/-- Whether a path asks for a folder by ending in a slash. -/
def asksFolder (p : Path) : Bool := p.getLast? == some '/'

/-- Whether the last step of a path is a name, and not a dot or two. -/
def endsInName (p : Path) : Bool :=
  match (steps p).getLast? with
  | none => false
  | some s => s ≠ ['.'] && s ≠ ['.', '.']

/-- What an existing path stands for. -/
def find (d : Disk) (p : Path) : Except OsError (Place × Node) := do
  let place ← d.place p
  match d.node? place with
  | none => .error .notFound
  | some .folder => return (place, .folder)
  | some node => if asksFolder p then .error .notDirectory else return (place, node)

def setName (d : Disk) (place : Place) (node : Node) : Disk :=
  { d with names := (place, node) :: d.names.filter (·.1 ≠ place) }

/-- Makes a new file at a place. -/
def create (d : Disk) (place : Place) (f : StoredFile) : Disk × Nat :=
  ({ d.setName place (.file d.files.size) with files := d.files.push f }, d.files.size)

def modifyFile (d : Disk) (number : Nat) (f : StoredFile → StoredFile) : Disk :=
  { d with files := d.files.modify number f }

def state (d : Disk) (p : Path) : Except OsError FileState := do
  let (_, node) ← d.find p
  match node with
  | .file number =>
    match d.files[number]? with
    | some f => return ⟨f.modified, f.bytes.length⟩
    | none => .error .notFound
  | .folder | .device _ => return ⟨d.now, 0⟩

def read (d : Disk) (p : Path) : Except OsError Bytes := do
  let (_, node) ← d.find p
  match node with
  | .file number =>
    match d.files[number]? with
    | some f => return f.bytes
    | none => .error .notFound
  | .folder => .error .isDirectory
  | .device _ => return []

/-- The place of a path that a file may be made at. A path that ends in a slash names no file. -/
def placeOfFile (d : Disk) (p : Path) : Except OsError Place := do
  let place ← d.place p
  if asksFolder p && endsInName p then .error .isDirectory else return place

/-- Something that was opened to append to. -/
inductive Opened where
  | file (number : Nat)
  | device (full : Bool)
deriving DecidableEq

def openFile (d : Disk) (p : Path) : Except OsError (Disk × Opened) := do
  let place ← d.placeOfFile p
  match d.node? place with
  | some .folder => .error .isDirectory
  | some (.file number) => return (d, .file number)
  | some (.device full) => return (d, .device full)
  | none =>
    let (d, number) := d.create place ⟨[], d.now⟩
    return (d, .file number)

def append (d : Disk) (o : Opened) (bytes : Bytes) : Except OsError (Disk × Nat) :=
  match o with
  | .device true => .error .noSpace
  | .device false => .ok (d, bytes.length)
  | .file number =>
    match d.files[number]? with
    | some _ => .ok (d.modifyFile number fun f => ⟨f.bytes ++ bytes, d.now⟩, bytes.length)
    | none => .error .notFound

/-- Puts contents into a file; a file that exists keeps its identity. -/
def write (d : Disk) (p : Path) (bytes : Bytes) (modified : Int) : Except OsError Disk := do
  let place ← d.placeOfFile p
  match d.node? place with
  | some .folder => .error .isDirectory
  | some (.device true) => .error .noSpace
  | some (.device false) => return d
  | some (.file number) => return d.modifyFile number fun _ => ⟨bytes, modified⟩
  | none => return (d.create place ⟨bytes, modified⟩).1

def touch (d : Disk) (p : Path) (modified : Int) : Except OsError Disk := do
  match ← d.find p with
  | (_, .file number) => return d.modifyFile number fun f => { f with modified }
  | _ => return d

def makeFolder (d : Disk) (p : Path) : Except OsError Disk := do
  let place ← d.place p
  match d.node? place with
  | some _ => .error .alreadyThere
  | none => return d.setName place .folder

def remove (d : Disk) (p : Path) : Except OsError Disk := do
  match ← d.find p with
  | (_, .folder) => .error .isDirectory
  | (place, _) => return { d with names := d.names.filter (·.1 ≠ place) }

/-- Whether nothing can move from one place onto a node that is there already. -/
def blocks (d : Disk) (moved : Node) (target : Place) : Bool :=
  match moved, d.node? target with
  | _, none => false
  | .folder, some .folder => d.names.any fun (p, _) => target.isPrefixOf p && p != target
  | .folder, some _ => true
  | _, some .folder => true
  | _, some _ => false

/-- Gives what a path stands for another name. Only folders take a name with a slash at its end. -/
def rename (d : Disk) (source target : Path) : Except OsError Disk := do
  if !endsInName source || !endsInName target then .error .busy
  let asked := asksFolder target
  let (source, moved) ← d.find source
  let target ← d.place target
  if asked && moved ≠ .folder then .error .notDirectory
  if source = target then return d
  if source.isPrefixOf target && moved == .folder then .error .notFound
  if d.blocks moved target then .error .isDirectory
  return { d with names := (d.names.filter (·.1 ≠ target)).map fun (p, n) =>
    if source.isPrefixOf p then (target ++ p.drop source.length, n) else (p, n) }

/-- Runs an operation that may change the disk; one that fails leaves it as it was. -/
def change {α : Type} (f : Disk → Except OsError (Disk × α)) : StateM Disk (Except OsError α) :=
  fun d => match f d with
    | .ok (d, a) => (.ok a, d)
    | .error e => (.error e, d)

def dataFiles : DataFiles (StateM Disk) where
  state p := return (← get).state p
  read p := return (← get).read p

def appendFiles : AppendFiles (StateM Disk) Opened where
  openFile p := change (·.openFile p)
  append o bytes := change (·.append o bytes)

end Disk

end DnsBlocklist
