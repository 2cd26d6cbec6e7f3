import Std.Data.ExtTreeMap
import Recalc.Storage.Path

/-!
# Disks

A disk is a tree of directories and files. Operations name what they work on by a path, which is
followed from the working directory. An operation that cannot be done tells the cause and leaves the
disk as it was; only directories that were made on the way to another one stay.

What the system refuses, for its rights, for the way a directory is mounted or for want of room, is
part of the disk and does not change; nothing is refused halfway. Links are left out, except for
those that lead back to themselves, which are like files that cannot be opened.
-/

namespace Recalc

abbrev Octets := List UInt8

/-- Why the system refuses what otherwise could be done. -/
inductive Refusal where
  | accessDenied
  | notPermitted
  | readOnly
  /-- Any other cause, with the number and the text that it is told with. -/
  | other (number : Nat) (text : String)
  deriving DecidableEq, Repr

namespace Refusal

def number : Refusal → Nat
  | .notPermitted => 1
  | .accessDenied => 13
  | .readOnly => 30
  | .other number _ => number

def text : Refusal → String
  | .notPermitted => "Operation not permitted"
  | .accessDenied => "Permission denied"
  | .readOnly => "Read-only file system"
  | .other _ text => text

end Refusal

inductive DiskNode where
  | file (octets : Octets)
  | directory
  /-- A file that is not opened for writing. It may be refused to read it as well. -/
  | locked (writing : Refusal) (reading : Option Refusal) (octets : Octets)
  /-- A link that leads back to itself. -/
  | loop
  deriving DecidableEq

/-- What is done at a location: the names in a directory are followed or listed, something is added
to a directory, and a file is removed. -/
inductive Access where
  | search
  | list
  | add
  | remove
  deriving DecidableEq

/-- Where a path leads: the names from the root, as the system keeps them. -/
abbrev Location := List String

/-- Why an operation cannot be done. -/
inductive DiskFault where
  | notFound
  | exists
  | notADirectory
  | isADirectory
  | invalidArgument
  | nameTooLong
  | busy
  | linkLoop
  | refused (r : Refusal)
  /-- A path with a character that no path can have. -/
  | embeddedNul
  /-- A path with surrogates that no name has. -/
  | unencodable (e : CodePoints.EncodeError)
  deriving DecidableEq, Repr

namespace DiskFault

def number : DiskFault → Nat
  | .notFound => 2
  | .busy => 16
  | .exists => 17
  | .notADirectory => 20
  | .isADirectory => 21
  | .invalidArgument => 22
  | .nameTooLong => 36
  | .linkLoop => 40
  | .refused r => r.number
  | .embeddedNul | .unencodable _ => 0

def text : DiskFault → String
  | .notFound => "No such file or directory"
  | .busy => "Device or resource busy"
  | .exists => "File exists"
  | .notADirectory => "Not a directory"
  | .isADirectory => "Is a directory"
  | .invalidArgument => "Invalid argument"
  | .nameTooLong => "File name too long"
  | .linkLoop => "Too many levels of symbolic links"
  | .refused r => r.text
  | .embeddedNul => "embedded null byte"
  | .unencodable e => e.message

/-- Whether the system is not even asked, since it has no such path. -/
def isUnasked : DiskFault → Bool
  | .embeddedNul | .unencodable _ => true
  | _ => false

end DiskFault

/-- A fault, with the path of the operation if it had one. -/
structure DiskError where
  fault : DiskFault
  path : Option CodePoints
  deriving DecidableEq

def DiskError.message (e : DiskError) : String :=
  if e.fault.isUnasked then e.fault.text
  else
    "[Errno " ++ toString e.fault.number ++ "] " ++ e.fault.text ++
      match e.path with
      | some path => ": " ++ path.quoted
      | none => ""

/-- What is said about a path that leads in a circle when it is to be told from the root. -/
def DiskError.loopText (path : CodePoints) : String :=
  "Symlink loop from " ++ path.quoted

/-- Why the system is not even asked about a path. -/
def Path.fault? (p : Path) : Option DiskFault :=
  match p.text.nameError? with
  | some e => some (.unencodable e)
  | none => if .char '\x00' ∈ p.text then some .embeddedNul else none

structure Disk where
  /-- All that is on the disk except the root, by the text of its location. -/
  nodes : Std.ExtTreeMap String DiskNode
  workingDirectory : Location
  /-- What is refused at a location. Removing is up to the file, since a directory may let each of
  its files be removed by its owner only. -/
  refusal? : Access → Location → Option Refusal

namespace Disk

/-- The text of a location. -/
def locationText (l : Location) : String :=
  "/" ++ "/".intercalate l

/-- A disk with nothing but an empty working directory of the given name, where nothing is
refused. -/
def blank (name : String) : Disk :=
  ⟨Std.ExtTreeMap.ofList [(locationText [name], DiskNode.directory)], [name], fun _ _ => none⟩

instance : Inhabited Disk := ⟨blank "home"⟩

def node? (d : Disk) (l : Location) : Option DiskNode :=
  if l = [] then some .directory else d.nodes[locationText l]?

def put (d : Disk) (l : Location) (n : DiskNode) : Disk :=
  { d with nodes := d.nodes.insert (locationText l) n }

def drop (d : Disk) (l : Location) : Disk :=
  { d with nodes := d.nodes.erase (locationText l) }

/-- Fails if the access is refused at a location. -/
def permit (d : Disk) (a : Access) (l : Location) : Except DiskFault Unit :=
  match d.refusal? a l with
  | some r => .error (.refused r)
  | none => .ok ()

/-! ### Following paths -/

/-- The longest name, in octets. -/
def nameLimit : Nat := 255

/-- The longest path, in octets. -/
def pathLimit : Nat := 4095

/-- The location one name further. -/
def step (d : Disk) (l : Location) (name : String) : Except DiskFault Location :=
  match d.node? l, d.refusal? .search l with
  | some .directory, none =>
    if name = ".." then .ok l.dropLast
    else if name.length > nameLimit then .error .nameTooLong
    else .ok (l ++ [name])
  | some .directory, some r => .error (.refused r)
  | some .loop, _ => .error .linkLoop
  | some _, _ => .error .notADirectory
  | none, _ => .error .notFound

/-- The location that a path leads to, whether something is there or not. -/
def locate (d : Disk) (p : Path) : Except DiskFault Location :=
  match p.fault? with
  | some fault => .error fault
  | none =>
    if p.text.fileName.length > pathLimit then .error .nameTooLong
    else p.fileNames.foldlM d.step (if p.absolute then [] else d.workingDirectory)

/-- What is at the end of a path, if that is not a link. -/
def find (d : Disk) (p : Path) : Except DiskFault DiskNode := do
  match d.node? (← d.locate p) with
  | some .loop => throw .linkLoop
  | some n => return n
  | none => throw .notFound

/-- What is at the end of the path that a text writes. A slash or a dot at the end asks for a
directory, and an empty text leads nowhere. -/
def findText (d : Disk) (s : String) : Except DiskFault DiskNode := do
  if s = "" then throw .notFound
  let n ← d.find (.ofText s)
  let asksForDirectory :=
    match s.toList.reverse with
    | '/' :: _ | '.' :: '/' :: _ => true
    | _ => false
  if asksForDirectory && n ≠ .directory then throw .notADirectory
  return n

def isDirectory (d : Disk) (p : Path) : Bool :=
  match d.find p with
  | .ok .directory => true
  | _ => false

/-- Whether a path leads in a circle. -/
def isLoop (d : Disk) (p : Path) : Bool :=
  match d.find p with
  | .error .linkLoop => true
  | _ => false

/-- Whether what is at the end of a path may be read, or listed if it is a directory. -/
def isReadable (d : Disk) (p : Path) : Bool :=
  match d.locate p with
  | .error _ => false
  | .ok l =>
    match d.node? l with
    | some (.file _) | some (.locked _ none _) => true
    | some .directory => (d.refusal? .list l).isNone
    | _ => false

/-- Names the path in the error of an operation. -/
def about {α : Type} (p : Path) (r : Except DiskFault α) : Except DiskError α :=
  r.mapError fun fault => ⟨fault, some p.text⟩

/-- Whether something is at the end of a path. A path that cannot be there is an error. -/
def has (d : Disk) (p : Path) : Except DiskError Bool :=
  match d.find p with
  | .ok _ => .ok true
  | .error .notFound | .error .notADirectory | .error .linkLoop => .ok false
  | .error fault => if fault.isUnasked then .ok false else .error ⟨fault, some p.text⟩

/-- The path from the root, without dots. Names that lead nowhere are kept. -/
def resolve (d : Disk) (p : Path) : Path :=
  let start := if p.absolute then [] else d.workingDirectory.map CodePoints.ofFileName
  let follow (names : List CodePoints) (name : CodePoints) : List CodePoints :=
    if name = ".." then names.dropLast else names ++ [name]
  ⟨true, p.parts.foldl follow start⟩

/-! ### Operations -/

/-- The contents of a file. -/
def read (d : Disk) (p : Path) : Except DiskError Octets :=
  about p do
    match ← d.find p with
    | .file octets | .locked _ none octets => return octets
    | .locked _ (some r) _ => throw (.refused r)
    | .directory => throw .isADirectory
    | .loop => throw .linkLoop

/-- Whether something can be added at a location: the directory must be there. -/
def canAdd (d : Disk) (l : Location) : Except DiskFault Unit :=
  match d.node? l.dropLast with
  | some .directory => d.permit .add l.dropLast
  | some .loop => .error .linkLoop
  | some _ => .error .notADirectory
  | none => .error .notFound

/-- Opens a file for writing, that is, finds its location and its contents so far. -/
def openForWriting (d : Disk) (p : Path) : Except DiskFault (Location × Octets) := do
  let l ← d.locate p
  match d.node? l with
  | some (.file octets) => return (l, octets)
  | some (.locked r _ _) => throw (.refused r)
  | some .directory => throw .isADirectory
  | some .loop => throw .linkLoop
  | none =>
    d.canAdd l
    return (l, [])

/-- Makes the given octets the contents of a file. -/
def write (d : Disk) (p : Path) (octets : Octets) : Except DiskError Disk :=
  about p do
    let (l, _) ← d.openForWriting p
    return d.put l (.file octets)

/-- Adds octets at the end of a file. -/
def append (d : Disk) (p : Path) (octets : Octets) : Except DiskError Disk :=
  about p do
    let (l, before) ← d.openForWriting p
    return d.put l (.file (before ++ octets))

/-- Fails where the system is read-only. This is told even if there is nothing to remove. -/
def changeable (d : Disk) (l : Location) : Except DiskFault Unit :=
  if d.refusal? .remove l = some .readOnly then .error (.refused .readOnly) else .ok ()

/-- Removes a file. -/
def remove (d : Disk) (p : Path) : Except DiskError Disk :=
  about p do
    let l ← d.locate p
    d.changeable l
    match d.node? l with
    | none => throw .notFound
    | some n =>
      d.permit .remove l
      if n = .directory then throw .isADirectory
      return d.drop l

/-- Whether a file can be put at a location, in place of one that may be there. -/
def canPut (d : Disk) (l : Location) : Except DiskFault Unit :=
  match d.node? l with
  | some n => do
    d.permit .remove l
    if n = .directory then throw .isADirectory
  | none => d.canAdd l

/-- Moves a file, in place of a file that may be there. -/
def move (d : Disk) (p q : Path) : Except DiskFault Disk := do
  if q.parts.getLast? = some ".." then throw .busy
  let l ← d.locate p
  let target ← d.locate q
  d.changeable l
  match d.node? l with
  | none => throw .notFound
  | some .directory => throw .isADirectory
  | some n =>
    d.permit .remove l
    d.canPut target
    return (d.drop l).put target n

/-- Makes a directory inside one that is there. -/
def makeDirectory (d : Disk) (p : Path) : Except DiskError Disk :=
  about p do
    let l ← d.locate p
    match d.node? l with
    | some _ => throw .exists
    | none =>
      d.canAdd l
      return d.put l .directory

/-- Makes a directory; that it is there already is an error unless `existing` allows it. -/
def ensureDirectory (d : Disk) (p : Path) (existing : Bool) : Except DiskError Disk :=
  match d.makeDirectory p with
  | .ok d => .ok d
  | .error e => if existing && d.isDirectory p then .ok d else .error e

/-- Makes a directory and those above it that are missing; `depth` bounds how many these are. Those
that were made stay when a later one cannot be made. -/
def makeDirectoriesWithin (d : Disk) (p : Path) (existing : Bool) :
    Nat → Except DiskError Unit × Disk
  | 0 => ensured d
  | depth + 1 =>
    match d.ensureDirectory p existing with
    | .ok d => (.ok (), d)
    | .error e =>
      if e.fault = .notFound ∧ p.parent ≠ p then
        match d.makeDirectoriesWithin p.parent true depth with
        | (.ok _, d) => ensured d
        | failed => failed
      else (.error e, d)
where
  ensured (d : Disk) : Except DiskError Unit × Disk :=
    match d.ensureDirectory p existing with
    | .ok d => (.ok (), d)
    | .error e => (.error e, d)

def makeDirectories (d : Disk) (p : Path) (existing : Bool) : Except DiskError Unit × Disk :=
  d.makeDirectoriesWithin p existing (p.parts.length + 1)

/-- Whether nothing is in a directory. -/
def isEmptyDirectory (d : Disk) (p : Path) : Except DiskError Bool :=
  about p do
    let l ← d.locate p
    match d.node? l with
    | some .directory =>
      d.permit .list l
      let inside := locationText l ++ if l = [] then "" else "/"
      return !d.nodes.keys.any fun key => inside.toList.isPrefixOf key.toList
    | some .loop => throw .linkLoop
    | some _ => throw .notADirectory
    | none => throw .notFound

/-- All that is in the working directory and below, in the order of the texts; directories end in
a slash. -/
def listing (d : Disk) : List CodePoints :=
  let inside := (locationText d.workingDirectory).toList ++ ['/']
  let texts := d.nodes.toList.filterMap fun (key, n) =>
    let cs := key.toList
    if inside.isPrefixOf cs then
      let rest := String.ofList (cs.drop inside.length)
      some (match n with | .directory => rest ++ "/" | _ => rest)
    else none
  (texts.mergeSort (· ≤ ·)).map CodePoints.ofFileName

end Disk

end Recalc
