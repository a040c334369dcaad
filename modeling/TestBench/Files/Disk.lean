import TestBench.Files.Path
import TestBench.Text.Utf8

/-! A disk: directories and files under their places. Every operation walks the path name by name as
far as the directories exist, and says why it fails. -/
namespace TestBench

/-- Why an operation on files fails. -/
inductive DiskFault where
  | notFound
  | unknownFormat
  | permissionDenied
  | alreadyExists
  | notDirectory
  | isDirectory
  | nameTooLong
  | nulInName
  | nulInData
  | notText
deriving DecidableEq, Repr

namespace DiskFault

def numbered (text : String) (number : Nat) : Text :=
  text.toList ++ " (os error ".toList ++ Text.ofNat number ++ [')']

def message : DiskFault → Text
  | notFound => numbered "No such file or directory" 2
  | unknownFormat => numbered "Exec format error" 8
  | permissionDenied => numbered "Permission denied" 13
  | alreadyExists => numbered "File exists" 17
  | notDirectory => numbered "Not a directory" 20
  | isDirectory => numbered "Is a directory" 21
  | nameTooLong => numbered "File name too long" 36
  | nulInName => "file name contained an unexpected NUL byte".toList
  | nulInData => "nul byte found in provided data".toList
  | notText => "stream did not contain valid UTF-8".toList

end DiskFault

/-- What stands at a place. -/
inductive Entry where
  | directory
  | file (content : Text.Utf8.Bytes) (executable : Bool)
deriving DecidableEq

/-- Directories and files with their places, and the places where writing fails. -/
structure Disk where
  entries : List (Location × Entry)
  refuses : Location → Option DiskFault := fun _ => none

namespace Disk

/-- What stands at a place; the root is always a directory. -/
def entry? (d : Disk) (l : Location) : Option Entry :=
  if l = [] then some .directory else d.entries.lookup l

/-- The disk with an entry at a place, in place of the one that was there. -/
def put (d : Disk) (l : Location) (e : Entry) : Disk :=
  { d with entries := (l, e) :: d.entries.filter fun x => x.1 ≠ l }

def erase (d : Disk) (l : Location) : Disk :=
  { d with entries := d.entries.filter fun x => !l.isPrefixOf x.1 }

/-- Names have at most 255 bytes. -/
def nameLimit : Nat := 255

def pathLimit : Nat := 4096

/-- From a place on by one name; only directories can be entered. -/
def step (d : Disk) (l : Location) (name : Text) : Except DiskFault Location :=
  match d.entry? l with
  | none => .error .notFound
  | some (.file ..) => .error .notDirectory
  | some .directory =>
    if Text.byteLength name > nameLimit then .error .nameTooLong else .ok (Path.enter l name)

/-- The place that a path leads to, whether or not anything stands there. -/
def resolve (d : Disk) (cwd : Location) (p : Path) : Except DiskFault Location :=
  if Char.ofNat 0 ∈ p then .error .nulInName
  else if p.isEmpty then .error .notFound
  else if Text.byteLength p ≥ pathLimit then .error .nameTooLong
  else (Text.pieces '/' p).foldlM d.step (Path.start cwd p)

def find (d : Disk) (cwd : Location) (p : Path) : Except DiskFault Entry := do
  match d.entry? (← d.resolve cwd p) with
  | some e => return e
  | none => .error .notFound

def contains (d : Disk) (cwd : Location) (p : Path) : Bool := (d.find cwd p).toOption.isSome

def isDirectory (d : Disk) (cwd : Location) (p : Path) : Bool :=
  match d.find cwd p with
  | .ok .directory => true
  | _ => false

def isFile (d : Disk) (cwd : Location) (p : Path) : Bool :=
  match d.find cwd p with
  | .ok (.file ..) => true
  | _ => false

def read (d : Disk) (cwd : Location) (p : Path) : Except DiskFault Text.Utf8.Bytes := do
  match ← d.find cwd p with
  | .file content _ => return content
  | .directory => .error .isDirectory

def readText (d : Disk) (cwd : Location) (p : Path) : Except DiskFault Text := do
  match Text.Utf8.decode? (← d.read cwd p) with
  | some t => return t
  | none => .error .notText

/-- A file gets its content, and is made if it is not there. -/
def write (d : Disk) (cwd : Location) (p : Path) (content : Text.Utf8.Bytes) :
    Except DiskFault Disk := do
  let l ← d.resolve cwd p
  match d.refuses l with
  | some f => .error f
  | none =>
    match d.entry? l with
    | some .directory => .error .isDirectory
    | some (.file _ executable) => return d.put l (.file content executable)
    | none => return d.put l (.file content false)

def writeText (d : Disk) (cwd : Location) (p : Path) (t : Text) : Except DiskFault Disk :=
  d.write cwd p (Text.Utf8.encode t)

/-- The path without the slashes at its end, unless it has nothing else. -/
def withoutSlashes (p : Path) : Path :=
  match (p.reverse.dropWhile (· = '/')).reverse with
  | [] => p
  | q => q

/-- A directory is made; nothing may stand there yet. -/
def createDirectory (d : Disk) (cwd : Location) (p : Path) : Except DiskFault Disk := do
  let l ← d.resolve cwd (withoutSlashes p)
  match d.entry? l with
  | some _ => .error .alreadyExists
  | none => return d.put l .directory

/-- Makes the first of the paths, after those that follow if they are missing. -/
def createWithParents (cwd : Location) (last : Path) :
    List Path → Disk → Except DiskFault Unit × Disk
  | above, d =>
    match d.createDirectory cwd last with
    | .ok d => (.ok (), d)
    | .error .notFound =>
      match above with
      | [] => (.error .notFound, d)
      | p :: ps =>
        match createWithParents cwd p ps d with
        | (.error f, d) => (.error f, d)
        | (.ok _, d) =>
          match d.createDirectory cwd last with
          | .ok d => (.ok (), d)
          | .error f => (if d.isDirectory cwd last then .ok () else .error f, d)
    | .error f => (if d.isDirectory cwd last then .ok () else .error f, d)

/-- Makes a directory with those above it that are missing; the empty path stands for one that is
there. -/
def createDirectories (d : Disk) (cwd : Location) (p : Path) : Except DiskFault Unit × Disk :=
  if p.isEmpty then (.ok (), d) else createWithParents cwd p (Path.above p) d

/-- Removes a directory with everything below it; whatever is no directory stays. -/
def removeTree (d : Disk) (cwd : Location) (p : Path) : Disk :=
  match d.resolve cwd p with
  | .ok l => if d.entry? l = some .directory then d.erase l else d
  | .error _ => d

/-- The paths of everything below a place, directories with a slash at the end, in order. -/
def below (d : Disk) (l : Location) : List Text :=
  let shown := d.entries.filterMap fun (k, e) =>
    if l.isPrefixOf k && k ≠ l then
      let name := Text.joinWith ['/'] (k.drop l.length)
      some (match e with | .directory => name ++ ['/'] | .file .. => name)
    else none
  shown.mergeSort fun s t => !Text.before t s

@[simp] theorem entry?_root (d : Disk) : d.entry? [] = some .directory := rfl

theorem entry?_of_ne {l : Location} (h : l ≠ []) (d : Disk) :
    d.entry? l = d.entries.lookup l := if_neg h

end Disk
end TestBench
