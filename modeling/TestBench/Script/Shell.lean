import TestBench.Files.Disk
import TestBench.Script.Syntax

/-! The state in which a script runs, the streams of its commands, and the ways in which it
stops. -/
namespace TestBench
namespace Script

open Text.Utf8 (Bytes)

/-- Where the output of a command goes. -/
inductive Sink where
  | stdout
  | stderr
  | pipe
  | file (l : Location)

/-- The streams of a command: the bytes that it may read, and where it writes. -/
structure Streams where
  input : Bytes := []
  out : Sink := .stdout
  err : Sink := .stderr

/-- How a script stops early: by itself, by a signal, or not at all within its steps. -/
inductive Stop where
  | exited (status : Nat)
  | killed
  | endless

structure Shell where
  name : Text
  disk : Disk
  cwd : Location
  bindings : List (Text × Text)
  arguments : List Text
  status : Nat := 0
  strict : Bool := false
  stdout : Bytes := []
  stderr : Bytes := []
  pipe : Bytes := []

abbrev Shelling := ExceptT Stop (StateM Shell)

def appendTo (d : Disk) (l : Location) (bs : Bytes) : Disk :=
  match d.entry? l with
  | some (.file content executable) => d.put l (.file (content ++ bs) executable)
  | _ => d

def put (sink : Sink) (bs : Bytes) : Shelling Unit :=
  modify fun s =>
    match sink with
    | .stdout => { s with stdout := s.stdout ++ bs }
    | .stderr => { s with stderr := s.stderr ++ bs }
    | .pipe => { s with pipe := s.pipe ++ bs }
    | .file l => { s with disk := appendTo s.disk l bs }

def say (sink : Sink) (t : Text) : Shelling Unit := put sink (Text.Utf8.encode t)

/-- A message of a tool, which fails. -/
def complain (st : Streams) (tool : String) (t : Text) : Shelling Nat := do
  say st.err (tool.toList ++ ": ".toList ++ t ++ ['\n'])
  return 1

def getVariable (name : Text) : Shelling Text := do
  return ((← get).bindings.lookup name).getD []

def setVariable (name value : Text) : Shelling Unit :=
  modify fun s => { s with bindings := (name, value) :: s.bindings.filter fun v => v.1 ≠ name }

def faultText (f : DiskFault) : Text :=
  let t := f.message
  ((Text.splitOnce? '(' t).map fun (a, _) => Text.trimEnd a).getD t

def change (st : Streams) (tool : String) (p : Path) (f : Disk → Location → Except DiskFault Disk) :
    Shelling Nat := do
  let s ← get
  match f s.disk s.cwd with
  | .ok d =>
    set { s with disk := d }
    return 0
  | .error fault => complain st tool (p ++ ": ".toList ++ faultText fault)

/-- The status of several steps: that of the last one that failed. -/
def eachOf (ps : List Path) (f : Path → Shelling Nat) : Shelling Nat :=
  ps.foldlM (fun status p => do
    let next ← f p
    return if next = 0 then status else next) 0

end Script
end TestBench
