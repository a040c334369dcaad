import TestBench.Command.Dispatch
import TestBench.Script.Basic

/-! The command line. What the paths in the arguments, in the configuration and in the script of the
runner lead to is read into a disk, the arguments are carried out on that disk, and what they
changed is written back. Runners are scripts here. -/
namespace TestBench
namespace CommandLine

def inText (p : Path) : String := String.ofList p

def look (l : Location) : IO (Option Entry) := do
  try
    let bytes := (← IO.FS.readBinFile (inText (Path.ofLocation l))).toList
    return some (.file bytes (bytes.take 2 = [35, 33]))
  catch
    | .inappropriateType .. => return some .directory
    | _ => return none

/-- The disk with the place that a path leads to, and with those above it. -/
def addPath (cwd : Location) (d : Disk) (p : Path) : IO Disk := do
  let l := Path.locate cwd p
  let mut d := d
  for k in [1:l.length + 1] do
    let place := l.take k
    if (d.entry? place).isNone then
      match ← look place with
      | some e => d := d.put place e
      | none => return d
  return d

def addPaths (cwd : Location) (d : Disk) (ps : List Path) : IO Disk := ps.foldlM (addPath cwd) d

def pathWords (t : Text) : List Path :=
  let spaced := t.map fun c => if c.isAlphanum || c ∈ "/._-+".toList then c else ' '
  ((Text.pieces ' ' spaced).filter fun w => !w.isEmpty).eraseDups

def argumentPaths (a : Text) : List Path := a :: ((Text.splitOnce? '=' a).map Prod.snd).toList

def userDirectory (home : Path) (name fallback : String) : IO Path := do
  match ← IO.getEnv name with
  | some p => if Path.isAbsolute p.toList then return p.toList
  | none => pure ()
  return Path.join home fallback.toList

def searchProgram (cwd : Location) (directories : List Path) (name : Text) : IO (Option Path) := do
  for dir in directories do
    let path := Path.join dir name
    match ← look (Path.locate cwd path) with
    | some (.file ..) => return some path
    | _ => pure ()
  return none

/-- The place where the command runs, before its configuration is known. -/
def currentHost : IO Host := do
  let cwd := Path.locate [] (toString (← IO.currentDir)).toList
  let home := (← IO.getEnv "HOME").map String.toList
  return {
    cwd
    configHome := ← home.mapM fun p => userDirectory p "XDG_CONFIG_HOME" ".config"
    dataHome := ← home.mapM fun p => userDirectory p "XDG_DATA_HOME" ".local/share"
    tempDir := ((← IO.getEnv "TMPDIR").getD "/tmp").toList
    search := fun _ => none
    behave := Script.behave }

def configOf (h : Host) (args : List Text) (d : Disk) : Config :=
  match Command.parse args with
  | .ok i =>
    match Config.load h i.config d with
    | (.ok c, _) => c
    | (.error _, _) => {}
  | .error _ => {}

def runPaths (h : Host) (c : Config) (names : List Text) : List Path :=
  let sessions := c.harness.sessionsDir.getD h.sessionsDir
  [c.runner.program, sessions] ++ c.runner.workingDir.toList ++
    names.map (Path.join sessions)

def scriptPaths (h : Host) (c : Config) (d : Disk) : List Path :=
  match d.readText h.cwd c.runner.program with
  | .ok t => (pathWords t).map (Path.join (c.runner.workingDir.getD []))
  | .error _ => []

/-- Writes what is new or different, and removes what is gone. -/
def writeBack (old new : Disk) : IO Unit := do
  let deeper (x y : Location × Entry) : Bool := x.1.length ≤ y.1.length
  let gone := old.entries.filter fun (l, _) => (new.entry? l).isNone
  for (l, e) in (gone.mergeSort deeper).reverse do
    let p := inText (Path.ofLocation l)
    match e with
    | .directory => IO.FS.removeDirAll p
    | .file .. => IO.FS.removeFile p
  let changed := new.entries.filter fun (l, e) => old.entry? l ≠ some e
  for (l, e) in changed.mergeSort deeper do
    let p := inText (Path.ofLocation l)
    match e with
    | .directory => IO.FS.createDirAll p
    | .file content _ => IO.FS.writeBinFile p (ByteArray.mk content.toArray)

def perform (args : List Text) : IO Finished := do
  let h ← currentHost
  let given := args.flatMap argumentPaths
  let own := h.configFile?.toList ++
    (h.logDir?.map fun dir => Path.join dir "qa-harness.log".toList).toList
  let d ← addPaths h.cwd { entries := [] } ([['.']] ++ given ++ own)
  let c := configOf h args d
  let d ← addPaths h.cwd d (runPaths h c given)
  let d ← addPaths h.cwd d (scriptPaths h c d)
  let directories := Text.pieces ':' ((← IO.getEnv "PATH").getD "").toList
  let found ← searchProgram h.cwd directories c.runner.program
  let d ← addPaths h.cwd d found.toList
  let h := { h with search := fun name => if name = c.runner.program then found else none }
  let colored := (← (← IO.getStdout).isTty) && (← IO.getEnv "NO_COLOR").isNone
  let (finished, after) := Finished.ofArguments h ⟨colored⟩ args d
  writeBack d after
  return finished

end CommandLine
end TestBench

def main (args : List String) : IO UInt32 := do
  let finished ← TestBench.CommandLine.perform (args.map String.toList)
  IO.print (String.ofList finished.stdout)
  IO.eprint (String.ofList finished.stderr)
  return UInt32.ofNat finished.exitCode
