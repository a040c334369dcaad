import TestBench.Config.Basic
import TestBench.Json.Reader
import TestBench.Outcome.Normalize

/-! Executing the test runner. How the runner behaves is a parameter; what it is started with, and
what is made of its ending, is decided here. -/
namespace TestBench

/-- What a program is started with. The first value of a variable counts. -/
structure Launch where
  program : Path
  arguments : List Text
  environment : List (Text × Text)
  directory : Path
deriving DecidableEq

/-- How a program ends: by itself or by a signal, by exceeding its time, or by an interruption. -/
inductive Ending where
  | exited (code : Option Int) (stdout stderr : Text.Utf8.Bytes)
  | overdue
  | interrupted

/-- The behaviour of programs: from the directory in which one is started to its ending and the disk
that it leaves, or to the reason why it cannot be started. -/
abbrev Behaviour := Location → Launch → Disk → Except DiskFault Ending × Disk

/-- Where a command runs: the current directory, the user's directories, as far as they are known,
the programs that are found by name, and how programs behave. -/
structure Host where
  cwd : Location
  configHome : Option Path
  dataHome : Option Path
  tempDir : Path
  search : Text → Option Path
  behave : Behaviour

namespace Host

def ownName : Text := "qa-harness".toList

def configFile? (h : Host) : Option Path :=
  h.configHome.map fun p => Path.join (Path.join p ownName) "config.toml".toList

def logDir? (h : Host) : Option Path :=
  h.dataHome.map fun p => Path.join (Path.join p ownName) "logs".toList

/-- The root of the sessions, if none is configured. -/
def sessionsDir (h : Host) : Path :=
  Path.join (Path.join (h.dataHome.getD h.tempDir) ownName) "sessions".toList

/-- A program that is not there, with the place where another one can be set. -/
def runnerNotFound (h : Host) (program : Text) : Error :=
  .runnerNotFound program (h.configFile?.getD "config.toml".toList)

/-- The path of a program: one with a slash is used as it is, any other one is searched by its
name. -/
def resolveProgram (h : Host) (program : Text) : Action Path := do
  if '/' ∈ program then
    let path := if Path.isAbsolute program then program
      else Path.join (Path.ofLocation h.cwd) program
    if (← get).isFile h.cwd path then return path
    throw (h.runnerNotFound program)
  else match h.search program with
    | some path => return path
    | none => throw (h.runnerNotFound program)

/-- The texts that a program is started with cannot hold a zero character. -/
def hasNul (l : Launch) : Bool :=
  let texts := [l.program, l.directory] ++ l.arguments ++
    l.environment.flatMap fun (k, v) => [k, v]
  texts.any fun t => Char.ofNat 0 ∈ t

/-- The ending of a program that is started in its directory. -/
def start (h : Host) (l : Launch) (d : Disk) : Except DiskFault Ending × Disk :=
  if hasNul l then (.error .nulInData, d)
  else match d.resolve h.cwd l.directory, d.find h.cwd l.directory with
    | .ok place, .ok .directory => h.behave place l d
    | _, .ok (.file ..) => (.error .notDirectory, d)
    | _, .error f => (.error f, d)
    | .error f, _ => (.error f, d)

end Host

/-- The variable that tells the runner where to put its report. -/
def reportVariable : Text := "PLAYWRIGHT_JSON_OUTPUT_NAME".toList

/-- The variable by which the program finds the modules of the runner. -/
def modulesVariable : Text := "NODE_PATH".toList

/-- What the runner of a session is started with; configured variables come first. -/
def Launch.ofSession (program : Path) (s : Session) (o : RunOptions) (c : Config) : Launch :=
  { program
    arguments := c.runner.arguments ++ o.flags s
    environment := c.runner.environment ++ (reportVariable, s.reportFile) ::
      (c.runner.workingDir.map fun dir =>
        (modulesVariable, Path.join dir "node_modules".toList)).toList
    directory := c.runner.workingDir.getD s.directory }

namespace Session

def readReport (cwd : Location) (s : Session) : Action Json := do
  let unreadable (reason : Text) : Error := .reportUnreadable s.reportFile reason
  let t ← Action.readText cwd s.reportFile fun f => unreadable f.message
  match Json.parse t with
  | .ok v => return v
  | .error f => throw (unreadable f.message)

/-- Runs the program of a session; any exit code will do as long as there is a report. -/
def execute (h : Host) (s : Session) (o : RunOptions) (c : Config) : Action RawOutput := do
  let program ← h.resolveProgram c.runner.program
  let (result, d) := h.start (Launch.ofSession program s o c) (← get)
  set d
  match result with
  | .error f => throw (.runnerSpawn (program ++ ": ".toList ++ f.message))
  | .ok .overdue => throw (.runnerTimeout c.harness.processTimeout)
  | .ok .interrupted => throw .cancelled
  | .ok (.exited code stdout stderr) =>
    return {
      structured := some (← s.readReport h.cwd)
      stdout := Text.Utf8.decodeLossy stdout
      stderr := Text.Utf8.decodeLossy stderr
      exitCode := code }

end Session
end TestBench
