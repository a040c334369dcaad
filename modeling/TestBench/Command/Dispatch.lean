import TestBench.Command.Input
import TestBench.Report.Junit
import TestBench.Report.Screen

/-! Carrying out commands. Each prints exactly one result; an error of a run is part of its result,
and any other error is left to the caller. -/
namespace TestBench

/-- What a command prints, and its exit code. -/
structure Printed where
  text : Text
  exitCode : Nat
deriving DecidableEq

namespace Printed

def document (v : Json) (exitCode : Nat) : Printed := ⟨Screen.document v, exitCode⟩

def ofAnswer (p : Screen.Palette) (format : Format) (a : RunAnswer) : Printed :=
  match format with
  | .json => document a.toJson a.exitCode
  | .text => ⟨Screen.answer p a, a.exitCode⟩

def ofReport (p : Screen.Palette) (format : Format) (r : Report) : Printed :=
  match format with
  | .json => document r.toJson 0
  | .text => ⟨Screen.report p r, 0⟩

end Printed

namespace Action

/-- The result of an action, also if it is an error; only an overflow is no result. -/
def outcome (a : Action α) : Action (Except Error α) := fun d =>
  match a d with
  | (.error .overflow, d) => (.error .overflow, d)
  | (result, d) => (.ok result, d)

end Action

namespace Command

/-- The JUnit document of a report in a file; if it cannot be written, nothing else changes. -/
def writeJunit (cwd : Location) (suite : Text) (r : Report) : Option Path → Action Unit
  | none => return
  | some p => modify fun d => ((d.writeText cwd p (Junit.render suite r)).toOption).getD d

/-- The options of a run: those of the command, and the configured ones for what it leaves open. -/
def optionsWith (c : Config) (headed : Bool) (workers : Option UInt32) (timeoutMs : Option UInt64) :
    RunOptions :=
  { headed := headed || c.defaults.headed
    workers := workers.getD c.defaults.workers
    timeoutMs := timeoutMs.or c.defaults.timeoutMs }

def report (h : Host) (c : Config) (s : CheckSource) (session : Text) (o : RunOptions)
    (keep : Bool) : Action Report := do
  let (set, base) ← s.load h.cwd
  let harness := { c.harness with keepSessions := c.harness.keepSessions || keep }
  runChecks h set base session o { c with harness }

/-- The normalized form of the checks of a source, or the answer that they are not valid. -/
def validated (cwd : Location) (s : CheckSource) : Action Printed := do
  match ← Action.outcome (s.load cwd) with
  | .ok (set, base) =>
    return .document (.ofMembers [("ok".toList, .bool true), ("mode".toList, set.mode.toJson),
      ("baseUrl".toList, .string base), ("scenarios".toList, set.toJson)]) 0
  | .error e =>
    if e.isValidation then
      let a : RunAnswer := ⟨s.mode, .error e⟩
      return .document a.toJson a.exitCode
    throw e

def compiled (cwd : Location) (c : Config) (s : CheckSource) (timeoutMs : Option UInt64) :
    Action Printed := do
  let (set, base) ← s.load cwd
  let program ← compileChecks (timeoutMs.or c.defaults.timeoutMs) base set
  return ⟨program.source, 0⟩

/-- The draft in a JSON text, changed to the kind of a name. -/
def retyped (step kind : Text) : Except Error Printed := do
  let wrong (reason : Text) : Error :=
    .validation ("step is not a valid step draft: ".toList ++ reason)
  let v ← (Json.readRecord Draft.fieldNames step).mapError fun f => wrong f.message
  let some draft := Draft.ofWritten? v | .error (wrong "wrong fields".toList)
  let some kind := StepKind.ofName? kind
    | .error (.validation ("unsupported step type '".toList ++ kind ++ ['\'']))
  return .document (draft.retype kind).toJson 0

def dispatch (h : Host) (p : Screen.Palette) (c : Config) : Command → Action Printed
  | run source session headed workers timeoutMs keep format junit => do
    let options := optionsWith c headed workers timeoutMs
    let result ← Action.outcome (report h c source session options keep)
    let answer : RunAnswer := ⟨source.mode, result⟩
    match result with
    | .ok r => writeJunit h.cwd session r junit
    | .error _ => return .ofAnswer p format answer
    return .ofAnswer p format answer
  | validate source => validated h.cwd source
  | compile source timeoutMs runnerConfig =>
    if runnerConfig then return ⟨TestBench.runnerConfig, 0⟩
    else compiled h.cwd c source timeoutMs
  | normalize stdout stderr structured exitCode format junit => do
    let r ← Report.ofRaw (← readRawOutput h.cwd stdout stderr structured exitCode)
    writeJunit h.cwd "qa-harness".toList r junit
    return .ofReport p format r
  | retype step kind => retyped step kind

end Command

namespace Config

def readFile (cwd : Location) (p : Path) : Action Config := do
  Config.parse (← readInput cwd p)

/-- The configuration in a given file, else the user's one if there is any. -/
def load (h : Host) : Option Path → Action Config
  | some p => readFile h.cwd p
  | none => do
    match h.configFile? with
    | some p => if (← get).contains h.cwd p then readFile h.cwd p else return {}
    | none => return {}

end Config

namespace Invocation

def perform (h : Host) (p : Screen.Palette) (i : Invocation) : Action Printed := do
  i.command.dispatch h p (← Config.load h i.config)

end Invocation

/-- What remains of a whole process: what it wrote, and its exit code. -/
structure Finished where
  stdout : Text := []
  stderr : Text := []
  exitCode : Nat
deriving DecidableEq

namespace Finished

def versionLine : Text := "qa-harness 0.1.0\n".toList

def usageLine : Text :=
  "Usage: qa-harness [OPTIONS] run|validate|compile|normalize|retype [ARGUMENTS]\n".toList

/-- The log file, in its directory. -/
def openLog (h : Host) (d : Disk) : Disk :=
  match h.logDir? with
  | none => d
  | some dir =>
    match d.createDirectories h.cwd dir with
    | (.error _, d) => d
    | (.ok _, d) =>
      let file := Path.join dir "qa-harness.log".toList
      if d.contains h.cwd file then d else ((d.write h.cwd file []).toOption).getD d

def ofArguments (h : Host) (p : Screen.Palette) (args : List Text) (d : Disk) :
    Finished × Disk :=
  match Command.parse args with
  | .error .version => ({ stdout := versionLine, exitCode := 0 }, d)
  | .error .help => ({ stdout := usageLine, exitCode := 0 }, d)
  | .error .usage => ({ stderr := usageLine, exitCode := 2 }, d)
  | .ok i =>
    match i.perform h p (openLog h d) with
    | (.ok printed, d) => ({ stdout := printed.text, exitCode := printed.exitCode }, d)
    | (.error .overflow, d) => ({ stderr := Error.overflow.message ++ ['\n'], exitCode := 101 }, d)
    | (.error e, d) =>
      ({ stderr := "Error: ".toList ++ e.message ++ ['\n'], exitCode := 1 }, d)

end Finished
end TestBench
