import TestBench.Command.Basic
import TestBench.Json.Skip
import TestBench.Run.Basic
import TestBench.Scenario.Validate
import TestBench.Yaml.Value

/-! Checks and captured output as they are given to commands: in arguments, or in files. -/
namespace TestBench

/-- The JSON value of a text, which is called by its name if it is none. -/
def readJson (name t : Text) : Except Error Json :=
  (Json.parse t).mapError fun f =>
    .validation (name ++ " is not valid JSON: ".toList ++ f.message)

def readYaml (name t : Text) : Except Error Json :=
  match Yaml.parse? t with
  | some v => .ok v
  | none => .error (.validation (name ++ " is not valid YAML: not a single document".toList))

def unwrapTests (v : Json) : Json :=
  match v.itemsAt? "tests".toList with
  | some vs => .array vs
  | none => v

/-- Whether a file is written in YAML; any other one is JSON. -/
def isYamlFile (p : Path) : Bool :=
  Path.extension? p = some "yaml".toList || Path.extension? p = some "yml".toList

def readInput (cwd : Location) (p : Path) : Action Text :=
  Action.readText cwd p fun f => .fileRead p f.message

def readScenarioFile (cwd : Location) (p : Path) : Action Json := do
  let t ← readInput cwd p
  let v ← if isYamlFile p then readYaml p t else readJson p t
  return unwrapTests v

namespace CheckSource

/-- The requests of a source, given in full or as a list of paths. -/
def requestList (s : CheckSource) : Except Error (List Request) :=
  match s.requests, s.endpoints with
  | some t, _ => do
    let raw ← readJson "requests".toList t
    (Request.validateAll raw).mapError fun f => .validation f.message
  | none, some list => (Request.ofEndpoints list).mapError fun f => .validation f.message
  | none, none => .error (.validation "API mode needs --requests or --endpoints".toList)

def headerList (s : CheckSource) : Except Error Headers :=
  match s.headers with
  | some t => do
    let raw ← readJson "headers".toList t
    (Headers.validate raw).mapError fun f => .validation f.message
  | none => .ok []

def rawScenarios (cwd : Location) (s : CheckSource) : Action Json :=
  match s.uiSpec, s.uiSpecFile with
  | some t, _ => readJson "uiSpec".toList t
  | none, some p => readScenarioFile cwd p
  | none, none => throw (.validation "UI mode needs --ui-spec or --ui-spec-file".toList)

/-- The checks of a source and the base address they belong to. -/
def load (cwd : Location) (s : CheckSource) : Action (CheckSet × Text) := do
  let base ← validBase s.baseUrl
  match s.mode with
  | .api =>
    let requests ← s.requestList
    return (.api ⟨requests, ← s.headerList⟩, base)
  | .ui =>
    let raw ← s.rawScenarios cwd
    let scenarios ← (Scenario.validateAll raw).mapError fun f => Error.validation f.message
    return (.ui scenarios, base)

end CheckSource

def readReportFile (cwd : Location) : Option Path → Action (Option Json)
  | none => return none
  | some p => do
    let t ← Action.readText cwd p fun f => .reportUnreadable p f.message
    match Json.parse t with
    | .ok v => return some v
    | .error f => throw (.reportUnreadable p f.message)

def readCapture (cwd : Location) : Option Path → Action Text
  | none => return []
  | some p => readInput cwd p

/-- What a runner left behind in files; the report is read first. -/
def readRawOutput (cwd : Location) (stdout stderr structured : Option Path)
    (exitCode : Option Int) : Action RawOutput := do
  let structured ← readReportFile cwd structured
  let stdout ← readCapture cwd stdout
  let stderr ← readCapture cwd stderr
  return { structured, stdout, stderr, exitCode }

end TestBench
