import TestBench.Command.Options
import TestBench.Files.Path
import TestBench.Scenario.Model

/-! The commands and the options that they take. -/
namespace TestBench

/-- How results are printed. -/
inductive Format where
  | json
  | text
deriving DecidableEq, Repr

/-- Where checks come from. -/
structure CheckSource where
  mode : Mode
  baseUrl : Text
  requests : Option Text := none
  endpoints : Option Text := none
  headers : Option Text := none
  uiSpec : Option Text := none
  uiSpecFile : Option Path := none
deriving DecidableEq

inductive Command where
  | run (source : CheckSource) (session : Text) (headed : Bool) (workers : Option UInt32)
      (timeoutMs : Option UInt64) (keep : Bool) (format : Format) (junit : Option Path)
  | validate (source : CheckSource)
  | compile (source : CheckSource) (timeoutMs : Option UInt64) (runnerConfig : Bool)
  | normalize (stdout stderr structured : Option Path) (exitCode : Option Int)
      (format : Format) (junit : Option Path)
  | retype (step kind : Text)
deriving DecidableEq

/-- A command with the options that belong to all of them. -/
structure Invocation where
  config : Option Path
  verbose : Bool
  command : Command
deriving DecidableEq

namespace Command

def option (name : String) : OptionForm := { names := [name.toList] }

def flag (name : String) : OptionForm := { names := [name.toList], takesValue := false }

def globalForms : List OptionForm :=
  [option "config", { names := ["verbose".toList, "v".toList], takesValue := false }]

def sourceForms : List OptionForm :=
  [option "mode", { names := ["base-url".toList, "baseUrl".toList] }, option "requests",
    option "endpoints", option "headers", { names := ["ui-spec".toList, "uiSpec".toList] },
    option "ui-spec-file"]

def required (g : Given) (key : String) : Except Refusal Text :=
  match g.value? key with
  | some v => .ok v
  | none => .error .usage

/-- A value that is read, if it is there. -/
def optional (g : Given) (key : String) (read : Text → Option α) : Except Refusal (Option α) :=
  match g.value? key with
  | none => .ok none
  | some v => match read v with
    | some a => .ok (some a)
    | none => .error .usage

def apart (g : Given) (a b : String) : Except Refusal Unit :=
  if g.has a && g.has b then .error .usage else .ok ()

def path? (t : Text) : Option Path := if t.isEmpty then none else some t

def format? (t : Text) : Option Format :=
  if t = "json".toList then some .json else if t = "text".toList then some .text else none

def uint32? (t : Text) : Option UInt32 :=
  (Arguments.intIn? 0 4294967295 t).map fun i => UInt32.ofNat i.toNat

def uint64? (t : Text) : Option UInt64 :=
  if t.head? = some '-' then none
  else (Arguments.intIn? 0 18446744073709551615 t).map fun i => UInt64.ofNat i.toNat

def int32? (t : Text) : Option Int := Arguments.intIn? (-2147483648) 2147483647 t

def sourceOf (g : Given) : Except Refusal CheckSource := do
  apart g "requests" "endpoints"
  apart g "ui-spec" "ui-spec-file"
  let some mode := Mode.ofName? (← required g "mode") | .error .usage
  let baseUrl ← required g "base-url"
  let uiSpecFile ← optional g "ui-spec-file" path?
  return { mode, baseUrl, uiSpecFile, requests := g.value? "requests",
           endpoints := g.value? "endpoints", headers := g.value? "headers",
           uiSpec := g.value? "ui-spec" }

def withoutWords (forms : List OptionForm) (args : List Text) : Except Refusal Given := do
  let g ← Arguments.collect (forms ++ globalForms) args {}
  if g.words.isEmpty then return g else .error .usage

def parseRun (args : List Text) : Except Refusal (Command × Given) := do
  let g ← withoutWords (sourceForms ++ [option "session", flag "headed", option "workers",
    option "timeout-ms", flag "keep-session", option "format", option "junit"]) args
  let source ← sourceOf g
  let session ← required g "session"
  let workers ← optional g "workers" uint32?
  let timeoutMs ← optional g "timeout-ms" uint64?
  let format ← optional g "format" format?
  let junit ← optional g "junit" path?
  return (.run source session (g.has "headed") workers timeoutMs (g.has "keep-session")
    (format.getD .json) junit, g)

def parseValidate (args : List Text) : Except Refusal (Command × Given) := do
  let g ← withoutWords sourceForms args
  return (.validate (← sourceOf g), g)

def parseCompile (args : List Text) : Except Refusal (Command × Given) := do
  let g ← withoutWords (sourceForms ++ [option "timeout-ms", flag "runner-config"]) args
  let source ← sourceOf g
  let timeoutMs ← optional g "timeout-ms" uint64?
  return (.compile source timeoutMs (g.has "runner-config"), g)

def parseNormalize (args : List Text) : Except Refusal (Command × Given) := do
  let exitCode : OptionForm := { names := ["exit-code".toList], hyphens := true }
  let g ← withoutWords [option "stdout", option "stderr", option "structured", exitCode,
    option "format", option "junit"] args
  let stdout ← optional g "stdout" path?
  let stderr ← optional g "stderr" path?
  let structured ← optional g "structured" path?
  let code ← optional g "exit-code" int32?
  let format ← optional g "format" format?
  let junit ← optional g "junit" path?
  return (.normalize stdout stderr structured code (format.getD .json) junit, g)

def parseRetype (args : List Text) : Except Refusal (Command × Given) := do
  let g ← Arguments.collect (option "to" :: globalForms) args {}
  match g.words with
  | [step] => return (.retype step (← required g "to"), g)
  | _ => .error .usage

def parseNamed (name : Text) (args : List Text) : Except Refusal (Command × Given) :=
  match String.ofList name with
  | "run" => parseRun args
  | "validate" => parseValidate args
  | "compile" => parseCompile args
  | "normalize" => parseNormalize args
  | "retype" => parseRetype args
  | "help" => .error .help
  | _ => .error .usage

def asksVersion (args : List Text) : Bool :=
  match (args.dropWhile fun a => a = "-v".toList ∨ a = "--verbose".toList).head? with
  | some a => a = "--version".toList ∨ a = "-V".toList
  | none => false

def parse (args : List Text) : Except Refusal Invocation := do
  if asksVersion args then .error .version
  let (top, word) ← Arguments.untilWord globalForms args {}
  let some (name, rest) := word | .error .usage
  let (command, own) ← parseNamed name rest
  let topConfig ← optional top "config" path?
  let ownConfig ← optional own "config" path?
  return { config := ownConfig.or topConfig
           verbose := top.has "verbose" || own.has "verbose"
           command }

end Command
end TestBench
