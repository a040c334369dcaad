import TestBench.Error
import TestBench.Outcome.Normalize
import TestBench.Scenario.Model

/-! Reports of runs: the results with their counts, and the one answer of a run, which is a report
or the error that prevented it. -/
namespace TestBench

/-- Counts over a list of results; timed out and interrupted tests count as failed. -/
structure Summary where
  total : Nat
  passed : Nat
  failed : Nat
  skipped : Nat
  durationMs : UInt64
deriving DecidableEq

def Summary.ofTests (tests : List TestResult) (durationMs : UInt64) : Summary :=
  { total := tests.length
    passed := tests.countP fun t => t.status = .passed
    failed := tests.countP fun t => t.status.isFailure
    skipped := tests.countP fun t => t.status = .skipped
    durationMs }

/-- The report of one run. -/
structure Report where
  ok : Bool
  summary : Summary
  tests : List TestResult
  runnerError : Option Text
  tier : Tier
deriving DecidableEq

namespace Report

def hasFailures (r : Report) : Bool := r.summary.failed > 0

/-- The sum of two numbers, if 64 bits hold it. -/
def addMillis? (m n : UInt64) : Option UInt64 :=
  if m.toNat + n.toNat < UInt64.size then some (m + n) else none

/-- The durations of tests, added one by one. -/
def totalMillis? (tests : List TestResult) : Option UInt64 :=
  tests.foldlM (fun n t => addMillis? n t.durationMs) 0

/-- The duration of a run: stated by the structured report, or by the text, or else the sum of the
durations of its tests, which 64 bits may not hold. -/
def duration? (raw : RawOutput) (tests : List TestResult) : Option UInt64 :=
  ((raw.structured.bind Structured.durationMs).or (Console.textDurationMs raw.combinedText)).or
    (totalMillis? tests)

/-- The report on what a runner left behind, for a duration of the whole run. -/
def lasting (raw : RawOutput) (durationMs : UInt64) : Report :=
  let normalized := normalize raw
  { ok := true
    summary := .ofTests normalized.tests durationMs
    tests := normalized.tests
    runnerError := raw.structured.bind Structured.runnerError
    tier := normalized.tier }

/-- The report on what a runner left behind, unless the sum of the durations overflows. -/
def ofRaw (raw : RawOutput) : Except Error Report :=
  match duration? raw (normalize raw).tests with
  | some durationMs => .ok (lasting raw durationMs)
  | none => .error .overflow

end Report

/-- The answer of a run. -/
structure RunAnswer where
  mode : Mode
  result : Except Error Report

namespace RunAnswer

def report? (a : RunAnswer) : Option Report := a.result.toOption

/-- The message of an error found before anything was executed. -/
def validationError? (a : RunAnswer) : Option Text :=
  match a.result with
  | .ok _ => none
  | .error e => if e.isValidation then some e.message else none

def runnerError? (a : RunAnswer) : Option Text :=
  match a.result with
  | .ok _ => none
  | .error e => if e.isValidation then none else some e.message

def ok (a : RunAnswer) : Bool :=
  match a.result with
  | .ok r => r.ok
  | .error _ => false

/-- One only if neither a report nor a validation error is there; failing tests do not matter. -/
def exitCode (a : RunAnswer) : Nat :=
  if a.report?.isNone && a.validationError?.isNone then 1 else 0

end RunAnswer
end TestBench
