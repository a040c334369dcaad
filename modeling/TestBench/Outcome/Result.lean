import TestBench.Json.Basic

/-! Results of single tests: a status, a duration in milliseconds, and for failures the full error
and its headline. -/
namespace TestBench

/-- The outcome of one test. -/
inductive Status where
  | passed
  | failed
  | skipped
  | timedOut
  | interrupted
  | unknown
deriving DecidableEq, Repr

namespace Status

def all : List Status := [passed, failed, skipped, timedOut, interrupted, unknown]

def name : Status → Text
  | passed => "passed".toList
  | failed => "failed".toList
  | skipped => "skipped".toList
  | timedOut => "timedOut".toList
  | interrupted => "interrupted".toList
  | unknown => "unknown".toList

def ofName? (t : Text) : Option Status := all.find? fun s => s.name = t

/-- The words that test runners use, in lower case. -/
def vocabulary : List (Status × List Text) :=
  [(passed, ["passed".toList, "pass".toList, "ok".toList, "success".toList, "expected".toList]),
    (failed, ["failed".toList, "fail".toList, "failure".toList, "error".toList, "broken".toList,
      "unexpected".toList]),
    (skipped, ["skipped".toList, "skip".toList, "pending".toList, "todo".toList,
      "disabled".toList]),
    (timedOut, ["timedout".toList, "timeout".toList]),
    (interrupted, ["interrupted".toList])]

/-- The status that a runner's word stands for; case and white space around it do not matter. -/
def ofWord (t : Text) : Status :=
  let word := Text.toLowerAscii (Text.trim t)
  ((vocabulary.find? fun (_, words) => words.contains word).map (·.1)).getD unknown

def isFailure : Status → Bool
  | failed | timedOut | interrupted => true
  | passed | skipped | unknown => false

end Status

/-- One test and what came of it. -/
structure TestResult where
  name : Text
  status : Status
  durationMs : UInt64
  error : Option Text
  errorSummary : Option Text
deriving DecidableEq

namespace TestResult

def passed (name : Text) : TestResult := ⟨name, .passed, 0, none, none⟩

def failed (name : Text) (error errorSummary : Option Text) : TestResult :=
  ⟨name, .failed, 0, error, errorSummary⟩

end TestResult

/-- A number of milliseconds from a binary64 number: rounded, a half upwards, and at most the
greatest one of 64 bits. -/
def Binary64.toMillis (x : Binary64) : UInt64 := UInt64.ofNatClamp x.roundHalfUp

/-- The duration that a JSON value states: a number that is not negative. -/
def Json.millis? : Json → Option UInt64
  | .number n => (n.toBinary64?.filter Binary64.isNonnegative).map Binary64.toMillis
  | _ => none

/-- The sum, or the greatest number of 64 bits. -/
def clampedAdd (a b : Nat) : Nat := min (a + b) (UInt64.size - 1)

def placeholderLimit : Nat := 1000

/-- Numbered results for tests of which only the count is known. More than the limit are one result
whose name tells the range and the count. -/
def placeholders (stem : Text) (first count : Nat) (make : Text → TestResult) : List TestResult :=
  if count = 0 then []
  else if count > placeholderLimit then
    [make (stem ++ Text.ofNat first ++ "..".toList ++ stem ++
      Text.ofNat (clampedAdd first (count - 1)) ++ " (".toList ++ Text.ofNat count ++
      " tests)".toList)]
  else
    (List.range' first (clampedAdd first count - first)).map fun i => make (stem ++ Text.ofNat i)

end TestBench
