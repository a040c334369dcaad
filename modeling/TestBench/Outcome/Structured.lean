import TestBench.Outcome.Result
import TestBench.Text.Ansi

/-! Results from structured reports. Rich reports have an entry for each test: nested result lists
of files, lists by outcome, a flat list, or a tree of suites. Plain reports have only counts and
failure messages. -/
namespace TestBench
namespace Structured

/-- The text without control sequences, trimmed, unless nothing is left. -/
def cleaned? (t : Text) : Option Text := Text.trimmed? (Text.Ansi.strip t)

/-- The full error of an entry and its headline. -/
structure ErrorParts where
  trace : Option Text
  headline : Option Text
deriving DecidableEq

def itemMessage? : Json → Option Text
  | .string s => cleaned? s
  | v => (v.textAt? "message".toList).bind cleaned?

/-- Texts on lines of their own, unless there are none. -/
def joined? : List Text → Option Text
  | [] => none
  | ts => some (Text.unlines ts)

/-- The full error, and the text from which the headline is taken if it is another one. -/
def errorSources : Option Json → Option Text × Option Text
  | some (.string s) => (cleaned? s, cleaned? s)
  | some (.object ms) =>
    let message := ((ms.lookup "message".toList).bind Json.text?).bind cleaned?
    let stack := ((ms.lookup "stack".toList).bind Json.text?).bind cleaned?
    (stack.or message, message)
  | some (.array vs) =>
    let messages := joined? (vs.filterMap itemMessage?)
    (messages, messages)
  | _ => (none, none)

/-- The parts of an error that is a text, an object with a message and a stack, or a list. -/
def errorParts (v : Option Json) : ErrorParts :=
  let (trace, source) := errorSources v
  ⟨trace, (source.or trace).bind Text.firstLine?⟩

def madeUpName (stem : String) (index : Nat) : Text := stem.toList ++ Text.ofNat (index + 1)

/-- A list under a key, empty if there is none. -/
def listAt (key : String) (v : Json) : List Json := (v.itemsAt? key.toList).getD []

/-- Results of entries in order, each with its index from `n` on. -/
def numberedMap (f : Nat → α → β) : (n : Nat) → List α → List β
  | _, [] => []
  | n, a :: as => f n a :: numberedMap f (n + 1) as

/-- The keys for the name of a flat entry, in order of preference. -/
def flatNameKeys : List Text := ["name".toList, "title".toList, "fullName".toList]

def nestedNameKeys : List Text := ["fullName".toList, "title".toList]

def outcomeNameKeys : List Text := ["fullTitle".toList, "title".toList]

def statusOf (v : Option Json) : Status := ((v.bind Json.text?).map Status.ofWord).getD .unknown

def entryResult (nameKeys : List Text) (index : Nat) (entry : Json) : TestResult :=
  let error := ((entry.get? "error".toList).filter fun v => !v.isNull).or
    (entry.get? "failureMessages".toList)
  let duration := (entry.get? "duration".toList).or (entry.get? "durationMs".toList)
  { name := (entry.firstText? nameKeys).getD (madeUpName "test_" index)
    status := statusOf (entry.get? "status".toList)
    durationMs := (duration.bind Json.millis?).getD 0
    error := (errorParts error).trace
    errorSummary := (errorParts error).headline }

/-- Entries of all files, numbered over the whole report. -/
def nestedEntries? (data : Json) : Option (List Json) :=
  (data.itemsAt? "testResults".toList).map fun files => files.flatMap (listAt "testResults")

def outcomeResult (index : Nat) (entry : Status × Json) : TestResult :=
  let (status, v) := entry
  let parts := if status.isFailure then errorParts (v.get? "err".toList) else ⟨none, none⟩
  { name := (v.firstText? outcomeNameKeys).getD (madeUpName "test_" index)
    status := status
    durationMs := ((v.get? "duration".toList).bind Json.millis?).getD 0
    error := parts.trace
    errorSummary :=
      if status.isFailure then parts.headline.or (some "Test failed".toList) else none }

/-- Entries of the lists by outcome, of which the list of passes has to be there. -/
def outcomeEntries? (data : Json) : Option (List (Status × Json)) :=
  (data.itemsAt? "passes".toList).map fun passes =>
    passes.map (Status.passed, ·) ++ (listAt "failures" data).map (Status.failed, ·) ++
      (listAt "pending" data).map (Status.skipped, ·)

/-- The result of a test in a tree of suites; the last of its retries counts. -/
def treeResult (title : Text) (several : Bool) (test : Json) : TestResult :=
  let project := (test.textAt? "projectName".toList).filter fun p => several && !p.isEmpty
  let last := (test.itemsAt? "results".toList).bind List.getLast?
  let error := last.bind fun r =>
    ((r.get? "error".toList).filter fun v => !v.isNull).or
      ((r.get? "errors".toList).filter fun v => !(v.items?.getD []).isEmpty)
  { name := match project with
      | some p => title ++ " [".toList ++ p ++ [']']
      | none => title
    status := statusOf ((last.bind (Json.get? "status".toList)).or (test.get? "status".toList))
    durationMs := ((last.bind (Json.get? "duration".toList)).bind Json.millis?).getD 0
    error := (errorParts error).trace
    errorSummary := (errorParts error).headline }

/-- The results of a spec: one for each of its tests. -/
def specResults (path : List Text) (spec : Json) : List TestResult :=
  let title := (spec.textAt? "title".toList).getD "Test".toList
  let tests := listAt "tests" spec
  tests.map (treeResult (Text.joinWith " / ".toList (path ++ [title])) (1 < tests.length))

/-- The titles down to a child suite; an empty title adds nothing. -/
def childPath (path : List Text) (child : Json) : List Text :=
  path ++ ((child.textAt? "title".toList).filter fun t => !t.isEmpty).toList

mutual

/-- The results of a suite: those of its specs, then those of its child suites. -/
def suiteResults (path : List Text) : Json → List TestResult
  | .object ms =>
    (listAt "specs" (.object ms)).flatMap (specResults path) ++ memberSuites path ms
  | _ => []

/-- The results of the child suites among the members of a suite. -/
def memberSuites (path : List Text) : List (Text × Json) → List TestResult
  | [] => []
  | (k, v) :: ms => if k = "suites".toList then childSuites path v else memberSuites path ms

def childSuites (path : List Text) : Json → List TestResult
  | .array vs => suiteList path vs
  | _ => []

def suiteList (path : List Text) : List Json → List TestResult
  | [] => []
  | v :: vs => suiteResults (childPath path v) v ++ suiteList path vs

end

/-- The results of a tree; the suites at the top stand for files and are not named. -/
def treeResults? (data : Json) : Option (List TestResult) :=
  (data.itemsAt? "suites".toList).map fun files => files.flatMap (suiteResults [])

def nonEmpty? : List α → Option (List α)
  | [] => none
  | as => some as

def richTests (data : Json) : Option (List TestResult) :=
  (((nestedEntries? data).bind nonEmpty?).map (numberedMap (entryResult nestedNameKeys) 0)).or <|
  (((outcomeEntries? data).bind nonEmpty?).map (numberedMap outcomeResult 0)).or <|
  ((nonEmpty? (listAt "tests" data)).map (numberedMap (entryResult flatNameKeys) 0)).or <|
  (treeResults? data).bind nonEmpty?

/-- The keys for the name and for the error of a listed failure. -/
def failureNameKeys : List Text :=
  ["name".toList, "fullTitle".toList, "title".toList, "test".toList]

def failureErrorKeys : List Text := ["error".toList, "err".toList, "message".toList]

def unknownError : Text := "Unknown error".toList

/-- The name and the error in a message of the form `name: error`. -/
def splitMessage (message : Text) : Text × Text :=
  match Text.splitOnce? ':' message with
  | some (name, rest) => (Text.trim name, (Text.trimmed? rest).getD unknownError)
  | none => (Text.trim message, unknownError)

/-- A listed failure: a message or an object; other values are none. -/
def listedFailure? (index : Nat) : Json → Option TestResult
  | .string message =>
    let (name, error) := splitMessage message
    some (.failed name (some error) (Text.firstLine? error))
  | .object ms =>
    let v := Json.object ms
    let name := (v.firstText? failureNameKeys).getD (madeUpName "Failure_" index)
    let parts := errorParts
      (failureErrorKeys.findSome? fun k => (v.get? k).filter fun e => !e.isNull)
    some (.failed name (parts.trace.or (some unknownError)) (parts.headline.or (some unknownError)))
  | _ => none

/-- The result for a failure known only by count. -/
def countedFailure (name : Text) : TestResult :=
  .failed name none (some "Failure reported without details".toList)

/-- The results of a report with counts and failures: the listed failures, the others counted as
failed, and the passed ones. -/
def legacyTests (data : Json) : Option (List TestResult) :=
  let passed := (data.get? "passed".toList).bind Json.toUInt64?
  let failed := ((data.get? "failed".toList).bind Json.toUInt64?).getD 0
  let failures := data.itemsAt? "failures".toList
  if passed.isNone && failures.isNone then none
  else
    let listed := (numberedMap listedFailure? 0 (failures.getD [])).filterMap id
    nonEmpty? (listed ++
      placeholders "Failure_".toList (listed.length + 1) (failed.toNat - listed.length)
        countedFailure ++
      placeholders "Test_".toList 1 (passed.getD 0).toNat TestResult.passed)

def durationMs (data : Json) : Option UInt64 :=
  ((((data.get? "stats".toList).bind (Json.get? "duration".toList)).or
    (data.get? "durationMs".toList)).or (data.get? "duration".toList)).bind Json.millis?

def runnerMessage? (v : Json) : Option Text :=
  ((v.textAt? "message".toList).or v.text?).bind cleaned?

/-- Errors of the runner itself, such as a test file that could not be loaded. -/
def runnerError (data : Json) : Option Text :=
  joined? ((listAt "errors" data).filterMap runnerMessage?)

end Structured
end TestBench
