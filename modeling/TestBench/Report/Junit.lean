import TestBench.Decimal.Shortest
import TestBench.Report.Basic
import TestBench.Xml

/-! Reports as JUnit documents with one suite: failed tests are failures, timed out and interrupted
ones are errors. -/
namespace TestBench
namespace Junit

/-- Milliseconds as seconds with three places; the quotient is taken in binary64. -/
def seconds (ms : UInt64) : Text :=
  let quotient := (Binary64.ofNat? ms.toNat).bind fun x =>
    (Binary64.ofNat? 1000).bind fun y => Binary64.div? x y
  (quotient.getD default).fixedText 3

def isError (s : Status) : Bool := s = .timedOut || s = .interrupted

def failureCount (tests : List TestResult) : Nat := tests.countP fun t => t.status = .failed

def errorCount (tests : List TestResult) : Nat := tests.countP fun t => isError t.status

def testcase (suite : Text) (t : TestResult) : Xml :=
  let name := "testcase".toList
  let attributes := [("name".toList, t.name), ("classname".toList, suite),
    ("time".toList, seconds t.durationMs)]
  let problem (kind type : Text) : Xml :=
    .textual kind [("message".toList, t.errorSummary.getD []), ("type".toList, type)]
      (t.error.getD [])
  match t.status with
  | .passed | .unknown => .leaf name attributes
  | .skipped => .branch name attributes [.leaf "skipped".toList []]
  | .failed => .branch name attributes [problem "failure".toList "failed".toList]
  | .timedOut | .interrupted => .branch name attributes [problem "error".toList t.status.name]

/-- The attributes of the suite, and of the document's root. -/
def suiteAttributes (suite : Text) (r : Report) : List (Text × Text) :=
  [("name".toList, suite), ("tests".toList, Text.ofNat r.summary.total),
    ("failures".toList, Text.ofNat (failureCount r.tests)),
    ("errors".toList, Text.ofNat (errorCount r.tests)),
    ("skipped".toList, Text.ofNat r.summary.skipped),
    ("time".toList, seconds r.summary.durationMs)]

def root (suite : Text) (r : Report) : Xml :=
  let attributes := suiteAttributes suite r
  let runner := (r.runnerError.map fun e => Xml.textual "system-err".toList [] e).toList
  .branch "testsuites".toList attributes
    [.branch "testsuite".toList attributes (runner ++ r.tests.map (testcase suite))]

def render (suite : Text) (r : Report) : Text := (root suite r).document

end Junit
end TestBench
