import TestBench.Outcome.ConsoleLine

/-! Results from console text, read line by line. Lines of tests give the results. The detail of a
failure is in a block with a header of its name, or indented under its cross. Text without such
lines is judged by its last line with counts. -/
namespace TestBench
namespace Console

def genericSummary : Text := "See output for details".toList

/-- What a failure block tells. -/
structure FailureDetail where
  summary : Text
  trace : Text
deriving DecidableEq

def errorLine? (line : Text) : Option Text :=
  (Text.dropPrefix? "E ".toList line).bind Text.trimmed?

/-- The last two of a list, or fewer. -/
def lastTwo (as : List α) : List α := as.drop (as.length - 2)

/-- The detail in the lines of a block: its error lines, or its last two lines, make the summary. -/
def FailureDetail.ofLines (lines : List Text) : FailureDetail :=
  { summary := match lines.filterMap errorLine? with
      | [] => Text.joinWith [' '] (lastTwo (lines.filterMap Text.trimmed?))
      | errors => Text.unlines errors
    trace := Text.trim (Text.unlines lines) }

/-- A test that a line reports, with the detail indented under it. -/
structure Entry where
  name : Text
  status : Status
  durationMs : UInt64
  detail : Option Text
deriving DecidableEq

/-- The failure block that is open, with its lines, the last one first. -/
inductive OpenBlock where
  | closed
  | header (name : Text) (lines : List Text)
  | indented (indent : Nat) (lines : List Text)
deriving DecidableEq

/-- What has been read: entries and blocks, the last ones first, and the block that is open. An
indented block belongs to the last entry. -/
structure Scan where
  entries : List Entry
  blocks : List (Text × FailureDetail)
  openBlock : OpenBlock
deriving DecidableEq

namespace Scan

def start : Scan := ⟨[], [], .closed⟩

/-- The entries with the lines indented under the last of them. -/
def attach (lines : List Text) : List Entry → List Entry
  | [] => []
  | e :: es => { e with detail := match lines with
      | [] => none
      | _ => some (Text.unlines (lines.map Text.trim)) } :: es

/-- Blocks with one more; the first one of a name stays. -/
def addBlock (name : Text) (lines : List Text) (blocks : List (Text × FailureDetail)) :
    List (Text × FailureDetail) :=
  if (blocks.lookup name).isSome then blocks else (name, FailureDetail.ofLines lines) :: blocks

def close (s : Scan) : Scan :=
  match s.openBlock with
  | .closed => s
  | .header name lines =>
    { s with blocks := addBlock name lines.reverse s.blocks, openBlock := .closed }
  | .indented _ lines => { s with entries := attach lines.reverse s.entries, openBlock := .closed }

def push (e : Entry) (s : Scan) : Scan := { s with entries := e :: s.entries }

def indentOf (line : Text) : Nat := Text.byteLength (line.takeWhile Text.isBlank)

/-- Whether a line belongs to the detail under an entry that is itself indented so far. -/
def isDetail (indent : Nat) (line : Text) : Bool :=
  !Text.isBlankText line && indentOf line > indent && (ConsoleLine.checkmark? line).isNone

/-- A line outside of blocks. A cross opens an indented block. -/
def readStatus (s : Scan) (line : Text) : Scan :=
  match ConsoleLine.named? line with
  | some (name, word) => s.push ⟨name, Status.ofWord word, 0, none⟩
  | none =>
    match ConsoleLine.checkmark? line with
    | none => s
    | some c =>
      if c.passed then s.push ⟨Text.trim c.title, .passed, c.millis, none⟩
      else { s.push ⟨Text.trim c.title, .failed, c.millis, none⟩ with
        openBlock := .indented (indentOf line) [] }

def step (s : Scan) (line : Text) : Scan :=
  match ConsoleLine.blockHeader? line with
  | some name => { s.close with openBlock := .header name [] }
  | none =>
    match s.openBlock with
    | .closed => s.readStatus line
    | .header name lines =>
      if ConsoleLine.isBlockEnd line then s.close
      else { s with openBlock := .header name (line :: lines) }
    | .indented indent lines =>
      if isDetail indent line then { s with openBlock := .indented indent (line :: lines) }
      else s.close.readStatus line

def ofLines (lines : List Text) : Scan := (lines.foldl step start).close

/-- The block for a test: the one with its name as the header, or else one with a header that ends
in a point and the name. Any of several such headers may be taken; here it is the first one. -/
def detailFor? (s : Scan) (name : Text) : Option FailureDetail :=
  (s.blocks.lookup name).or
    ((s.blocks.reverse.find? fun b => Text.endsWith ('.' :: name) b.1).map (·.2))

/-- The result of an entry. A status that is no failure counts as passed. -/
def result (s : Scan) (e : Entry) : TestResult :=
  if e.status.isFailure then
    { (match e.detail, s.detailFor? e.name with
      | some detail, _ => TestResult.failed e.name (some detail) (Text.firstLine? detail)
      | none, some b =>
        TestResult.failed e.name (if b.trace.isEmpty then none else some b.trace) (some b.summary)
      | none, none => TestResult.failed e.name none (some genericSummary)) with
      durationMs := e.durationMs }
  else { TestResult.passed e.name with durationMs := e.durationMs }

end Scan

def hasCounts (line : Text) : Bool :=
  (ConsoleLine.passedCount? line).isSome || (ConsoleLine.failedCount? line).isSome

/-- Placeholders for the counts of the last line that has some. -/
def countedTests (text : Text) : Option (List TestResult) :=
  ((Text.lines text).reverse.find? hasCounts).bind fun line =>
    let passed := ConsoleLine.countValue (ConsoleLine.passedCount? line)
    let failed := ConsoleLine.countValue (ConsoleLine.failedCount? line)
    if passed = 0 ∧ failed = 0 then none
    else
      let output := Text.trim text
      some (placeholders "test_case_".toList 1 passed TestResult.passed ++
        placeholders "test_case_".toList (clampedAdd passed 1) failed fun name =>
          .failed name (some output) (some genericSummary))

/-- The results of a text: those of its test lines, or else of its counts. -/
def consoleTests (text : Text) : Option (List TestResult) :=
  let s := Scan.ofLines (Text.lines text)
  match s.entries with
  | [] => countedTests text
  | entries => some (entries.reverse.map s.result)

/-- The duration of the run by the last elapsed time in the text. -/
def textDurationMs (text : Text) : Option UInt64 :=
  ((ConsoleLine.lastElapsed false none text).bind ConsoleLine.binary64?).map fun seconds =>
    ConsoleLine.millisOf (seconds.bind fun x =>
      Binary64.mul? x ((Binary64.ofNat? 1000).getD default))

end Console
end TestBench
