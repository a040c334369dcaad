import TestBench.Proofs.Report.Document

/-! What a reader of JUnit documents gets of a report: its texts, except for white space that XML
does not keep. -/
namespace TestBench
namespace Junit

open Xml

variable {suite : Text} {r : Report} {t : TestResult}

/-- What is read about one test: the problems are the messages and the texts of its failures and
errors. -/
structure CaseReadout where
  name : Option Text
  className : Option Text
  problems : List (Option Text × Text)
deriving DecidableEq

/-- What is read in a document. The names are those of the root and of its suites. -/
structure Readout where
  names : List (Option Text)
  runnerErrors : List Text
  cases : List CaseReadout
deriving DecidableEq

def isProblem (n : Node) : Bool := n.tag = "failure".toList || n.tag = "error".toList

def CaseReadout.ofNode (n : Node) : CaseReadout where
  name := n.attribute? "name"
  className := n.attribute? "classname"
  problems := (n.elements.filter isProblem).map fun e => (e.attribute? "message", e.characters)

def Readout.ofNode (root : Node) : Readout where
  names := (root :: root.elements).map (Node.attribute? "name")
  runnerErrors := (parts "system-err" root).map Node.characters
  cases := (parts "testcase" root).map .ofNode

def readout? (document : Text) : Option Readout := (read? document).map .ofNode

/-- What there is to be read about a test, if texts in attributes and in content are read in certain
ways. -/
def CaseReadout.ofTest (inAttribute inContent : Text → Text) (suite : Text) (t : TestResult) :
    CaseReadout where
  name := some (inAttribute t.name)
  className := some (inAttribute suite)
  problems :=
    if t.status.isFailure then
      [(some (inAttribute (t.errorSummary.getD [])), inContent (t.error.getD []))] else []

def Readout.ofReport (inAttribute inContent : Text → Text) (suite : Text) (r : Report) :
    Readout where
  names := [some (inAttribute suite), some (inAttribute suite)]
  runnerErrors := (r.runnerError.map inContent).toList
  cases := r.tests.map (.ofTest inAttribute inContent suite)

@[simp] theorem characters_textual (depth : Nat) (name : Text) (attributes : List (Text × Text))
    (text : Text) : (node depth (.textual name attributes text)).characters = legible text := by
  rw [node, Node.characters, characters_textNodes]

@[simp] theorem readout_testcase (depth : Nat) (suite : Text) (t : TestResult) :
    CaseReadout.ofNode (node depth (testcase suite t)) = .ofTest legibleValue legible suite t := by
  have hproblem :
      ∀ attributes kind type, (kind = "failure".toList || kind = "error".toList) = true →
        ((node depth (.branch "testcase".toList attributes [.textual kind
          [("message".toList, t.errorSummary.getD []),
            ("type".toList, type)] (t.error.getD [])])).elements.filter
            isProblem).map (fun e => (e.attribute? "message", e.characters)) =
          [(some (legibleValue (t.errorSummary.getD [])), legible (t.error.getD []))] := by
    intro attributes kind type hkind
    have htag : isProblem (node (depth + 1) (.textual kind
        [("message".toList, t.errorSummary.getD []), ("type".toList, type)] (t.error.getD []))) =
          true := hkind
    rw [node, Node.elements, filter_nodes, List.map_singleton, List.filter_cons_of_pos htag,
      List.filter_nil, List.map_singleton, characters_textual]
    rfl
  obtain ⟨hname, hclass⟩ := attribute?_testcase depth suite t
  rw [CaseReadout.ofNode, CaseReadout.ofTest, hname, hclass, testcase]
  congr 1
  cases t.status with
  | passed => rfl
  | unknown => rfl
  | skipped => rfl
  | failed => exact hproblem _ _ _ (by decide)
  | timedOut => exact hproblem _ _ _ (by decide)
  | interrupted => exact hproblem _ _ _ (by decide)

theorem readout?_render (suite : Text) (r : Report) :
    readout? (render suite r) = some (.ofReport legibleValue legible suite r) := by
  have hread : read? (render suite r) = some (rootNode suite r) :=
    read?_eq_some_iff.mpr (isDocument_render suite r)
  have hcases : (r.tests.map fun t => node 2 (testcase suite t)).map CaseReadout.ofNode =
      r.tests.map (.ofTest legibleValue legible suite) := by
    rw [List.map_map]
    exact List.map_congr_left fun t _ => readout_testcase 2 suite t
  have hrunner : ((runnerElements r).map (node 2)).map Node.characters =
      (r.runnerError.map legible).toList := by
    rw [runnerElements]
    cases r.runnerError with
    | none => rfl
    | some e => exact congrArg ([·]) (characters_textual 2 _ _ e)
  rw [readout?, hread, Option.map_some, Readout.ofNode, elements_rootNode, parts_runner,
    parts_testcase, hcases, hrunner]
  rfl

/-- The texts of a report are kept in its document: attributes have no tabs and line breaks, and
content has no carriage returns. -/
structure Kept (suite : Text) (r : Report) : Prop where
  suite : ∀ c ∈ suite, c ∉ ['\t', '\n', '\r']
  names : ∀ t ∈ r.tests, ∀ c ∈ t.name, c ∉ ['\t', '\n', '\r']
  messages : ∀ t ∈ r.tests, t.status.isFailure →
    ∀ c ∈ t.errorSummary.getD [], c ∉ ['\t', '\n', '\r']
  errors : ∀ t ∈ r.tests, t.status.isFailure → '\r' ∉ t.error.getD []
  runner : ∀ e ∈ r.runnerError, '\r' ∉ e

theorem ofTest_eq_iff (suite : Text) (t : TestResult) :
    CaseReadout.ofTest legibleValue legible suite t = .ofTest representable representable suite t ↔
      (legibleValue t.name = representable t.name ∧ legibleValue suite = representable suite) ∧
      (t.status.isFailure → legibleValue (t.errorSummary.getD []) =
        representable (t.errorSummary.getD []) ∧
        legible (t.error.getD []) = representable (t.error.getD [])) := by
  rw [CaseReadout.ofTest, CaseReadout.ofTest]
  cases t.status.isFailure <;> simp [and_assoc]

/-- A report is read back from its document, but for white space in attributes and carriage returns:
what is read is the text without the characters that a document cannot have if and only if there is
no tab, line feed or carriage return in an attribute and no carriage return in content. -/
theorem document_read_back (suite : Text) (r : Report) :
    readout? (render suite r) = some (.ofReport legibleValue legible suite r) ∧
    (readout? (render suite r) = some (.ofReport representable representable suite r) ↔
      Kept suite r) := by
  refine ⟨readout?_render suite r, ?_⟩
  rw [readout?_render, Option.some_inj, Readout.ofReport, Readout.ofReport, Readout.mk.injEq,
    List.map_inj_left]
  simp only [ofTest_eq_iff, legibleValue_eq_iff, legible_eq_iff]
  constructor
  · rintro ⟨hnames, hrunner, hcases⟩
    have hsuite : legibleValue suite = representable suite :=
      Option.some.inj (List.cons.inj hnames).1
    exact {
      suite := (legibleValue_eq_iff suite).mp hsuite
      names := fun t ht => (hcases t ht).1.1
      messages := fun t ht hfailure => ((hcases t ht).2 hfailure).1
      errors := fun t ht hfailure => ((hcases t ht).2 hfailure).2
      runner := fun e he => by
        rw [Option.mem_def.mp he] at hrunner
        exact (legible_eq_iff e).mp (List.cons.inj hrunner).1 }
  · intro h
    have hnames : legibleValue suite = representable suite :=
      (legibleValue_eq_iff suite).mpr h.suite
    refine ⟨by rw [hnames], ?_, fun t ht =>
      ⟨⟨h.names t ht, h.suite⟩, fun hfailure => ⟨h.messages t ht hfailure, h.errors t ht hfailure⟩⟩⟩
    cases he : r.runnerError with
    | none => rfl
    | some e => exact congrArg ([·]) ((legible_eq_iff e).mpr (h.runner e he))

def tornReport : Report :=
  let tests := [TestResult.failed "t".toList none (some "a\nb".toList)]
  { ok := true, summary := .ofTests tests 0, tests, runnerError := none, tier := .consoleText }

/-- The line break in a headline is read as a blank. -/
theorem headline_not_read_back :
    readout? (render "s".toList tornReport) =
      some ⟨[some "s".toList, some "s".toList], [],
        [⟨some "t".toList, some "s".toList, [(some "a b".toList, [])]⟩]⟩ ∧
    readout? (render "s".toList tornReport) ≠
      some (.ofReport representable representable "s".toList tornReport) := by
  rw [readout?_render]
  exact ⟨by decide, by decide⟩

end Junit
end TestBench
