import TestBench.Proofs.Report.Duration
import TestBench.Proofs.Xml.Rendering
import TestBench.Report.Junit

/-! JUnit documents. The document for a report is well-formed whatever its texts are, its elements
are those for the tests, and its numbers are the numbers of elements and those of the summary. -/
namespace TestBench
namespace Junit

open Xml

variable {suite : Text} {r : Report} {t : TestResult}

/-- The error of the runner, if there is one. -/
def runnerElements (r : Report) : List Xml :=
  (r.runnerError.map fun e => Xml.textual "system-err".toList [] e).toList

def suiteElement (suite : Text) (r : Report) : Xml :=
  .branch "testsuite".toList (suiteAttributes suite r) (runnerElements r ++
    r.tests.map (testcase suite))

theorem soundTag {name : Text} {attributes : List (Text × Text)} (hname : IsName name)
    (keys : List Text) (hkeys : attributes.map Prod.fst = keys) (hnames : ∀ k ∈ keys, IsName k)
    (hnodup : keys.Nodup) :
    SoundTag name attributes where
  name := hname
  keys := by rwa [hkeys]
  nodup := by rwa [hkeys]

theorem sound_testcase (suite : Text) (t : TestResult) : Sound (testcase suite t) := by
  have htag : SoundTag "testcase".toList [("name".toList, t.name), ("classname".toList, suite),
      ("time".toList, seconds t.durationMs)] :=
    soundTag (by decide) ["name".toList, "classname".toList,
      "time".toList] rfl (by decide) (by decide)
  have hproblem : ∀ kind type : Text, IsName kind → Sound (.textual kind
      [("message".toList, t.errorSummary.getD []), ("type".toList, type)] (t.error.getD [])) :=
        fun kind type hkind =>
    .textual (soundTag hkind ["message".toList, "type".toList] rfl (by decide) (by decide))
  have hskipped : Sound (.leaf "skipped".toList []) :=
    .leaf (soundTag (by decide) [] rfl (by decide) (by decide))
  have hchild : ∀ x, Sound x →
    Sound (.branch "testcase".toList [("name".toList, t.name), ("classname".toList, suite),
      ("time".toList, seconds t.durationMs)] [x]) := fun x hx => .branch htag (by simpa using hx)
  rw [testcase]
  cases t.status with
  | passed => exact .leaf htag
  | unknown => exact .leaf htag
  | skipped => exact hchild _ hskipped
  | failed => exact hchild _ (hproblem _ _ (by decide))
  | timedOut => exact hchild _ (hproblem _ _ (by decide))
  | interrupted => exact hchild _ (hproblem _ _ (by decide))

theorem sound_runnerElements (r : Report) : ∀ x ∈ runnerElements r, Sound x := by
  intro x hx
  obtain ⟨e, -, rfl⟩ := Option.map_eq_some_iff.mp (Option.mem_toList.mp hx)
  exact .textual (soundTag (by decide) [] rfl (by decide) (by decide))

theorem sound_root (suite : Text) (r : Report) : Sound (root suite r) := by
  have htag : ∀ name, IsName name → SoundTag name (suiteAttributes suite r) := fun name hname =>
    soundTag hname
      ["name".toList, "tests".toList, "failures".toList, "errors".toList, "skipped".toList,
        "time".toList] rfl
      (by decide) (by decide)
  have hsuite : Sound (suiteElement suite r) := by
    refine .branch (htag _ (by decide)) fun x hx => ?_
    rcases List.mem_append.mp hx with hx | hx
    · exact sound_runnerElements r x hx
    · obtain ⟨t, -, rfl⟩ := List.mem_map.mp hx
      exact sound_testcase suite t
  refine .branch (htag _ (by decide)) fun x hx => ?_
  obtain rfl := List.mem_singleton.mp hx
  exact hsuite

def rootNode (suite : Text) (r : Report) : Node := node 0 (root suite r)

theorem isDocument_render (suite : Text) (r : Report) :
    IsDocument (render suite r) (rootNode suite r) :=
  isDocument_document (sound_root suite r)

/-- The tags of the elements in the element of a test. -/
def childTags : Status → List Text
  | .passed | .unknown => []
  | .skipped => ["skipped".toList]
  | .failed => ["failure".toList]
  | .timedOut | .interrupted => ["error".toList]

def caseOutline (t : TestResult) : Outline :=
  .mk "testcase".toList ((childTags t.status).map fun tag => .mk tag [])

/-- The elements for a report: one suite with the error of the runner, if there is one, and the
tests in order. -/
def reportOutline (r : Report) : Outline :=
  .mk "testsuites".toList [.mk "testsuite".toList
    ((r.runnerError.map fun _ => .mk "system-err".toList []).toList ++ r.tests.map caseOutline)]

@[simp] theorem outline?_testcase (depth : Nat) (suite : Text) (t : TestResult) :
    (node depth (testcase suite t)).outline? = some (caseOutline t) := by
  rw [testcase, caseOutline]
  cases t.status <;> simp [node, nodes, Node.outline?, outlines, childTags]

@[simp] theorem outline?_rootNode (suite : Text) (r : Report) :
    (rootNode suite r).outline? = some (reportOutline r) := by
  have hcases : (r.tests.map (testcase suite)).flatMap (fun x => (node 2 x).outline?.toList) =
      r.tests.map caseOutline := by
    rw [List.flatMap_map, List.map_eq_flatMap]
    exact List.flatMap_congr fun t _ => by rw [outline?_testcase, Option.toList_some]
  have hrunner : (runnerElements r).flatMap (fun x => (node 2 x).outline?.toList) =
      (r.runnerError.map fun _ => Outline.mk "system-err".toList []).toList := by
    rw [runnerElements]
    cases r.runnerError <;> simp [node, Node.outline?]
  have hsuite : (node 1 (suiteElement suite r)).outline? = some (.mk "testsuite".toList
      ((r.runnerError.map fun _ => .mk "system-err".toList []).toList ++
        r.tests.map caseOutline)) := by
    rw [suiteElement, node, Node.outline?, outlines_nodes, List.flatMap_append, hrunner, hcases]
  have hroot :
      root suite r = .branch "testsuites".toList (suiteAttributes suite r) [suiteElement suite r] :=
    rfl
  rw [rootNode, hroot, node, Node.outline?, outlines_nodes, List.flatMap_singleton, hsuite]
  rfl

@[simp] theorem count_textual (depth : Nat) (name : Text) (attributes : List (Text × Text))
    (text tag : Text) :
    (node depth (.textual name attributes text)).count tag = [name].count tag := by
  rw [node, Node.count, countAll_textNodes, List.count_singleton]
  simp only [beq_iff_eq, Nat.add_zero]

@[simp] theorem count_leaf (depth : Nat) (name : Text) (attributes : List (Text × Text))
    (tag : Text) : (node depth (.leaf name attributes)).count tag = [name].count tag := by
  rw [node, Node.count, countAll, List.count_singleton]
  simp only [beq_iff_eq, Nat.add_zero]

theorem count_branch (depth : Nat) (name : Text) (attributes : List (Text × Text)) (xs : List Xml)
    (tag : Text) : (node depth (.branch name attributes xs)).count tag =
      [name].count tag + (xs.map fun x => (node (depth + 1) x).count tag).sum := by
  rw [node, Node.count, countAll_nodes, List.count_singleton]
  simp only [beq_iff_eq]

theorem count_testcase (depth : Nat) (suite : Text) (t : TestResult) (tag : Text) :
    (node depth (testcase suite t)).count tag = ["testcase".toList].count tag +
      (childTags t.status).count tag := by
  rw [testcase]
  cases t.status <;>
    simp only [count_branch, count_leaf, count_textual, List.map_singleton, List.sum_singleton,
      childTags, List.count_nil, Nat.add_zero]

theorem sum_map_eq_countP {α : Type} {f : α → Nat} {p : α → Bool}
    (h : ∀ a, f a = if p a then 1 else 0) (as : List α) : (as.map f).sum = as.countP p := by
  induction as with
  | nil => rfl
  | cons a as ih => rw [List.map_cons, List.sum_cons, ih, h, List.countP_cons, Nat.add_comm]

theorem count_rootNode (suite : Text) (r : Report) {tag : Text} {p : Status → Bool}
    (htag : tag ∉ ["testsuites".toList, "testsuite".toList, "system-err".toList])
    (h : ∀ s, ["testcase".toList].count tag + (childTags s).count tag = if p s then 1 else 0) :
    (rootNode suite r).count tag = r.tests.countP fun t => p t.status := by
  have hnone : ∀ name ∈ ["testsuites".toList, "testsuite".toList, "system-err".toList],
      [name].count tag = 0 :=
    fun name hname => List.count_eq_zero.mpr fun hmem => htag (List.mem_singleton.mp hmem ▸ hname)
  have hrunner : ((runnerElements r).map fun x => (node 2 x).count tag).sum = 0 := by
    rw [runnerElements]
    cases r.runnerError with
    | none => rfl
    | some e => exact (congrArg (· + 0) (count_textual 2 _ [] e tag)).trans (hnone _ (by decide))
  have hcases : ((r.tests.map (testcase suite)).map fun x => (node 2 x).count tag).sum =
      r.tests.countP fun t => p t.status := by
    rw [List.map_map]
    exact sum_map_eq_countP (fun t => (count_testcase 2 suite t tag).trans (h t.status)) r.tests
  have hsuite : (node 1 (suiteElement suite r)).count tag = r.tests.countP fun t => p t.status := by
    rw [suiteElement, count_branch, hnone _ (by decide), List.map_append, List.sum_append, hrunner,
      hcases]
    simp
  have hroot :
      root suite r = .branch "testsuites".toList (suiteAttributes suite r) [suiteElement suite r] :=
    rfl
  rw [rootNode, hroot, count_branch, hnone _ (by decide), List.map_singleton, List.sum_singleton,
    hsuite, Nat.zero_add]

@[simp] theorem count_testcases (suite : Text) (r : Report) :
    (rootNode suite r).count "testcase".toList = r.tests.length := by
  rw [count_rootNode suite r (p := fun _ => true) (by decide) fun s => by cases s <;> rfl,
    List.countP_true]

@[simp] theorem count_failures (suite : Text) (r : Report) :
    (rootNode suite r).count "failure".toList = failureCount r.tests :=
  count_rootNode suite r (p := fun s => s = .failed) (by decide) fun s => by cases s <;> rfl

@[simp] theorem count_errors (suite : Text) (r : Report) :
    (rootNode suite r).count "error".toList = errorCount r.tests :=
  count_rootNode suite r (p := isError) (by decide) fun s => by cases s <;> rfl

@[simp] theorem count_skipped (suite : Text) (r : Report) :
    (rootNode suite r).count "skipped".toList = r.tests.countP fun t => t.status = .skipped :=
  count_rootNode suite r (p := fun s => s = .skipped) (by decide) fun s => by cases s <;> rfl

@[simp] theorem failureCount_add_errorCount (tests : List TestResult) :
    failureCount tests + errorCount tests = tests.countP fun t => t.status.isFailure := by
  induction tests with
  | nil => rfl
  | cons t tests ih =>
    rw [failureCount, errorCount] at ih ⊢
    rw [List.countP_cons, List.countP_cons, List.countP_cons, ← ih]
    cases t.status <;> simp [isError, Status.isFailure] <;> omega

theorem length_eq_statuses (tests : List TestResult) :
    tests.length = tests.countP (fun t => t.status = .passed) +
      tests.countP (fun t => t.status.isFailure) +
      tests.countP (fun t => t.status = .skipped) +
        tests.countP (fun t => t.status = .unknown) := by
  induction tests with
  | nil => rfl
  | cons t tests ih =>
    rw [List.length_cons, List.countP_cons, List.countP_cons, List.countP_cons, List.countP_cons,
      ih]
    cases t.status <;> simp [Status.isFailure] <;> omega

@[simp] theorem legibleValue_ofNat (n : Nat) : legibleValue (Text.ofNat n) = Text.ofNat n := by
  have hdigit : ∀ c ∈ Text.ofNat n, 48 ≤ c.toNat ∧ c.toNat ≤ 57 :=
    Text.forall_mem_ofNat (fun _ => Text.toNat_of_isDigit) n
  have hspace : ∀ c ∈ Text.ofNat n, c ∉ ['\t', '\n', '\r'] := by
    intro c hc hmem
    have hcode : ∀ c ∈ ['\t', '\n', '\r'], (c.toNat < 48 : Bool) = true := List.all_eq_true.mp rfl
    exact absurd (hdigit c hc).1 (Nat.not_le_of_lt (of_decide_eq_true (hcode c hmem)))
  have hlegal : representable (Text.ofNat n) = Text.ofNat n :=
      List.filter_eq_self.mpr fun c hc => by
    have hcode := hdigit c hc
    rw [isLegal_iff]
    right
    omega
  rw [(legibleValue_eq_iff _).mpr hspace, hlegal]

theorem attribute?_testcase (depth : Nat) (suite : Text) (t : TestResult) :
    (node depth (testcase suite t)).attribute? "name" = some (legibleValue t.name) ∧
      (node depth (testcase suite t)).attribute? "classname" = some (legibleValue suite) := by
  rw [testcase]
  cases t.status <;> exact ⟨rfl, rfl⟩

@[simp] theorem elements_rootNode (suite : Text) (r : Report) :
    (rootNode suite r).elements = [node 1 (suiteElement suite r)] := by
  rw [rootNode, root, node, Node.elements, filter_nodes]
  rfl

/-- The elements with a tag in the suites of a document. -/
def parts (tag : String) (root : Node) : List Node :=
  (root.elements.flatMap Node.elements).filter fun n => n.tag = tag.toList

theorem parts_rootNode (tag : String) (suite : Text) (r : Report) : parts tag (rootNode suite r) =
    ((runnerElements r).map (node 2)).filter (fun n => n.tag = tag.toList) ++
      (r.tests.map fun t => node 2 (testcase suite t)).filter fun n => n.tag = tag.toList := by
  rw [parts, elements_rootNode, List.flatMap_singleton, suiteElement, node, Node.elements,
    filter_nodes, List.map_append, List.filter_append, List.map_map]
  rfl

theorem tag_of_mem_cases {n : Node} (h : n ∈ r.tests.map fun t => node 2 (testcase suite t)) :
    n.tag = "testcase".toList := by
  obtain ⟨t, -, rfl⟩ := List.mem_map.mp h
  rw [testcase]
  cases t.status <;> rfl

theorem parts_testcase (suite : Text) (r : Report) :
    parts "testcase" (rootNode suite r) = r.tests.map fun t => node 2 (testcase suite t) := by
  have hrunner :
      ((runnerElements r).map (node 2)).filter (fun n => n.tag = "testcase".toList) = [] := by
    rw [runnerElements]
    cases r.runnerError <;> rfl
  rw [parts_rootNode, hrunner, List.nil_append]
  exact List.filter_eq_self.mpr fun n hn => decide_eq_true (tag_of_mem_cases hn)

theorem parts_runner (suite : Text) (r : Report) :
    parts "system-err" (rootNode suite r) = (runnerElements r).map (node 2) := by
  have hrunner : ((runnerElements r).map (node 2)).filter (fun n => n.tag = "system-err".toList) =
      (runnerElements r).map (node 2) := by
    rw [runnerElements]
    cases r.runnerError <;> rfl
  rw [parts_rootNode, hrunner, List.filter_eq_nil_iff.mpr, List.append_nil]
  intro n hn
  rw [tag_of_mem_cases hn]
  decide

/-- The numbers in the attributes of an element are the numbers of elements in a document. -/
structure Counts (root n : Node) : Prop where
  tests : n.attribute? "tests" = some (Text.ofNat (root.count "testcase".toList))
  failures : n.attribute? "failures" = some (Text.ofNat (root.count "failure".toList))
  errors : n.attribute? "errors" = some (Text.ofNat (root.count "error".toList))
  skipped : n.attribute? "skipped" = some (Text.ofNat (root.count "skipped".toList))

/-- What a document says about the tests of a report: its elements are those for the tests, the root
and the suite count them, and the numbers are those of the summary. -/
structure Describes (r : Report) (root : Node) : Prop where
  outline : root.outline? = some (reportOutline r)
  names : (parts "testcase" root).map (Node.attribute? "name") =
    r.tests.map fun t => some (legibleValue t.name)
  counts : ∀ n ∈ root :: root.elements, Counts root n
  total : root.count "testcase".toList = r.summary.total
  failed : root.count "failure".toList + root.count "error".toList = r.summary.failed
  skipped : root.count "skipped".toList = r.summary.skipped
  statuses : r.summary.total =
    r.summary.passed + r.summary.failed + r.summary.skipped + r.tests.countP fun t =>
      t.status = .unknown

theorem describes_rootNode (suite : Text) (r : Report) {duration : UInt64}
    (h : r.summary = .ofTests r.tests duration) :
    Describes r (rootNode suite r) := by
  have htotal : r.summary.total = r.tests.length := by rw [h]; rfl
  have hfailed : r.summary.failed = r.tests.countP fun t => t.status.isFailure := by rw [h]; rfl
  have hskipped : r.summary.skipped = r.tests.countP fun t => t.status = .skipped := by rw [h]; rfl
  have hpassed : r.summary.passed = r.tests.countP fun t => t.status = .passed := by rw [h]; rfl
  have hcounts : ∀ name content,
      Counts (rootNode suite r) (.element name (readAttributes (suiteAttributes suite r))
        content) := fun _ _ =>
    { tests := by
        rw [count_testcases, ← htotal]
        exact congrArg some (legibleValue_ofNat _)
      failures := by
        rw [count_failures]
        exact congrArg some (legibleValue_ofNat _)
      errors := by
        rw [count_errors]
        exact congrArg some (legibleValue_ofNat _)
      skipped := by
        rw [count_skipped, ← hskipped]
        exact congrArg some (legibleValue_ofNat _) }
  exact {
    outline := outline?_rootNode suite r
    names := by
      rw [parts_testcase, List.map_map]
      exact List.map_congr_left fun t _ => (attribute?_testcase 2 suite t).1
    counts := by
      rw [elements_rootNode]
      intro n hn
      rcases List.mem_cons.mp hn with rfl | hn
      · exact hcounts _ _
      · obtain rfl := List.mem_singleton.mp hn
        exact hcounts _ _
    total := by rw [count_testcases, htotal]
    failed := by rw [count_failures, count_errors, failureCount_add_errorCount, hfailed]
    skipped := by rw [count_skipped, hskipped]
    statuses := by rw [htotal, hpassed, hfailed, hskipped, ← length_eq_statuses] }

/-- The document for the report on an output of a runner is well-formed and describes that report.
There is one unless the sum of the durations overflows. -/
theorem document_describes_report (raw : RawOutput) (suite : Text) :
    (Report.Overflows raw ∧ Report.ofRaw raw = .error .overflow) ∨
    (¬Report.Overflows raw ∧ ∃ r, Report.ofRaw raw = .ok r ∧ r.tests = (normalize raw).tests ∧
      ∃ root, IsDocument (render suite r) root ∧ Describes r root) := by
  rcases Report.ofRaw_cases raw with herror | ⟨hsum, durationMs, -, hok⟩
  · exact .inl herror
  · exact .inr ⟨hsum, _, hok, rfl, rootNode suite _, isDocument_render suite _,
      describes_rootNode suite _ rfl⟩

/-- Two tests of which the first one lasts as long as a number can tell. -/
theorem no_document_of_overflow :
    Report.ofRaw (Report.timedTests (.ofUInt64 18446744073709551615) (.ofUInt64 1)) =
      .error .overflow :=
  Report.ofRaw_eq_error_iff.mpr ⟨rfl, Report.overflows_timedTests⟩

end Junit
end TestBench
