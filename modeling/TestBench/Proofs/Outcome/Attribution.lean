import TestBench.Proofs.Outcome.Blocks

/-! Which failed test gets the detail of a block. Between tests and blocks only names count: a block
reaches its test from any place in the text, but tests of one name share one block, and so do the
blocks of two classes with a test of one name. -/
namespace TestBench
namespace Console

/-- With headers that are all different a failed test without indented detail takes error and
headline from the block with its name. Without such a block it takes them from the block of a class,
or from one of them if there are several. -/
theorem header_blocks_reach_tests {text : Text} {i : Nat} {e : Entry}
    (hdistinct : ((Text.lines text).filterMap ConsoleLine.blockHeader?).Nodup)
    (he : (Scan.ofLines (Text.lines text)).entries.reverse[i]? = some e)
    (hfailed : e.status.isFailure = true) (hdetail : e.detail = none) :
    ∃ results r, consoleTests text = some results ∧ results[i]? = some r ∧ r.name = e.name ∧
    r.status = .failed ∧
      (∀ b ∈ blocksOf (Text.lines text), b.name = e.name → Tells b.lines r) ∧
      ((∀ b ∈ blocksOf (Text.lines text), b.name ≠ e.name) →
        (∀ b ∈ blocksOf (Text.lines text), OfClass e.name b.name →
          (∀ c ∈ blocksOf (Text.lines text), OfClass e.name c.name → c = b) → Tells b.lines r) ∧
        ((∃ b ∈ blocksOf (Text.lines text), OfClass e.name b.name) →
          ∃ b ∈ blocksOf (Text.lines text), OfClass e.name b.name ∧ Tells b.lines r) ∧
        ((∀ b ∈ blocksOf (Text.lines text), ¬OfClass e.name b.name) →
          r.error = none ∧ r.errorSummary = some genericSummary)) := by
  obtain ⟨results, hresults, hr⟩ := result_at_entry he
  have hname : ((Scan.ofLines (Text.lines text)).result e).name = e.name := Scan.name_result _ e
  have hstatus : ((Scan.ofLines (Text.lines text)).result e).status = .failed := by
    rw [Scan.status_result, hfailed]
    rfl
  have hattributed := attributed_result (Text.lines text) hfailed hdetail
  refine ⟨results, _, hresults, hr, hname, hstatus, ?_⟩
  generalize (Scan.ofLines (Text.lines text)).result e = r at hname hattributed ⊢
  rw [← hname]
  cases hattributed with
  | @own b hb htells =>
    have hmem : b ∈ blocksOf (Text.lines text) := List.mem_of_find?_eq_some hb
    have hbname : b.name = r.name := by simpa using List.find?_some hb
    rw [← map_name_blocksOf] at hdistinct
    refine ⟨fun c hc hcname => ?_, fun hnone => absurd hbname (hnone b hmem)⟩
    rwa [List.inj_on_of_nodup_map hdistinct hc hmem (hcname.trans hbname.symm)]
  | @ofClass b hnone hb hclass htells =>
    refine ⟨fun c hc hcname => absurd hcname (hnone c hc),
      fun _ => ⟨fun c hc _ honly => ?_, fun _ => ⟨b, hb, hclass, htells⟩,
      fun hno => absurd hclass (hno b hb)⟩⟩
    rwa [← honly b hb hclass]
  | nowhere hnone herror hsummary =>
    refine ⟨fun c hc hcname => absurd hcname (hnone c hc).1,
      fun _ => ⟨fun c hc hclass => absurd hclass (hnone c hc).2, ?_, fun _ => ⟨herror, hsummary⟩⟩⟩
    rintro ⟨c, hc, hclass⟩
    exact absurd hclass (hnone c hc).2

/-- A block of a class that stands before the line of its test, and is ended by a rule. -/
def classText : Text :=
  Text.unlines ["_____ TestCalc.test_div _____".toList, [], "    1 / 0".toList,
    "E   ZeroDivisionError".toList,
    "===== summary =====".toList, "a.py::TestCalc::test_div FAILED".toList,
      "_____ test_mul _____".toList, "6 * 7".toList]

theorem blocksOf_classText : blocksOf (Text.lines classText) =
    [⟨"TestCalc.test_div".toList, [[], "    1 / 0".toList, "E   ZeroDivisionError".toList]⟩,
      ⟨"test_mul".toList, ["6 * 7".toList]⟩] := by
  decide +kernel

/-- The rule ends the block, and the block below the line is one of another test. -/
theorem header_blocks_reach_tests_of_class :
    ((Text.lines classText).filterMap ConsoleLine.blockHeader?).Nodup ∧
    (Scan.ofLines (Text.lines classText)).entries.reverse[0]? =
      some ⟨"test_div".toList, .failed, 0, none⟩ ∧
    ∃ results r, consoleTests classText = some results ∧ results[0]? = some r ∧
      r.error = some "1 / 0\nE   ZeroDivisionError".toList ∧
      r.errorSummary = some "ZeroDivisionError".toList := by
  have hdistinct : ((Text.lines classText).filterMap ConsoleLine.blockHeader?).Nodup := by
    rw [← map_name_blocksOf, blocksOf_classText]
    decide +kernel
  have he : (Scan.ofLines (Text.lines classText)).entries.reverse[0]? =
      some ⟨"test_div".toList, .failed, 0, none⟩ := by
    decide +kernel
  obtain ⟨results, r, hresults, hr, -, -, -, hclass⟩ :=
    header_blocks_reach_tests hdistinct he rfl rfl
  rw [blocksOf_classText] at hclass
  have htells : Tells [[], "    1 / 0".toList, "E   ZeroDivisionError".toList] r :=
    (hclass (by decide +kernel)).1 _ List.mem_cons_self (by decide +kernel) (by decide +kernel)
  refine ⟨hdistinct, he, results, r, hresults, hr, htells.error.trans ?_, htells.headline.trans ?_⟩
  · decide +kernel
  · decide +kernel

/-- Two classes with a test of one name, and one line for it. -/
def sharedText : Text :=
  Text.unlines ["test_x FAILED".toList, "_____ A.test_x _____".toList, "E   boom".toList,
    "_____ B.test_x _____".toList, "E   boom".toList]

/-- Of two blocks of classes one is taken, although it is not known which of them belongs to the
test. -/
theorem class_block_taken_of_two :
    ((Text.lines sharedText).filterMap ConsoleLine.blockHeader?).Nodup ∧
    (Scan.ofLines (Text.lines sharedText)).entries.reverse[0]? =
      some ⟨"test_x".toList, .failed, 0, none⟩ ∧
    (∀ b ∈ blocksOf (Text.lines sharedText), b.name ≠ "test_x".toList) ∧
    ((blocksOf (Text.lines sharedText)).countP fun b => OfClass "test_x".toList b.name) = 2 ∧
    consoleTests sharedText =
      some [.failed "test_x".toList (some "E   boom".toList) (some "boom".toList)] :=
  ⟨by decide +kernel, by decide +kernel, by decide +kernel, by decide +kernel, by decide +kernel⟩

/-- The failed tests of a name without indented detail, in the order of the text. -/
def Scan.failuresNamed (s : Scan) (name : Text) : List Entry :=
  s.entries.reverse.filter fun e => e.name = name ∧ e.status.isFailure = true ∧ e.detail = none

def failuresNamed (text name : Text) : List TestResult :=
  ((Scan.ofLines (Text.lines text)).failuresNamed name).map (Scan.ofLines (Text.lines text)).result

def blocksNamed (text name : Text) : List Block :=
  (blocksOf (Text.lines text)).filter fun b => b.name = name

variable {text name : Text}

@[simp] theorem Scan.mem_failuresNamed {s : Scan} {e : Entry} :
    e ∈ s.failuresNamed name ↔ e ∈ s.entries ∧ e.name = name ∧ e.status.isFailure = true ∧
    e.detail = none := by
  simp [failuresNamed]

theorem failuresNamed_sublist {r : TestResult} (h : r ∈ failuresNamed text name) :
    ∃ results, consoleTests text = some results ∧ (failuresNamed text name).Sublist results := by
  obtain ⟨e, he, -⟩ := List.mem_map.mp h
  have hentries : (Scan.ofLines (Text.lines text)).entries ≠ [] :=
    List.ne_nil_of_mem (Scan.mem_failuresNamed.mp he).1
  exact ⟨_, consoleTests_of_entries hentries, List.filter_sublist.map _⟩

theorem tells_iff {first lines : List Text} {r : TestResult} (h : Tells first r) :
    Tells lines r ↔ FailureDetail.ofLines lines = FailureDetail.ofLines first := by
  simp only [FailureDetail.ofLines_eq, FailureDetail.mk.injEq]
  constructor
  · intro h'
    have hheadline : some (headline lines) = some (headline first) :=
      h'.headline.symm.trans h.headline
    exact ⟨Option.some.inj hheadline, Text.trimmed?_eq_iff.mp (h'.error.symm.trans h.error)⟩
  · rintro ⟨hheadline, htrace⟩
    exact ⟨h.error.trans (Text.trimmed?_eq_iff.mpr htrace.symm), by rw [h.headline, hheadline]⟩

theorem tells_of_mem_failuresNamed {r : TestResult} {first : Block}
    (hr : r ∈ failuresNamed text name) (hfirst : (blocksNamed text name).head? = some first) :
    Tells first.lines r := by
  obtain ⟨e, he, rfl⟩ := List.mem_map.mp hr
  obtain ⟨-, hname, hfailed, hdetail⟩ := Scan.mem_failuresNamed.mp he
  have hrname : ((Scan.ofLines (Text.lines text)).result e).name = name := by
    rw [Scan.name_result, hname]
  have hfind : (blocksOf (Text.lines text)).find? (fun b => b.name = name) = some first := by
    rw [← List.head?_filter, ← hfirst, blocksNamed]
  have hmem : first ∈ blocksOf (Text.lines text) := List.mem_of_find?_eq_some hfind
  have hfname : first.name = name := by simpa using List.find?_some hfind
  cases attributed_result (Text.lines text) hfailed hdetail with
  | own hown h =>
    rw [hrname, hfind] at hown
    rwa [Option.some.inj hown]
  | ofClass hnone _ _ _ => exact absurd (hfname.trans hrname.symm) (hnone first hmem)
  | nowhere hnone _ _ => exact absurd (hfname.trans hrname.symm) (hnone first hmem).1

/-- Failed tests of one name all take error and headline from the first block with that name. The
i-th of them has the detail of the i-th block exactly if that is the detail of the first block. -/
theorem first_block_tells {i : Nat} {r : TestResult} {b : Block}
    (hr : (failuresNamed text name)[i]? = some r) (hb : (blocksNamed text name)[i]? = some b) :
    ∃ results first, consoleTests text = some results ∧ (failuresNamed text name).Sublist results ∧
      (blocksNamed text name).head? = some first ∧ Tells first.lines r ∧
      (Tells b.lines r ↔ FailureDetail.ofLines b.lines = FailureDetail.ofLines first.lines) := by
  have hmem : r ∈ failuresNamed text name := List.mem_of_getElem? hr
  obtain ⟨results, hresults, hsublist⟩ := failuresNamed_sublist hmem
  obtain ⟨first, others, hblocks⟩ :=
    List.exists_cons_of_ne_nil (List.ne_nil_of_mem (List.mem_of_getElem? hb))
  have hfirst : (blocksNamed text name).head? = some first := by rw [hblocks, List.head?_cons]
  have htells : Tells first.lines r := tells_of_mem_failuresNamed hmem hfirst
  exact ⟨results, first, hresults, hsublist, hfirst, htells, tells_iff htells⟩

/-- Two tests of one name that fail for different reasons. -/
def twinText : Text :=
  Text.unlines ["a.py::test_x FAILED".toList, "b.py::test_x FAILED".toList,
    "_____ test_x _____".toList,
    "E   first".toList, "_____ test_x _____".toList, "E   second".toList]

def twinResult : TestResult :=
  .failed "test_x".toList (some "E   first".toList) (some "first".toList)

/-- What the second test is told is the detail of the first block, and not that of its own. -/
theorem first_block_tells_of_twins :
    (failuresNamed twinText "test_x".toList)[1]? = some twinResult ∧
    (blocksNamed twinText "test_x".toList)[1]? = some ⟨"test_x".toList, ["E   second".toList]⟩ ∧
    Tells ["E   first".toList] twinResult ∧ ¬Tells ["E   second".toList] twinResult := by
  have hr : (failuresNamed twinText "test_x".toList)[1]? = some twinResult := by decide +kernel
  have hb : (blocksNamed twinText "test_x".toList)[1]? =
    some ⟨"test_x".toList, ["E   second".toList]⟩ := by decide +kernel
  obtain ⟨results, first, -, -, hfirst, htells, hiff⟩ := first_block_tells hr hb
  have hhead : (blocksNamed twinText "test_x".toList).head? =
    some ⟨"test_x".toList, ["E   first".toList]⟩ := by decide +kernel
  obtain rfl := Option.some.inj (hfirst.symm.trans hhead)
  refine ⟨hr, hb, htells, fun h => ?_⟩
  exact absurd (hiff.mp h) (by decide +kernel)

/-- There are as many blocks as tests, but the detail of the second block is lost. -/
theorem second_block_is_lost :
    (failuresNamed twinText "test_x".toList).length =
      (blocksNamed twinText "test_x".toList).length ∧
    ¬∀ (i : Nat) (r : TestResult) (b : Block),
      (failuresNamed twinText "test_x".toList)[i]? = some r →
      (blocksNamed twinText "test_x".toList)[i]? = some b → Tells b.lines r := by
  refine ⟨by decide +kernel, fun h => ?_⟩
  have hsecond : Tells ["E   second".toList] twinResult :=
    h 1 twinResult ⟨"test_x".toList, ["E   second".toList]⟩ (by decide +kernel) (by decide +kernel)
  exact absurd hsecond.headline (by decide +kernel)

end Console
end TestBench
