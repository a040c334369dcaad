import TestBench.Proofs.Decimal.Exact
import TestBench.Proofs.Json.Lookup
import TestBench.Proofs.Json.Nesting
import TestBench.Proofs.Outcome.Tiers
import TestBench.Proofs.Report.Duration
import TestBench.Report.Form

/-! Reports read as structured reports of a runner. A report has an entry for each test, under a key
that no other kind of report has, so that its results are the same again but for white space and
control sequences in errors. -/
namespace TestBench

theorem Json.get?_sorted_object (ms : List (Text × Json)) (key : Text) :
    (object ms).sorted.get? key = (ms.reverse.lookup key).map sorted := by
  rw [sorted, ofMembers, get?, lookup_sortMembers, sortedMembers_eq, ← List.map_reverse]
  exact lookup_map_values sorted ms.reverse key

def TestResult.reread (t : TestResult) : TestResult :=
  { t with
    error := t.error.bind Structured.cleaned?
    errorSummary := (t.error.bind Structured.cleaned?).bind Text.firstLine? }

namespace Structured

variable {t : TestResult}

theorem get?_entry (t : TestResult) (key : Text) :
    t.toJson.sorted.get? key = ([("errorSummary".toList, Json.ofOption .string t.errorSummary),
      ("error".toList, .ofOption .string t.error), ("durationMs".toList, .ofUInt64 t.durationMs),
      ("status".toList, .string t.status.name), ("name".toList, .string t.name)].lookup key).map
        Json.sorted :=
  Json.get?_sorted_object _ key

@[simp] theorem sorted_optionalText (e : Option Text) :
    (Json.ofOption Json.string e).sorted = .ofOption .string e := by
  cases e <;> rfl

@[simp] theorem ofWord_name (s : Status) : Status.ofWord s.name = s := by
  cases s <;> decide

theorem errorParts_text (e : Option Text) :
    errorParts ((some (Json.ofOption Json.string e)).filter fun v => !v.isNull) =
      ⟨e.bind cleaned?, (e.bind cleaned?).bind Text.firstLine?⟩ := by
  cases e with
  | none => rfl
  | some e =>
    have hsame : (cleaned? e).or (cleaned? e) = cleaned? e := Option.or_self
    rw [Json.ofOption, Option.filter_some]
    simp [errorParts, errorSources, Json.isNull]

theorem entryResult_toJson (index : Nat) (h : t.durationMs.toNat ≤ 2 ^ 53) :
    entryResult flatNameKeys index t.toJson.sorted = t.reread := by
  have hname : t.toJson.sorted.get? "name".toList = some (.string t.name) := get?_entry t _
  have hstatus : t.toJson.sorted.get? "status".toList = some (.string t.status.name) :=
    get?_entry t _
  have hduration : t.toJson.sorted.get? "duration".toList = none := get?_entry t _
  have hmillis : t.toJson.sorted.get? "durationMs".toList = some (.ofUInt64 t.durationMs) :=
    get?_entry t _
  have herror : t.toJson.sorted.get? "error".toList = some (.ofOption .string t.error) :=
    (get?_entry t _).trans (congrArg some (sorted_optionalText t.error))
  have hmessages : t.toJson.sorted.get? "failureMessages".toList = none := get?_entry t _
  have hfirst : t.toJson.sorted.firstText? flatNameKeys = some t.name := by
    rw [Json.firstText?, flatNameKeys, List.findSome?_cons, Json.textAt?, hname]
    rfl
  have hread : (Json.ofUInt64 t.durationMs).millis? = some t.durationMs := Json.millis?_ofUInt64 h
  rw [entryResult, hfirst, hstatus, hduration, hmillis, herror, hmessages]
  simp only [Option.or_none, Option.none_or, errorParts_text, Option.bind_some, hread,
    Option.getD_some, statusOf, Json.text?, Option.map_some, ofWord_name, TestResult.reread]

theorem numberedMap_entryResult {ts : List TestResult} (h : ∀ t ∈ ts, t.durationMs.toNat ≤ 2 ^ 53)
    (n : Nat) :
    numberedMap (entryResult flatNameKeys) n (ts.map fun t => t.toJson.sorted) =
      ts.map TestResult.reread := by
  induction ts generalizing n with
  | nil => rfl
  | cons t ts ih =>
    obtain ⟨ht, hts⟩ := List.forall_mem_cons.mp h
    rw [List.map_cons, numberedMap, entryResult_toJson n ht, ih hts, List.map_cons]

variable {r : Report}

theorem itemsAt?_report (r : Report) :
    r.toJson.sorted.itemsAt? "testResults".toList = none ∧
    r.toJson.sorted.itemsAt? "passes".toList = none ∧
      r.toJson.sorted.itemsAt? "tests".toList = some (r.tests.map fun t => t.toJson.sorted) := by
  have hitems : (Json.array (r.tests.map TestResult.toJson)).sorted.items? =
      some (r.tests.map fun t => t.toJson.sorted) := by
    rw [Json.sorted, Json.sortedItems_eq, List.map_map]
    rfl
  rw [Report.toJson]
  simp only [Json.itemsAt?, Json.get?_sorted_object]
  cases r.runnerError with
  | none => exact ⟨rfl, rfl, hitems⟩
  | some e => exact ⟨rfl, rfl, hitems⟩

theorem richTests_report (h : ∀ t ∈ r.tests, t.durationMs.toNat ≤ 2 ^ 53) (hne : r.tests ≠ []) :
    richTests r.toJson.sorted = some (r.tests.map TestResult.reread) := by
  obtain ⟨hnested, houtcome, htests⟩ := itemsAt?_report r
  have hentries : nonEmpty? (r.tests.map fun t => t.toJson.sorted) =
      some (r.tests.map fun t => t.toJson.sorted) :=
    nonEmpty?_eq_some_iff.mpr ⟨by simpa using hne, rfl⟩
  have hlist : listAt "tests" r.toJson.sorted = r.tests.map fun t => t.toJson.sorted := by
    rw [listAt, htests, Option.getD_some]
  rw [richTests, nestedEntries?, outcomeEntries?, hnested, houtcome, hlist, hentries,
    Option.map_some, numberedMap_entryResult h]
  rfl

end Structured

theorem tests_testsOnly {ts : List TestResult} (h : ∀ t ∈ ts, t.durationMs.toNat ≤ 2 ^ 53)
    (hne : ts ≠ []) :
    (normalize (Report.testsOnly (ts.map fun t => t.toJson.sorted))).tests =
      ts.map TestResult.reread := by
  obtain ⟨t, ts, rfl⟩ := List.exists_cons_of_ne_nil hne
  exact Structured.numberedMap_entryResult h 0

theorem Report.length_of_overflows {raw : RawOutput}
    (h : ∀ t ∈ (normalize raw).tests, t.durationMs.toNat ≤ 2 ^ 53) (hsum : Overflows raw) :
    2048 ≤ (normalize raw).tests.length := by
  have hle := totalMillis_le h
  have hsize : UInt64.size = 2048 * 2 ^ 53 := rfl
  have hover := hsum.2
  omega

/-- The report of a run is a fixed point: read as what another runner left behind, whatever else
that has, it gives the same results, whose errors have lost their control sequences and the white
space around them. There is a report unless the sum of the durations overflows. -/
theorem normalize_report (raw : RawOutput) (stdout stderr : Text) (exitCode : Option Int)
    (h : ∀ t ∈ (normalize raw).tests, t.durationMs.toNat ≤ 2 ^ 53) :
    (Report.Overflows raw ∧ Report.ofRaw raw = .error .overflow ∧
      2048 ≤ (normalize raw).tests.length) ∨
    (¬Report.Overflows raw ∧ ∃ r, Report.ofRaw raw = .ok r ∧ r.tests = (normalize raw).tests ∧
      normalize ⟨some r.toJson.sorted, stdout, stderr, exitCode⟩ =
        ⟨.structuredRich, r.tests.map TestResult.reread⟩) := by
  rcases Report.ofRaw_cases raw with ⟨hsum, herror⟩ | ⟨hsum, durationMs, -, hok⟩
  · exact .inl ⟨hsum, herror, Report.length_of_overflows h hsum⟩
  · have hne : (Report.lasting raw durationMs).tests ≠ [] :=
      Tier.results?_ne_nil (results?_normalize raw)
    have hrich := Structured.richTests_report (r := Report.lasting raw durationMs) h hne
    refine .inr ⟨hsum, _, hok, rfl, ?_⟩
    rw [normalize, Option.bind_some, hrich]

def colouredFailure : RawOutput :=
  ⟨some (.object [("failures".toList, .array [.string "a: \x1b[31mred".toList])]), [], [], some 1⟩

theorem normalize_report_of_colour :
    (∀ t ∈ (normalize colouredFailure).tests, t.durationMs.toNat ≤ 2 ^ 53) ∧
    ∃ r, Report.ofRaw colouredFailure = .ok r ∧
      normalize ⟨some r.toJson.sorted, "1 failed".toList, [], none⟩ =
        ⟨.structuredRich, [.failed "a".toList (some "red".toList) (some "red".toList)]⟩ := by
  have hdurations : ∀ t ∈ (normalize colouredFailure).tests, t.durationMs.toNat ≤ 2 ^ 53 := by
    decide
  refine ⟨hdurations, ?_⟩
  rcases normalize_report colouredFailure "1 failed".toList [] none hdurations with
    ⟨-, -, hmany⟩ | ⟨-, r, hr, htests, hagain⟩
  · exact absurd hmany (by decide)
  · rw [htests] at hagain
    exact ⟨r, hr, hagain.trans (by decide +kernel)⟩

def longTest : TestResult := ⟨['a'], .passed, 9007199254740992, none, none⟩

/-- As many of them as make up the first sum that 64 bits do not hold. -/
theorem long_tests_overflow :
    (∀ t ∈ (normalize (Report.testsOnly (List.replicate 2048 longTest.toJson.sorted))).tests,
      t.durationMs.toNat ≤ 2 ^ 53) ∧
    Report.ofRaw (Report.testsOnly (List.replicate 2048 longTest.toJson.sorted)) =
      .error .overflow := by
  have hlong : ∀ t ∈ List.replicate 2048 longTest, t.durationMs.toNat ≤ 2 ^ 53 := by
    intro t ht
    rw [List.eq_of_mem_replicate ht]
    decide
  have hne : List.replicate 2048 longTest ≠ [] := by
    rw [Ne, List.replicate_eq_nil_iff]
    decide
  have htests := tests_testsOnly hlong hne
  rw [List.map_replicate, List.map_replicate] at htests
  rw [Report.ofRaw_eq_error_iff, Report.Overflows, htests]
  refine ⟨fun t ht => ?_, rfl, Report.untimed_testsOnly _ _, ?_⟩
  · rw [List.eq_of_mem_replicate ht]
    decide
  · rw [Report.totalMillis, List.map_replicate, List.sum_replicate]
    decide

end TestBench
