import TestBench.Proofs.Outcome.Tiers
import TestBench.Proofs.Text.Lines

/-! Failures that an output states as a number only. A report has to be one of counts, and a count
in a text has to be a number of 64 bits, for a failure among the results to be certain. -/
namespace TestBench

variable {stem : Text} {first count : Nat} {make : Text → TestResult}

theorem mem_placeholders {r : TestResult} (h : r ∈ placeholders stem first count make) :
    ∃ name, r = make name := by
  rw [placeholders] at h
  split at h
  · simp at h
  · split at h
    · exact ⟨_, List.mem_singleton.mp h⟩
    · obtain ⟨i, -, rfl⟩ := List.mem_map.mp h
      exact ⟨_, rfl⟩

theorem exists_placeholder (hcount : 0 < count)
    (hfirst : placeholderLimit < count ∨ first < UInt64.size - 1) :
    ∃ name, make name ∈ placeholders stem first count make := by
  have hne : placeholders stem first count make ≠ [] := by
    rcases hfirst with hmany | hfirst
    · simp [placeholders, hcount.ne', hmany]
    · exact placeholders_ne_nil hcount.ne' hfirst
  obtain ⟨r, hr⟩ := List.exists_mem_of_ne_nil _ hne
  obtain ⟨name, rfl⟩ := mem_placeholders hr
  exact ⟨name, hr⟩

/-- A result with a headline that says something. -/
def Headed (r : TestResult) : Prop := ∃ s, r.errorSummary = some s ∧ Text.isBlankText s = false

theorem Structured.headline_not_blank {v : Option Json} {s : Text}
    (h : (errorParts v).headline = some s) :
    Text.isBlankText s = false := by
  obtain ⟨t, -, hs⟩ := Option.bind_eq_some_iff.mp h
  exact Text.not_blank_of_firstLine? hs

namespace Structured

variable {data : Json}

/-- A report that is read for its counts: it has a number of passed tests or a list of failures. -/
def Counts (data : Json) : Prop :=
  ((data.get? "passed".toList).bind Json.toUInt64?).isSome = true ∨
    (data.itemsAt? "failures".toList).isSome = true

def CountsFailures (data : Json) : Prop :=
  ∃ n, (data.get? "failed".toList).bind Json.toUInt64? = some n ∧ 0 < n

theorem status_of_listedFailure? {n : Nat} {v : Json} {r : TestResult}
    (h : listedFailure? n v = some r) :
    r.status = .failed := by
  cases v with
  | string m =>
    obtain rfl := Option.some.inj h
    rfl
  | object ms =>
    obtain rfl := Option.some.inj h
    rfl
  | _ => simp [listedFailure?] at h

/-- A number of tests that a report states, zero if it does not. -/
def statedCount (key : String) (data : Json) : Nat :=
  (((data.get? key.toList).bind Json.toUInt64?).getD 0).toNat

/-- The results for the failures that a report lists. -/
def listedResults (data : Json) : List TestResult :=
  (numberedMap listedFailure? 0 (listAt "failures" data)).filterMap id

theorem exists_item_of_mem_listedResults {r : TestResult} (h : r ∈ listedResults data) :
    ∃ n v, listedFailure? n v = some r := by
  obtain ⟨o, ho, hr⟩ := List.mem_filterMap.mp h
  obtain ⟨n, v, -, rfl⟩ := mem_numberedMap ho
  exact ⟨n, v, hr⟩

/-- The results of a report with counts: the listed failures, the other failed tests, and the passed
ones. -/
theorem legacyTests_of_counts (hcounts : Counts data) :
    legacyTests data = nonEmpty? (listedResults data ++
    placeholders "Failure_".toList ((listedResults data).length + 1)
      (statedCount "failed" data - (listedResults data).length) countedFailure ++
    placeholders "Test_".toList 1 (statedCount "passed" data) TestResult.passed) := by
  have hread : ¬(((data.get? "passed".toList).bind Json.toUInt64?).isNone &&
      (data.itemsAt? "failures".toList).isNone) = true := by
    rw [Counts, Option.isSome_iff_ne_none, Option.isSome_iff_ne_none] at hcounts
    rw [Bool.and_eq_true, Option.isNone_iff_eq_none, Option.isNone_iff_eq_none]
    tauto
  rw [legacyTests, if_neg hread]
  rfl

theorem exists_failed_legacyTests (hcounts : Counts data) (hfailed : CountsFailures data) :
    ∃ ts, legacyTests data = some ts ∧ ∃ r ∈ ts, r.status = .failed := by
  obtain ⟨n, hn, hpos⟩ := hfailed
  have hstated : 0 < statedCount "failed" data := by
    rw [statedCount, hn]
    exact hpos
  rw [legacyTests_of_counts hcounts]
  set counted := placeholders "Failure_".toList ((listedResults data).length + 1)
    (statedCount "failed" data - (listedResults data).length) countedFailure with hcounted
  have hfailed : ∃ r ∈ listedResults data ++ counted, r.status = .failed := by
    cases hcase : listedResults data with
    | cons r rs =>
      obtain ⟨n, v, hr⟩ : ∃ n v, listedFailure? n v = some r :=
        exists_item_of_mem_listedResults (hcase ▸ List.mem_cons_self)
      exact ⟨r, List.mem_append_left _ List.mem_cons_self, status_of_listedFailure? hr⟩
    | nil =>
      obtain ⟨name, hname⟩ : ∃ name, countedFailure name ∈ counted := by
        rw [hcounted, hcase]
        exact exists_placeholder (by simpa using hstated) (.inr (by decide))
      exact ⟨_, hname, rfl⟩
  obtain ⟨r, hr, hstatus⟩ := hfailed
  refine ⟨_, nonEmpty?_eq_some_iff.mpr ⟨?_, rfl⟩, r, List.mem_append_left _ hr, hstatus⟩
  exact List.ne_nil_of_mem (List.mem_append_left _ hr)

end Structured

namespace Console

/-- A text without lines of tests whose last line with counts states a positive number of failed
tests, in ASCII digits and 64 bits. The placeholders for the passed tests of the line leave numbers
for them, or they are many enough for a single placeholder. -/
def CountsFailures (text : Text) : Prop :=
  (Scan.ofLines (Text.lines text)).entries = [] ∧
  ∃ line digits failed, (Text.lines text).reverse.find? hasCounts = some line ∧
    ConsoleLine.failedCount? line = some digits ∧ Text.toNat? digits = some failed ∧
    0 < failed ∧ failed < UInt64.size ∧
    (placeholderLimit < failed ∨
      ConsoleLine.countValue (ConsoleLine.passedCount? line) + 2 < UInt64.size)

theorem countValue_eq {digits : Text} {n : Nat} (h : Text.toNat? digits = some n)
    (hn : n < UInt64.size) :
    ConsoleLine.countValue (some digits) = n := by
  simp [ConsoleLine.countValue, h, Option.filter, hn]

theorem exists_failed_consoleTests {text : Text} (h : CountsFailures text) :
    ∃ ts, consoleTests text = some ts ∧ ∃ r ∈ ts, r.status = .failed := by
  obtain ⟨hentries, line, digits, failed, hline, hdigits, hvalue, hpos, hsize, hroom⟩ := h
  set passed := ConsoleLine.countValue (ConsoleLine.passedCount? line) with hpassed
  have hfailed : ConsoleLine.countValue (ConsoleLine.failedCount? line) = failed := by
    rw [hdigits, countValue_eq hvalue hsize]
  have hcounted : consoleTests text = countedTests text := by
    rw [consoleTests, hentries]
  have hfirst : placeholderLimit < failed ∨ clampedAdd passed 1 < UInt64.size - 1 := by
    refine hroom.imp id fun hroom => ?_
    rw [clampedAdd]
    omega
  let make (name : Text) : TestResult := .failed name (some (Text.trim text)) (some genericSummary)
  let counted := placeholders "test_case_".toList (clampedAdd passed 1) failed make
  obtain ⟨name, hname⟩ : ∃ name, make name ∈ counted := exists_placeholder hpos hfirst
  have hnone : ¬(passed = 0 ∧ failed = 0) := fun hzero => hpos.ne' hzero.2
  have htests : consoleTests text =
      some (placeholders "test_case_".toList 1 passed TestResult.passed ++ counted) := by
    rw [hcounted, countedTests, hline, Option.bind_some]
    dsimp only
    rw [hfailed, ← hpassed, if_neg hnone]
  exact ⟨_, htests, make name, List.mem_append_right _ hname, rfl⟩

end Console

/-- An output that states failed tests: in a report with counts, or, if no report gives results, in
its text. -/
def RawOutput.StatesFailures (raw : RawOutput) : Prop :=
  (∃ data, raw.structured = some data ∧ Structured.Counts data ∧ Structured.CountsFailures data) ∨
  (raw.Unstructured ∧ Console.CountsFailures raw.combinedText)

/-- Without entries for single tests, failed tests that are stated as a number are not lost. -/
theorem stated_failures_reported (raw : RawOutput)
    (hrich : raw.structured.bind Structured.richTests = none) (h : raw.StatesFailures) :
    ∃ r ∈ (normalize raw).tests, r.status.isFailure = true := by
  suffices hfailed : ∃ r ∈ (normalize raw).tests, r.status = .failed by
    obtain ⟨r, hr, hstatus⟩ := hfailed
    exact ⟨r, hr, by rw [hstatus]; rfl⟩
  rcases h with ⟨data, hdata, hcounts, hfailed⟩ | ⟨hnone, hfailed⟩
  · obtain ⟨ts, hts, hr⟩ := Structured.exists_failed_legacyTests hcounts hfailed
    have hlegacy : raw.structured.bind Structured.legacyTests = some ts := by
      rw [hdata, Option.bind_some, hts]
    rwa [normalize, hrich, hlegacy]
  · obtain ⟨ts, hts, hr⟩ := Console.exists_failed_consoleTests hfailed
    have hlegacy : raw.structured.bind Structured.legacyTests = none :=
      (raw.unstructured_iff.mp hnone).2
    have htests : (normalize raw).tests = ts := by simp [normalize, hrich, hlegacy, hts]
    rwa [htests]

def countedReport : Json :=
  .object [("failed".toList, .number (.ofUInt64 2)), ("failures".toList, .array [])]

def countedText : Text := "1 passed, 2 failed in 0.1s".toList

/-- A report with counts, and a text with counts, beside a successful exit code. -/
theorem stated_failures_reported_of_counts :
    (Structured.Counts countedReport ∧ Structured.CountsFailures countedReport ∧
      ∃ r ∈ (normalize ⟨some countedReport, [], [], some 0⟩).tests, r.status.isFailure = true) ∧
    (Console.CountsFailures countedText ∧
      ∃ r ∈ (normalize ⟨none, countedText, [], some 0⟩).tests, r.status.isFailure = true) := by
  have hcounts : Structured.Counts countedReport := .inr (by decide)
  have hfailed : Structured.CountsFailures countedReport := ⟨2, by decide, by decide⟩
  have htext : Console.CountsFailures countedText :=
    ⟨by decide +kernel, countedText, ['2'],
      2, by decide +kernel, by decide +kernel, by decide, by decide, by decide,
      .inr (by decide +kernel)⟩
  have hcombined : RawOutput.combinedText ⟨none, countedText, [], some 0⟩ = countedText := by
    decide +kernel
  have hunstructured : RawOutput.Unstructured ⟨none, countedText, [], some 0⟩ :=
    fun _ hdata => nomatch hdata
  refine ⟨⟨hcounts, hfailed, ?_⟩, htext, ?_⟩
  · exact stated_failures_reported _ (by decide +kernel)
      (.inl ⟨countedReport, rfl, hcounts, hfailed⟩)
  · exact stated_failures_reported _ rfl (.inr ⟨hunstructured, by rwa [hcombined]⟩)

/-- A report with nothing but a number of failed tests, and a text with a number beyond 64 bits, are
no reports of counts: a successful exit code then makes a passed test. -/
theorem stated_failures_passed :
    (∃ data, data = Json.object [("failed".toList, .number (.ofUInt64 1))] ∧
      Structured.richTests data = none ∧
      Structured.CountsFailures data ∧
      ¬∃ r ∈ (normalize ⟨some data, [], [], some 0⟩).tests, r.status.isFailure = true) ∧
    (∃ text, text = "99999999999999999999 failed".toList ∧
      (Console.Scan.ofLines (Text.lines text)).entries = [] ∧
      (Text.lines text).reverse.find? Console.hasCounts = some text ∧
      ConsoleLine.failedCount? text = some "99999999999999999999".toList ∧
      ¬∃ r ∈ (normalize ⟨none, text, [], some 0⟩).tests, r.status.isFailure = true) := by
  refine ⟨⟨_, rfl, by decide +kernel, ⟨1, by decide, by decide⟩, ?_⟩,
    ⟨_, rfl, by decide +kernel, by decide +kernel, by decide +kernel, ?_⟩⟩
  · decide +kernel
  · decide +kernel

end TestBench
