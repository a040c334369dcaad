import TestBench.Proofs.Outcome.Counts
import TestBench.Proofs.Outcome.Failures
import TestBench.Proofs.Text.Basic

/-! Results for tests that are known by number only. They are numbered up to their count, or a
single one names the range; the greatest numbers of 64 bits are the only ones that this does not
hold for. -/
namespace TestBench

variable {stem : Text} {first count last : Nat} {make : Text → TestResult}

/-- The name of a single result for a range of tests. -/
def rangeName (stem : Text) (first last count : Nat) : Text :=
  stem ++ Text.ofNat first ++ "..".toList ++ stem ++ Text.ofNat last ++ " (".toList ++
    Text.ofNat count ++ " tests)".toList

/-- Results for the tests numbered from `first` to `last`, whatever the numbers are: one for each,
or a single one for the range if they are more than the limit. -/
def numberedResults (stem : Text) (first last : Nat) (make : Text → TestResult) : List TestResult :=
  if last + 1 - first ≤ placeholderLimit then (List.range' first (last + 1 - first)).map fun n =>
    make (stem ++ Text.ofNat n)
  else [make (rangeName stem first last (last + 1 - first))]

@[simp] theorem length_numberedResults (h : last + 1 - first ≤ placeholderLimit) :
    (numberedResults stem first last make).length = last + 1 - first := by
  rw [numberedResults, if_pos h, List.length_map, List.length_range']

@[simp] theorem numberedResults_eq_nil_iff :
    numberedResults stem first last make = [] ↔ last < first := by
  rw [numberedResults]
  split
  · rw [List.map_eq_nil_iff, List.range'_eq_nil_iff]
    omega
  · next hmany =>
    rw [placeholderLimit] at hmany
    refine iff_of_false (List.cons_ne_nil _ _) ?_
    omega

theorem ofNat_append_inj {m n : Nat} {s t : Text} (hs : ∀ c, s.head? = some c → c.isDigit = false)
    (ht : ∀ c, t.head? = some c → c.isDigit = false) (h : Text.ofNat m ++ s = Text.ofNat n ++ t) :
    m = n ∧ s = t := by
  have hdigits : ∀ k, Text.ofNat k ∈ Shape.run Char.isDigit :=
    Text.forall_mem_ofNat fun _ hdigit => hdigit
  have hsame := congrArg (List.span Char.isDigit) h
  rw [Shape.span_append (hdigits m) hs, Shape.span_append (hdigits n) ht, Prod.mk.injEq] at hsame
  exact ⟨Text.ofNat_injective hsame.1, hsame.2⟩

theorem rangeName_inj {first' last' : Nat}
    (h : rangeName stem first last count = rangeName stem first' last' count) :
    first = first' ∧ last = last' := by
  have hdots : ∀ t : Text, ∀ c, ("..".toList ++ t).head? = some c → c.isDigit = false := by
    rintro t _ ⟨⟩
    rfl
  have hblank : ∀ t : Text, ∀ c, (" (".toList ++ t).head? = some c → c.isDigit = false := by
    rintro t _ ⟨⟩
    rfl
  simp only [rangeName, List.append_assoc, List.append_cancel_left_eq] at h
  obtain ⟨hfirst, hrest⟩ := ofNat_append_inj (hdots _) (hdots _) h
  rw [List.append_cancel_left_eq, List.append_cancel_left_eq] at hrest
  exact ⟨hfirst, (ofNat_append_inj (hblank _) (hblank _) hrest).1⟩

/-- The numbered results as far as 64 bits go: a few are cut off before the greatest number, and a
range is cut off at it. -/
def clampedResults (stem : Text) (first last : Nat) (make : Text → TestResult) : List TestResult :=
  if last + 1 - first ≤ placeholderLimit then
    numberedResults stem first (min last (UInt64.size - 2)) make
  else [make (rangeName stem (min first (UInt64.size - 1)) (min last (UInt64.size - 1))
    (last + 1 - first))]

/-- The placeholders that begin with a number, or with the greatest one in its place. -/
theorem placeholders_eq (hfirst : first ≤ UInt64.size) (hlast : first + count = last + 1) :
    placeholders stem (min first (UInt64.size - 1)) count make =
      clampedResults stem first last make := by
  have hsize : UInt64.size = 18446744073709551616 := rfl
  have hcount : last + 1 - first = count := by omega
  rw [clampedResults, hcount, placeholders]
  by_cases hfew : count ≤ placeholderLimit
  · have hmin : min last (UInt64.size - 2) + 1 - first =
        clampedAdd (min first (UInt64.size - 1)) count - min first (UInt64.size - 1) := by
      rw [clampedAdd]
      omega
    have hfew' : min last (UInt64.size - 2) + 1 - first ≤ placeholderLimit := by omega
    rw [if_pos hfew, if_neg (by omega : ¬count > placeholderLimit), numberedResults, if_pos hfew',
      ← hmin]
    split
    · next hzero =>
      rw [show min last (UInt64.size - 2) + 1 - first = 0 by omega]
      rfl
    · by_cases hgreatest : first < UInt64.size
      · rw [min_eq_left (by omega : first ≤ UInt64.size - 1)]
      · -- The numbers are used up before the first one.
        rw [show min last (UInt64.size - 2) + 1 - first = 0 by omega]
        rfl
  · have hlast' :
        clampedAdd (min first (UInt64.size - 1)) (count - 1) = min last (UInt64.size - 1) := by
      rw [placeholderLimit] at hfew
      rw [clampedAdd]
      omega
    rw [if_neg hfew, if_neg (by omega : ¬count = 0), if_pos (by omega), hlast']
    rfl

theorem clampedResults_eq_nil_iff :
    clampedResults stem first last make = [] ↔
      last < first ∨ (last + 1 - first ≤ placeholderLimit ∧ UInt64.size ≤ first + 1) := by
  have hsize : UInt64.size = 18446744073709551616 := rfl
  rw [clampedResults]
  split
  · rw [numberedResults_eq_nil_iff]
    omega
  · next hmany =>
    rw [placeholderLimit] at hmany ⊢
    refine iff_of_false (List.cons_ne_nil _ _) ?_
    omega

/-- Nothing is cut off exactly if there is no test, or the last number is below the greatest one; in
the name of a range it may be the greatest one. -/
theorem clampedResults_eq_iff (hmake : Function.Injective make) :
    clampedResults stem first last make = numberedResults stem first last make ↔
      last < first ∨ last + 1 < UInt64.size ∨
      (placeholderLimit < last + 1 - first ∧ last < UInt64.size) := by
  have hsize : UInt64.size = 18446744073709551616 := rfl
  rw [clampedResults]
  split
  · next hfew =>
    constructor
    · intro h
      have hlen := congrArg List.length h
      rw [length_numberedResults (by omega), length_numberedResults hfew] at hlen
      omega
    · rintro (hnone | hroom | ⟨hmany, -⟩)
      · rw [numberedResults_eq_nil_iff.mpr hnone, numberedResults_eq_nil_iff.mpr (by omega)]
      · rw [min_eq_left (by omega)]
      · omega
  · next hmany =>
    have hsome : first ≤ last := by
      rw [placeholderLimit] at hmany
      omega
    rw [numberedResults, if_neg hmany, List.cons.injEq]
    constructor
    · rintro ⟨h, -⟩
      have := rangeName_inj (hmake h)
      omega
    · intro h
      rw [min_eq_left (by omega), min_eq_left (by omega)]
      exact ⟨rfl, rfl⟩

theorem placeholders_passed (hcount : count < UInt64.size) :
    placeholders stem 1 count TestResult.passed =
      numberedResults stem 1 count TestResult.passed := by
  have hinjective : Function.Injective TestResult.passed := fun _ _ h => congrArg TestResult.name h
  rw [show (1 : Nat) = min 1 (UInt64.size - 1) from rfl,
    placeholders_eq (by decide) (Nat.add_comm 1 count)]
  have hsize : UInt64.size = 18446744073709551616 := rfl
  refine (clampedResults_eq_iff hinjective).mpr ?_
  rw [placeholderLimit]
  omega

namespace Console

/-- The result for a failed test of which only the number is known: the whole text is its error. -/
def countedFailure (text name : Text) : TestResult :=
  .failed name (some (Text.trim text)) (some genericSummary)

theorem countedFailure_injective (text : Text) : Function.Injective (countedFailure text) :=
  fun _ _ h => congrArg TestResult.name h

/-- The results of a text that is judged by its last line with counts: the passed tests, and then
the failed ones. These are numbered after the passed ones, as far as the numbers go: they are what
they should be unless the last number is too great, and missing altogether only if the passed tests
have used up the numbers. -/
theorem summary_line_expanded {text : Text} {passed failed : Nat}
    (htests : (Scan.ofLines (Text.lines text)).entries = [])
    (hsummary : LineShape.Summary text passed failed) (hpassed : passed < UInt64.size)
    (hfailed : failed < UInt64.size) (hsome : ¬(passed = 0 ∧ failed = 0)) :
    ∃ failures, consoleTests text =
        some (numberedResults "test_case_".toList 1 passed TestResult.passed ++ failures) ∧
      failures = clampedResults "test_case_".toList (passed + 1) (passed + failed)
        (countedFailure text) ∧
      (failures = numberedResults "test_case_".toList (passed + 1) (passed + failed)
        (countedFailure text) ↔
        failed = 0 ∨ passed + failed + 1 < UInt64.size ∨
        (placeholderLimit < failed ∧ passed + failed < UInt64.size)) ∧
      (failures = [] ↔ failed = 0 ∨ (failed ≤ placeholderLimit ∧ UInt64.size ≤ passed + 2)) := by
  obtain ⟨before, line, after, hlines, hline, hafter, hp, hf⟩ := hsummary
  have hcounted : consoleTests text = countedTests text := by
    rw [consoleTests, htests]
  have hpassed' : ConsoleLine.countValue (ConsoleLine.passedCount? line) = passed :=
    LineShape.countValue_of_states LineShape.solid_passed hp hpassed
  have hfailed' : ConsoleLine.countValue (ConsoleLine.failedCount? line) = failed :=
    LineShape.countValue_of_states LineShape.solid_failed hf hfailed
  have hfirst : clampedAdd passed 1 = min (passed + 1) (UInt64.size - 1) := rfl
  have hfailures :
    placeholders "test_case_".toList (clampedAdd passed 1) failed (countedFailure text) =
      clampedResults "test_case_".toList (passed + 1) (passed + failed) (countedFailure text) := by
    rw [hfirst, placeholders_eq hpassed (Nat.add_right_comm passed 1 failed)]
  have htotal : passed + failed + 1 - (passed + 1) = failed := by omega
  refine ⟨_, ?_, rfl, ?_, ?_⟩
  · rw [hcounted, countedTests, LineShape.find?_hasCounts hlines hline hafter, Option.bind_some]
    dsimp only
    rw [hpassed', hfailed', if_neg hsome, placeholders_passed hpassed, ← hfailures]
    rfl
  · rw [clampedResults_eq_iff (countedFailure_injective text), htotal]
    omega
  · rw [clampedResults_eq_nil_iff, htotal]
    omega

/-- Nearly as many passed tests as there are numbers, and a failed one that takes one of the last
numbers. -/
def fullText : Text := "18446744073709551613 passed, 1 FAILED in 2s".toList

theorem summary_fullText : LineShape.Summary fullText 18446744073709551613 1 :=
  LineShape.summary_of_line (p := "18446744073709551613".toList) (f := ['1']) (by decide +kernel)
    (by decide +kernel)
    (by decide +kernel) (by decide +kernel) (by decide +kernel)

theorem summary_line_expanded_of_full :
    LineShape.Summary fullText 18446744073709551613 1 ∧
    ∃ failures, consoleTests fullText =
        some (numberedResults "test_case_".toList 1 18446744073709551613 TestResult.passed ++
          failures) ∧
      failures = [countedFailure fullText "test_case_18446744073709551614".toList] := by
  obtain ⟨failures, htests, -, hfailures, -⟩ :=
    summary_line_expanded (by decide +kernel) summary_fullText (by decide)
    (by decide) (by decide)
  refine ⟨summary_fullText, failures, htests, (hfailures.mpr (.inr (.inl (by decide)))).trans ?_⟩
  decide +kernel

def overfullText : Text := "18446744073709551614 passed, 1 failed".toList

/-- The failed test has the greatest number then, before which the numbers end: all results are
passed ones. -/
theorem failed_test_is_lost :
    (Scan.ofLines (Text.lines overfullText)).entries = [] ∧
    LineShape.Summary overfullText 18446744073709551614 1 ∧
    consoleTests overfullText ≠
      some (numberedResults "test_case_".toList 1 18446744073709551614 TestResult.passed ++
      numberedResults "test_case_".toList 18446744073709551615 18446744073709551615
        (countedFailure overfullText)) ∧
    ∃ results, consoleTests overfullText = some results ∧ ∀ r ∈ results, r.status = .passed := by
  have htests : consoleTests overfullText =
      some (numberedResults "test_case_".toList 1 18446744073709551614 TestResult.passed) := by
    decide +kernel
  have hsummary : LineShape.Summary overfullText 18446744073709551614 1 :=
    LineShape.summary_of_line (p := "18446744073709551614".toList) (f := ['1']) (by decide +kernel)
      (by decide +kernel)
      (by decide +kernel) (by decide +kernel) (by decide +kernel)
  refine ⟨by decide +kernel, hsummary, ?_, _, htests, by decide +kernel⟩
  rw [htests]
  decide +kernel

end Console
end TestBench
