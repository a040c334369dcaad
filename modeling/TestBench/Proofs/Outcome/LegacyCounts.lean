import TestBench.Proofs.Outcome.Placeholders
import TestBench.Proofs.Text.Lines

/-! Reports with counts. Every listed failure and every counted test has its result, or its number
in the name of a range, and every failure has a headline. -/
namespace TestBench
namespace Structured

variable {data : Json}

/-- The items of a list of failures that are read as failures: messages and objects. -/
def isListed : Json → Bool
  | .string _ => true
  | .object _ => true
  | _ => false

@[simp] theorem isSome_listedFailure? (index : Nat) (v : Json) :
    (listedFailure? index v).isSome = isListed v := by
  cases v <;> rfl

/-- The listed failures are those of the items that can be read, in order, each with its place in
the list. -/
theorem forall₂_listed (n : Nat) (vs : List Json) :
    List.Forall₂ (fun item r => listedFailure? item.2 item.1 = some r)
      ((vs.zipIdx n).filter fun item => isListed item.1)
      ((numberedMap listedFailure? n vs).filterMap id) := by
  induction vs generalizing n with
  | nil => exact .nil
  | cons v vs ih =>
    rw [List.zipIdx_cons, numberedMap]
    cases hv : listedFailure? n v with
    | none =>
      have hnot : ¬isListed v = true := by simp [← isSome_listedFailure? n v, hv]
      rw [List.filter_cons_of_neg (p := fun item : Json × Nat => isListed item.1) hnot]
      exact ih (n + 1)
    | some r =>
      have hlisted : isListed v = true := by simp [← isSome_listedFailure? n v, hv]
      rw [List.filter_cons_of_pos (p := fun item : Json × Nat => isListed item.1) hlisted]
      exact .cons hv (ih (n + 1))

@[simp] theorem length_listedResults (data : Json) :
    (listedResults data).length = (listAt "failures" data).countP isListed := by
  have hlen := (forall₂_listed 0 (listAt "failures" data)).length_eq
  have hitems : (listAt "failures" data).zipIdx.map Prod.fst = listAt "failures" data :=
    List.zipIdx_map_fst 0 _
  rw [← List.countP_eq_length_filter] at hlen
  rw [listedResults, ← hlen]
  conv_rhs => rw [← hitems, List.countP_map]
  rfl

theorem statedCount_lt (key : String) (data : Json) : statedCount key data < UInt64.size :=
  UInt64.toNat_lt _

@[simp] theorem splitMessage_not_blank (message : Text) :
    Text.isBlankText (splitMessage message).2 = false := by
  rw [splitMessage]
  split
  · next rest _ =>
    cases hrest : Text.trimmed? rest with
    | none => rfl
    | some t =>
      obtain ⟨hne, rfl⟩ := Text.trimmed?_eq_some_iff.mp hrest
      rwa [Option.getD_some, Text.isBlankText_trim]
  · rfl

theorem headed_listedFailure? {index : Nat} {v : Json} {r : TestResult}
    (h : listedFailure? index v = some r) : Headed r := by
  cases v with
  | string message =>
    obtain rfl := Option.some.inj h
    obtain ⟨s, hs⟩ := Text.exists_firstLine? (splitMessage_not_blank message)
    exact ⟨s, hs, Text.not_blank_of_firstLine? hs⟩
  | object ms =>
    obtain rfl := Option.some.inj h
    cases hhead : (errorParts (failureErrorKeys.findSome? fun k =>
        ((Json.object ms).get? k).filter fun e => !e.isNull)).headline with
    | none => exact ⟨unknownError, by simp [TestResult.failed], rfl⟩
    | some s => exact ⟨s, by simp [TestResult.failed], headline_not_blank hhead⟩
  | _ => cases h

theorem mem_numberedResults {stem : Text} {first last : Nat} {make : Text → TestResult}
    {r : TestResult} (h : r ∈ numberedResults stem first last make) : ∃ name, r = make name := by
  rw [numberedResults] at h
  split at h
  · obtain ⟨n, -, rfl⟩ := List.mem_map.mp h
    exact ⟨_, rfl⟩
  · exact ⟨_, List.mem_singleton.mp h⟩

theorem countedFailure_injective : Function.Injective countedFailure :=
  fun _ _ h => congrArg TestResult.name h

theorem placeholders_counted {listed failed : Nat} (hlisted : listed < 2 ^ 63)
    (hfailed : failed < UInt64.size) :
    placeholders "Failure_".toList (listed + 1) (failed - listed) countedFailure =
      numberedResults "Failure_".toList (listed + 1) failed countedFailure := by
  have hsize : UInt64.size = 18446744073709551616 := rfl
  rcases Nat.lt_or_ge failed listed with hmore | hless
  · rw [numberedResults_eq_nil_iff.mpr (by omega), placeholders, if_pos (by omega)]
  · have hfirst : listed + 1 = min (listed + 1) (UInt64.size - 1) := by omega
    conv_lhs => rw [hfirst]
    rw [placeholders_eq (by omega) (by omega : listed + 1 + (failed - listed) = failed + 1)]
    refine (clampedResults_eq_iff countedFailure_injective).mpr ?_
    rw [placeholderLimit]
    omega

/-- A report with counts gives no results only if it states no test at all. Otherwise its results
are the listed failures in order, those for the other failed tests, numbered on from them, and those
for the passed tests; no number is cut off, and every failure has a headline. -/
theorem counts_accounted_for (hcounts : Counts data) :
    (legacyTests data = none ↔ (listAt "failures" data).countP isListed = 0 ∧
      statedCount "failed" data = 0 ∧
      statedCount "passed" data = 0) ∧
    ∀ results, legacyTests data = some results → ∃ listed counted,
      results = listed ++ counted ++
        numberedResults "Test_".toList 1 (statedCount "passed" data) TestResult.passed ∧
      List.Forall₂ (fun item r => listedFailure? item.2 item.1 = some r ∧ r.status = .failed)
        ((listAt "failures" data).zipIdx.filter fun item => isListed item.1) listed ∧
      listed.length = (listAt "failures" data).countP isListed ∧
      (listed.length < 2 ^ 63 → counted =
        numberedResults "Failure_".toList (listed.length + 1) (statedCount "failed" data)
          countedFailure) ∧
      ∀ r ∈ results, r.status.isFailure = true → Headed r := by
  rw [legacyTests_of_counts hcounts, placeholders_passed (statedCount_lt "passed" data)]
  have hlisted := forall₂_listed 0 (listAt "failures" data)
  constructor
  · rw [nonEmpty?_eq_none_iff, List.append_eq_nil_iff, List.append_eq_nil_iff,
      numberedResults_eq_nil_iff, ← List.length_eq_zero_iff, length_listedResults]
    constructor
    · rintro ⟨⟨hzero, hcounted⟩, hpassed⟩
      rw [hzero, Nat.sub_zero] at hcounted
      refine ⟨hzero, ?_, by omega⟩
      by_contra hne
      exact placeholders_ne_nil hne (by decide) hcounted
    · rintro ⟨hzero, hfailed, hpassed⟩
      rw [hzero, hfailed, hpassed]
      exact ⟨⟨rfl, rfl⟩, by decide⟩
  · intro results hresults
    obtain ⟨-, rfl⟩ := nonEmpty?_eq_some_iff.mp hresults
    refine ⟨_, _, rfl, ?_, length_listedResults data, fun hsize =>
      placeholders_counted hsize (statedCount_lt "failed" data), fun r hr hfailure => ?_⟩
    · exact hlisted.imp fun _ _ h => ⟨h, status_of_listedFailure? h⟩
    · rcases List.mem_append.mp hr with hr | hr
      · rcases List.mem_append.mp hr with hr | hr
        · obtain ⟨i, hi, rfl⟩ := List.mem_iff_getElem.mp hr
          exact headed_listedFailure? (List.forall₂_iff_get.mp hlisted |>.2 i (by
            rw [hlisted.length_eq]
            exact hi) hi)
        · obtain ⟨name, rfl⟩ := mem_placeholders hr
          exact ⟨_, rfl, by decide⟩
      · obtain ⟨name, rfl⟩ := mem_numberedResults hr
        cases hfailure

/-- Two listed failures and an item that is none; more failed tests than these, and as many passed
ones as there can be. -/
def fullReport : Json :=
  .object [("failed".toList, .number (.ofUInt64 5)),
    ("failures".toList, .array [.string "a: no\n  at b".toList, .bool true,
      .object [("message".toList, .string "c".toList)]]),
    ("passed".toList, .number (.ofUInt64 18446744073709551615))]

/-- The tests of the report are all there: the third failure is the first one that is only counted.
Each listed failure says what it is listed with. -/
theorem counts_accounted_for_of_full :
    Counts fullReport ∧ legacyTests fullReport ≠ none ∧
    ∃ listed counted, legacyTests fullReport =
        some (listed ++ counted ++
          numberedResults "Test_".toList 1 18446744073709551615 TestResult.passed) ∧
      listed = [⟨"a".toList, .failed, 0, some "no\n  at b".toList, some "no".toList⟩,
        ⟨"Failure_3".toList, .failed, 0, some "c".toList, some "c".toList⟩] ∧
      counted = ["Failure_3".toList, "Failure_4".toList, "Failure_5".toList].map fun name =>
        ⟨name, .failed, 0, none, some "Failure reported without details".toList⟩ := by
  have hcounts : Counts fullReport := .inr rfl
  obtain ⟨hnone, hsome⟩ := counts_accounted_for hcounts
  have hne : legacyTests fullReport ≠ none := fun h => absurd (hnone.mp h).1 (by decide)
  obtain ⟨results, hresults⟩ := Option.ne_none_iff_exists'.mp hne
  obtain ⟨listed, counted, rfl, hlisted, hlength, hcounted, -⟩ := hsome results hresults
  have htwo : listed.length = 2 := hlength
  obtain ⟨first, second, rfl⟩ := List.length_eq_two.mp htwo
  have hthird := hcounted (by rw [htwo]; decide)
  rw [htwo] at hthird
  refine ⟨hcounts, hne, _, counted, hresults, ?_, hthird.trans (by decide +kernel)⟩
  cases hlisted with
  | cons hfirst hrest =>
    cases hrest with
    | cons hsecond hnil =>
      have hfirst' : some _ = some first := hfirst.1
      have hsecond' : some _ = some second := hsecond.1
      rw [← Option.some.inj hfirst', ← Option.some.inj hsecond']
      decide +kernel

end Structured
end TestBench
