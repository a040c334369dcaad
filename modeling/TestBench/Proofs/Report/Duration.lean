import Mathlib.Algebra.GroupWithZero.Nat
import TestBench.Proofs.Except
import TestBench.Proofs.Text.Ansi
import TestBench.Report.Basic

/-! The duration of a run that nothing states. It is the sum of the durations of the tests as long
as 64 bits hold that; beyond them there is no report. -/
namespace TestBench

/-- Neither the structured report nor the text of an output states how long the run took. -/
structure RawOutput.Untimed (raw : RawOutput) : Prop where
  report : ∀ data, raw.structured = some data → Structured.durationMs data = none
  text : Console.textDurationMs raw.combinedText = none

namespace Report

variable {raw : RawOutput} {tests : List TestResult} {r : Report} {e : Error} {m n : UInt64}

/-- The durations of tests, added without any bound. -/
def totalMillis (tests : List TestResult) : Nat := (tests.map fun t => t.durationMs.toNat).sum

@[simp] theorem totalMillis_nil : totalMillis [] = 0 := rfl

@[simp] theorem totalMillis_cons (t : TestResult) (tests : List TestResult) :
    totalMillis (t :: tests) = t.durationMs.toNat + totalMillis tests := rfl

theorem totalMillis_le {limit : Nat} (h : ∀ t ∈ tests, t.durationMs.toNat ≤ limit) :
    totalMillis tests ≤ tests.length * limit := by
  induction tests with
  | nil => simp
  | cons t tests ih =>
    obtain ⟨ht, htests⟩ := List.forall_mem_cons.mp h
    rw [totalMillis_cons, List.length_cons, Nat.succ_mul, Nat.add_comm]
    exact Nat.add_le_add (ih htests) ht

theorem addMillis?_of_lt (h : m.toNat + n.toNat < UInt64.size) : addMillis? m n = some (m + n) :=
  if_pos h

theorem addMillis?_of_le (h : UInt64.size ≤ m.toNat + n.toNat) : addMillis? m n = none :=
  if_neg (Nat.not_lt_of_le h)

theorem foldlM_addMillis? (tests : List TestResult) (n : UInt64) :
    tests.foldlM (fun n t => addMillis? n t.durationMs) n =
      if n.toNat + totalMillis tests < UInt64.size then
        some (UInt64.ofNat (n.toNat + totalMillis tests))
      else none := by
  induction tests generalizing n with
  | nil => simp [n.toNat_lt]
  | cons t tests ih =>
    rw [List.foldlM_cons, totalMillis_cons, ← Nat.add_assoc]
    by_cases h : n.toNat + t.durationMs.toNat < UInt64.size
    · have hsum : (n + t.durationMs).toNat = n.toNat + t.durationMs.toNat := by
        rw [UInt64.toNat_add, Nat.mod_eq_of_lt h]
      rw [addMillis?_of_lt h, Option.bind_eq_bind, Option.bind_some, ih, hsum]
    · rw [addMillis?_of_le (Nat.le_of_not_lt h), if_neg (by omega)]
      rfl

theorem totalMillis?_eq (tests : List TestResult) : totalMillis? tests =
    if totalMillis tests < UInt64.size then some (UInt64.ofNat (totalMillis tests)) else none := by
  rw [totalMillis?, foldlM_addMillis?]
  simp

theorem totalMillis?_eq_some_iff : totalMillis? tests = some n ↔ totalMillis tests = n.toNat := by
  rw [totalMillis?_eq]
  constructor
  · intro h
    split at h
    · next hlt =>
      obtain rfl := Option.some.inj h
      exact (UInt64.toNat_ofNat_of_lt hlt).symm
    · cases h
  · intro h
    rw [h, if_pos n.toNat_lt, UInt64.ofNat_toNat]

theorem totalMillis?_eq_none_iff : totalMillis? tests = none ↔ UInt64.size ≤ totalMillis tests := by
  rw [totalMillis?_eq]
  split <;> simp <;> omega

/-- Nothing states a duration, and 64 bits do not hold the sum. -/
def Overflows (raw : RawOutput) : Prop :=
  raw.Untimed ∧ UInt64.size ≤ totalMillis (normalize raw).tests

theorem duration?_of_untimed (h : raw.Untimed) (tests : List TestResult) :
    duration? raw tests = totalMillis? tests := by
  have hreport : raw.structured.bind Structured.durationMs = none :=
    Option.bind_eq_none_iff.mpr h.report
  rw [duration?, hreport, h.text, Option.none_or, Option.none_or]

theorem duration?_eq_none_iff :
    duration? raw tests = none ↔ raw.Untimed ∧ UInt64.size ≤ totalMillis tests := by
  simp only [duration?, Option.or_eq_none_iff, Option.bind_eq_none_iff, totalMillis?_eq_none_iff]
  exact and_congr_left' ⟨fun ⟨hreport, htext⟩ => ⟨hreport, htext⟩, fun h => ⟨h.report, h.text⟩⟩

/-- There is a report unless the sum overflows. -/
theorem ofRaw_cases (raw : RawOutput) :
    (Overflows raw ∧ ofRaw raw = .error .overflow) ∨
    (¬Overflows raw ∧ ∃ durationMs, duration? raw (normalize raw).tests = some durationMs ∧
      ofRaw raw = .ok (lasting raw durationMs)) := by
  have hnone : duration? raw (normalize raw).tests = none ↔ Overflows raw := duration?_eq_none_iff
  rw [ofRaw]
  cases hduration : duration? raw (normalize raw).tests with
  | none => exact .inl ⟨hnone.mp hduration, rfl⟩
  | some durationMs =>
    refine .inr ⟨fun h => ?_, durationMs, rfl, rfl⟩
    rw [hnone.mpr h] at hduration
    cases hduration

theorem ofRaw_eq_error_iff : ofRaw raw = .error e ↔ e = .overflow ∧ Overflows raw := by
  rcases ofRaw_cases raw with ⟨hsum, h⟩ | ⟨hsum, durationMs, -, h⟩ <;>
    simp [h, hsum, eq_comm]

theorem ofRaw_eq_ok_iff : ofRaw raw = .ok r ↔
    ∃ durationMs, duration? raw (normalize raw).tests = some durationMs ∧
    r = lasting raw durationMs := by
  rw [ofRaw]
  cases duration? raw (normalize raw).tests <;> simp [eq_comm]

theorem exists_ofRaw_iff : (∃ r, ofRaw raw = .ok r) ↔ ¬Overflows raw := by
  rcases ofRaw_cases raw with ⟨hsum, h⟩ | ⟨hsum, durationMs, -, h⟩ <;> simp [h, hsum]

theorem tests_of_ofRaw (h : ofRaw raw = .ok r) : r.tests = (normalize raw).tests := by
  obtain ⟨durationMs, -, rfl⟩ := ofRaw_eq_ok_iff.mp h
  rfl

/-- The duration of a run that nothing states is the sum of the durations of all tests, without
any loss. Where 64 bits do not hold that sum, and only there, the program breaks off without a
report. -/
theorem untimed_duration (h : raw.Untimed) :
    (∀ r, ofRaw raw = .ok r → r.summary.durationMs.toNat = totalMillis r.tests) ∧
    ((∃ r, ofRaw raw = .ok r) ↔ totalMillis (normalize raw).tests < UInt64.size) ∧
    (ofRaw raw = .error .overflow ↔ UInt64.size ≤ totalMillis (normalize raw).tests) := by
  have hsum : Overflows raw ↔ UInt64.size ≤ totalMillis (normalize raw).tests := and_iff_right h
  refine ⟨fun r hr => ?_, ?_, ?_⟩
  · obtain ⟨durationMs, hduration, rfl⟩ := ofRaw_eq_ok_iff.mp hr
    rw [duration?_of_untimed h, totalMillis?_eq_some_iff] at hduration
    exact hduration.symm
  · rw [exists_ofRaw_iff, hsum, Nat.not_le]
  · rw [ofRaw_eq_error_iff, hsum]
    exact and_iff_right rfl

/-- A test that has passed, in a structured report. -/
def timedTest (name : String) (duration : Number) : Json :=
  .object [("duration".toList, .number duration), ("name".toList, .string name.toList),
    ("status".toList, .string "passed".toList)]

/-- Tests as the only thing that a report tells of. -/
def testsReport (entries : List Json) : Json := .object [("tests".toList, .array entries)]

/-- Such a report, and nothing printed. -/
def testsOnly (entries : List Json) (exitCode : Option Int := none) : RawOutput :=
  ⟨some (testsReport entries), [], [], exitCode⟩

theorem untimed_testsOnly (entries : List Json) (exitCode : Option Int) :
    (testsOnly entries exitCode).Untimed where
  report := by
    rintro _ ⟨⟩
    rfl
  text := by
    have htext : (testsOnly entries exitCode).combinedText = [] := by
      simp [RawOutput.combinedText, testsOnly]
    rw [htext]
    rfl

def timedTests (first second : Number) : RawOutput :=
  testsOnly [timedTest "a" first, timedTest "b" second]

/-- A sum close to the greatest number. -/
theorem untimed_duration_of_long :
    (timedTests (.ofUInt64 10000000000000000000) (.ofUInt64 8000000000000000000)).Untimed ∧
    ∃ r, ofRaw (timedTests (.ofUInt64 10000000000000000000) (.ofUInt64 8000000000000000000)) =
      .ok r ∧
      r.summary.durationMs.toNat = 18000000000000000000 := by
  have huntimed := untimed_testsOnly [timedTest "a" (.ofUInt64 10000000000000000000),
    timedTest "b" (.ofUInt64 8000000000000000000)] none
  have htotal : totalMillis (normalize (timedTests (.ofUInt64 10000000000000000000)
      (.ofUInt64 8000000000000000000))).tests = 18000000000000000000 := by
    decide +kernel
  obtain ⟨hduration, hreport, -⟩ := untimed_duration huntimed
  obtain ⟨r, hr⟩ := hreport.mpr (by rw [← timedTests, htotal]; decide)
  refine ⟨huntimed, r, hr, ?_⟩
  rw [hduration r hr, tests_of_ofRaw hr]
  exact htotal

theorem totalMillis_timedTests : totalMillis (normalize (timedTests (.ofUInt64 18446744073709551615)
    (.ofUInt64 1))).tests = 18446744073709551616 := by
  decide +kernel

theorem overflows_timedTests :
    Overflows (timedTests (.ofUInt64 18446744073709551615) (.ofUInt64 1)) :=
  ⟨untimed_testsOnly _ _, Nat.le_of_eq totalMillis_timedTests.symm⟩

/-- One millisecond more than the greatest number. -/
theorem total_duration_overflows :
    (timedTests (.ofUInt64 18446744073709551615) (.ofUInt64 1)).Untimed ∧
    totalMillis (normalize (timedTests (.ofUInt64 18446744073709551615) (.ofUInt64 1))).tests =
      18446744073709551616 ∧
    ofRaw (timedTests (.ofUInt64 18446744073709551615) (.ofUInt64 1)) = .error .overflow :=
  ⟨overflows_timedTests.1, totalMillis_timedTests,
    ofRaw_eq_error_iff.mpr ⟨rfl, overflows_timedTests⟩⟩

end Report
end TestBench
