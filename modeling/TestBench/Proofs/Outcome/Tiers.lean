import TestBench.Outcome.Normalize
import TestBench.Proofs.Json.Lookup
import TestBench.Proofs.Outcome.LineShape

/-! Which tier gives the results of an output: the first one that has some. Whichever it is, there
is at least one result, since no tier answers with an empty list. -/
namespace TestBench

variable {α β : Type}

namespace Structured

theorem numberedMap_eq (f : Nat → α → β) (n : Nat) (as : List α) :
    numberedMap f n as = (as.zipIdx n).map fun a => f a.2 a.1 := by
  induction as generalizing n with
  | nil => rfl
  | cons a as ih => rw [numberedMap, ih, List.zipIdx_cons, List.map_cons]

@[simp] theorem length_numberedMap (f : Nat → α → β) (n : Nat) (as : List α) :
    (numberedMap f n as).length = as.length := by
  rw [numberedMap_eq, List.length_map, List.length_zipIdx]

theorem mem_numberedMap {f : Nat → α → β} {n : Nat} {as : List α} {b : β}
    (h : b ∈ numberedMap f n as) :
    ∃ i, ∃ a ∈ as, b = f i a := by
  rw [numberedMap_eq] at h
  obtain ⟨⟨a, i⟩, ha, rfl⟩ := List.mem_map.mp h
  exact ⟨i, a, List.fst_mem_of_mem_zipIdx ha, rfl⟩

@[simp] theorem numberedMap_map {γ : Type} (f : Nat → β → γ) (g : α → β) (n : Nat) (as : List α) :
    numberedMap f n (as.map g) = numberedMap (fun i a => f i (g a)) n as := by
  rw [numberedMap_eq, numberedMap_eq, List.zipIdx_map, List.map_map]
  rfl

theorem numberedMap_congr {f g : Nat → α → β} {n : Nat} {as : List α}
    (h : ∀ a ∈ as, ∀ i, f i a = g i a) :
    numberedMap f n as = numberedMap g n as := by
  rw [numberedMap_eq, numberedMap_eq]
  exact List.map_congr_left fun a ha => h a.1 (List.fst_mem_of_mem_zipIdx ha) a.2

theorem numberedMap_eq_iff {f g : Nat → α → β} {p : α → Prop} {as : List α}
    (h : ∀ a ∈ as, ∀ i, f i a = g i a ↔ p a) (n : Nat) :
    numberedMap f n as = numberedMap g n as ↔ ∀ a ∈ as, p a := by
  induction as generalizing n with
  | nil => simp [numberedMap]
  | cons a as ih =>
    obtain ⟨ha, has⟩ := List.forall_mem_cons.mp h
    rw [numberedMap, numberedMap, List.cons.injEq, ha, ih has, List.forall_mem_cons]

theorem forall_mem_listAt {p : Json → Prop} (hp : Json.Inherited p) {key : String} {v : Json}
    (h : p v) :
    ∀ w ∈ listAt key v, p w := by
  intro w hw
  rw [listAt] at hw
  cases hitems : v.itemsAt? key.toList with
  | none => simp [hitems] at hw
  | some vs => exact hp.itemsAt? h vs hitems w (by simpa [hitems] using hw)

@[simp] theorem nonEmpty?_eq_none_iff {as : List α} : nonEmpty? as = none ↔ as = [] := by
  cases as <;> simp [nonEmpty?]

theorem nonEmpty?_eq_some_iff {as bs : List α} : nonEmpty? as = some bs ↔ as ≠ [] ∧ as = bs := by
  cases as <;> simp [nonEmpty?]

theorem numberedMap_ne_nil {o : Option (List α)} {f : Nat → α → β} {bs : List β}
    (h : (o.bind nonEmpty?).map (numberedMap f 0) = some bs) : bs ≠ [] := by
  obtain ⟨as, has, rfl⟩ := Option.map_eq_some_iff.mp h
  obtain ⟨as', _, has'⟩ := Option.bind_eq_some_iff.mp has
  obtain ⟨hne, rfl⟩ := nonEmpty?_eq_some_iff.mp has'
  intro hnil
  have hlen := length_numberedMap f 0 as'
  rw [hnil] at hlen
  exact hne (List.length_eq_zero_iff.mp hlen.symm)

theorem richTests_ne_nil {data : Json} {ts : List TestResult} (h : richTests data = some ts) :
    ts ≠ [] := by
  simp only [richTests, Option.or_eq_some_iff] at h
  rcases h with h | ⟨_, h | ⟨_, h | ⟨_, h⟩⟩⟩
  · exact numberedMap_ne_nil h
  · exact numberedMap_ne_nil h
  · exact numberedMap_ne_nil (o := some (listAt "tests" data)) h
  · obtain ⟨_, _, h⟩ := Option.bind_eq_some_iff.mp h
    obtain ⟨hne, rfl⟩ := nonEmpty?_eq_some_iff.mp h
    exact hne

theorem legacyTests_ne_nil {data : Json} {ts : List TestResult} (h : legacyTests data = some ts) :
    ts ≠ [] := by
  rw [legacyTests] at h
  split at h
  · simp at h
  · obtain ⟨hne, rfl⟩ := nonEmpty?_eq_some_iff.mp h
    exact hne

end Structured

/-- Some tests that are only counted have a placeholder, unless the numbers are used up. -/
theorem placeholders_ne_nil {stem : Text} {first count : Nat} {make : Text → TestResult}
    (hcount : count ≠ 0) (hfirst : first < UInt64.size - 1) :
    placeholders stem first count make ≠ [] := by
  rw [placeholders, if_neg hcount]
  split
  · simp
  · have hlen : 0 < clampedAdd first count - first := by
      rw [clampedAdd]
      omega
    rw [Ne, List.map_eq_nil_iff, List.range'_eq_nil_iff]
    omega

namespace Console

theorem countedTests_ne_nil {text : Text} {ts : List TestResult} (h : countedTests text = some ts) :
    ts ≠ [] := by
  obtain ⟨line, _, hline⟩ := Option.bind_eq_some_iff.mp h
  dsimp only at hline
  split at hline
  · simp at hline
  · rename_i hcounts
    rw [Option.some.injEq] at hline
    subst hline
    rw [Ne, List.append_eq_nil_iff]
    rintro ⟨hpassed, hfailed⟩
    -- Without passed tests the failed ones are numbered from one on.
    by_cases hp : ConsoleLine.countValue (ConsoleLine.passedCount? line) = 0
    · rw [hp] at hfailed
      exact placeholders_ne_nil (fun hf => hcounts ⟨hp, hf⟩) (by decide) hfailed
    · exact placeholders_ne_nil hp (by decide) hpassed

theorem consoleTests_ne_nil {text : Text} {ts : List TestResult} (h : consoleTests text = some ts) :
    ts ≠ [] := by
  rw [consoleTests] at h
  split at h
  · exact countedTests_ne_nil h
  · rename_i hne
    rw [Option.some.injEq] at h
    subst h
    simpa using hne

end Console

/-- What a tier makes of an output, whatever the other tiers make of it. -/
def Tier.results? (raw : RawOutput) : Tier → Option (List TestResult)
  | structuredRich => raw.structured.bind Structured.richTests
  | structuredLegacy => raw.structured.bind Structured.legacyTests
  | consoleText => Console.consoleTests raw.combinedText
  | exitCode => some (exitCodeTests raw raw.combinedText)

theorem exitCodeTests_eq_singleton (raw : RawOutput) (text : Text) :
    ∃ r, exitCodeTests raw text = [r] ∧
      (r.status = .passed ↔
        raw.exitCode = some 0 ∧ ¬Shape.Contains LineShape.collectionNotice text) := by
  rw [← LineShape.hasCollectionError_iff, exitCodeTests]
  split
  · rename_i h
    refine ⟨_, rfl, iff_of_false (by simp [TestResult.failed]) ?_⟩
    rintro ⟨hcode, hnot⟩
    rcases h with h | h
    · exact hnot h
    · rw [hcode] at h
      exact absurd h (by decide)
  · rename_i h
    have hnot : ¬ConsoleLine.hasCollectionError text = true := fun hc => h (.inl hc)
    cases hcode : raw.exitCode with
    | none => exact ⟨_, rfl, by simp [TestResult.failed]⟩
    | some code =>
      by_cases hzero : code = 0
      · exact ⟨.passed "test_execution".toList, by simp [hzero], by
          simp [TestResult.passed, hzero, hnot]⟩
      · refine ⟨_, if_neg hzero, ?_⟩
        simp [TestResult.failed, hzero]

theorem Tier.results?_ne_nil {raw : RawOutput} {tier : Tier} {ts : List TestResult}
    (h : tier.results? raw = some ts) : ts ≠ [] := by
  cases tier with
  | structuredRich =>
    obtain ⟨_, _, h⟩ := Option.bind_eq_some_iff.mp h
    exact Structured.richTests_ne_nil h
  | structuredLegacy =>
    obtain ⟨_, _, h⟩ := Option.bind_eq_some_iff.mp h
    exact Structured.legacyTests_ne_nil h
  | consoleText => exact Console.consoleTests_ne_nil h
  | exitCode =>
    obtain ⟨r, hr, _⟩ := exitCodeTests_eq_singleton raw raw.combinedText
    rw [results?, hr, Option.some.injEq] at h
    rw [← h]
    exact List.cons_ne_nil _ _

/-- The four ways in which results come about: those of a tier, after none of the tiers
before it. -/
theorem normalize_cases (raw : RawOutput) :
    (∃ ts, Tier.structuredRich.results? raw = some ts ∧ normalize raw = ⟨.structuredRich, ts⟩) ∨
    (Tier.structuredRich.results? raw = none ∧
      ∃ ts, Tier.structuredLegacy.results? raw = some ts ∧
      normalize raw = ⟨.structuredLegacy, ts⟩) ∨
    (Tier.structuredRich.results? raw = none ∧ Tier.structuredLegacy.results? raw = none ∧
      ∃ ts, Tier.consoleText.results? raw = some ts ∧ normalize raw = ⟨.consoleText, ts⟩) ∨
    (Tier.structuredRich.results? raw = none ∧ Tier.structuredLegacy.results? raw = none ∧
      Tier.consoleText.results? raw = none ∧
      normalize raw = ⟨.exitCode, exitCodeTests raw raw.combinedText⟩) := by
  rw [normalize]
  cases hrich : raw.structured.bind Structured.richTests with
  | some ts => exact .inl ⟨ts, hrich, rfl⟩
  | none =>
    cases hlegacy : raw.structured.bind Structured.legacyTests with
    | some ts => exact .inr (.inl ⟨hrich, ts, hlegacy, rfl⟩)
    | none =>
      cases htext : Console.consoleTests raw.combinedText with
      | some ts => exact .inr (.inr (.inl ⟨hrich, hlegacy, ts, htext, by simp [htext]⟩))
      | none => exact .inr (.inr (.inr ⟨hrich, hlegacy, htext, by simp [htext]⟩))

@[simp] theorem results?_normalize (raw : RawOutput) :
    (normalize raw).tier.results? raw = some (normalize raw).tests := by
  rcases normalize_cases raw with ⟨ts, h, hn⟩ | ⟨_, ts, h, hn⟩ | ⟨_, _, ts, h, hn⟩ | ⟨_, _, _, hn⟩
  · rw [hn, h]
  · rw [hn, h]
  · rw [hn, h]
  · rw [hn, Tier.results?]

/-- No structured report, or one of which neither structured tier makes anything. -/
def RawOutput.Unstructured (raw : RawOutput) : Prop :=
  ∀ data, raw.structured = some data →
    Structured.richTests data = none ∧ Structured.legacyTests data = none

theorem RawOutput.unstructured_iff (raw : RawOutput) :
    raw.Unstructured ↔
      Tier.structuredRich.results? raw = none ∧ Tier.structuredLegacy.results? raw = none := by
  rw [Unstructured, Tier.results?, Tier.results?]
  cases raw.structured <;> simp

/-- Results are never missing, and they are those of the first tier that has some. -/
theorem normalize_first_tier (raw : RawOutput) :
    (normalize raw).tests ≠ [] ∧
    (normalize raw).tier.results? raw = some (normalize raw).tests ∧
    ((normalize raw).tier = .structuredRich ↔
      ∃ data, raw.structured = some data ∧ (Structured.richTests data).isSome = true) ∧
    ((normalize raw).tier = .structuredLegacy ↔
      ∃ data, raw.structured = some data ∧ Structured.richTests data = none ∧
        (Structured.legacyTests data).isSome = true) ∧
    ((normalize raw).tier = .consoleText ↔
      raw.Unstructured ∧ (Console.consoleTests raw.combinedText).isSome = true) ∧
    ((normalize raw).tier = .exitCode ↔
      raw.Unstructured ∧ Console.consoleTests raw.combinedText = none) ∧
    ((normalize raw).tier = .exitCode → ∃ r, (normalize raw).tests = [r] ∧
      (r.status = .passed ↔ raw.exitCode = some 0 ∧
        ¬Shape.Contains LineShape.collectionNotice raw.combinedText)) := by
  refine ⟨Tier.results?_ne_nil (results?_normalize raw), results?_normalize raw, ?_⟩
  have hrich : (∃ data, raw.structured = some data ∧ (Structured.richTests data).isSome = true) ↔
      (Tier.structuredRich.results? raw).isSome = true := by
    rw [Tier.results?, LineShape.isSome_bind_iff]
  have hlegacy : (∃ data, raw.structured = some data ∧ Structured.richTests data = none ∧
      (Structured.legacyTests data).isSome = true) ↔
      Tier.structuredRich.results? raw = none ∧
        (Tier.structuredLegacy.results? raw).isSome = true := by
    rw [Tier.results?, Tier.results?]
    cases raw.structured <;> simp
  have htext : Console.consoleTests raw.combinedText = Tier.consoleText.results? raw := rfl
  rw [hrich, hlegacy, htext, raw.unstructured_iff]
  rcases normalize_cases raw with
    ⟨ts, h, hn⟩ | ⟨h, ts, h', hn⟩ | ⟨h, h', ts, h'', hn⟩ | ⟨h, h', h'', hn⟩
  · simp [hn, h]
  · simp [hn, h, h']
  · simp [hn, h, h', h'']
  · simpa [hn, h, h', h''] using exitCodeTests_eq_singleton raw raw.combinedText

/-- Structured data without results and a text without results leave the exit code. -/
theorem normalize_first_tier_of_empty_object :
    (normalize ⟨some (.object []), "collected 0 items / 1 error".toList, [], some 0⟩).tier =
      .exitCode ∧
    ∃ r, (normalize ⟨some (.object []), "collected 0 items / 1 error".toList, [], some 0⟩).tests =
      [r] ∧
      r.status ≠ .passed := by
  have htier :
      (normalize ⟨some (.object []), "collected 0 items / 1 error".toList, [], some 0⟩).tier =
        .exitCode := by
    decide +kernel
  obtain ⟨r, htests, hpassed⟩ := (normalize_first_tier
    ⟨some (.object []), "collected 0 items / 1 error".toList, [], some 0⟩).2.2.2.2.2.2 htier
  have hnotice : Shape.Contains LineShape.collectionNotice
      (RawOutput.combinedText ⟨some (.object []), "collected 0 items / 1 error".toList, [],
        some 0⟩) :=
    (LineShape.hasCollectionError_iff _).mp (by decide +kernel)
  exact ⟨htier, r, htests, fun h => (hpassed.mp h).2 hnotice⟩

end TestBench
