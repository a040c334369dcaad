import TestBench.Proofs.Outcome.Failures
import TestBench.Proofs.Outcome.IndentedDetail

/-! What the results of a text say. A failed test has a headline, and its error is trimmed if there
is one; a passed test has neither. Only a failure block without any text leaves the headline of its
test blank. -/
namespace TestBench
namespace Console

theorem mem_shownTexts {lines : List Text} {t : Text} (h : t ∈ shownTexts lines) :
    Text.isBlankText t = false := by
  obtain ⟨hmem, hne⟩ := List.mem_filter.mp h
  obtain ⟨l, -, rfl⟩ := List.mem_map.mp hmem
  rw [Text.isBlankText_trim, ← Text.trim_ne_nil_iff]
  simpa using hne

theorem shownTexts_eq_nil_iff {lines : List Text} : shownTexts lines = [] ↔
    ∀ l ∈ lines, Text.isBlankText l = true := by
  simp only [shownTexts, List.filter_eq_nil_iff, List.forall_mem_map, decide_not, Bool.not_eq_true',
    decide_eq_false_iff_not, not_not]
  refine forall₂_congr fun l _ => ?_
  rw [← not_iff_not, ← Ne, Text.trim_ne_nil_iff, Bool.not_eq_true]

theorem headline_blank {lines : List Text} (h : Text.isBlankText (headline lines) = true) :
    headline lines = [] ∧ ∀ l ∈ lines, Text.isBlankText l = true := by
  rw [headline] at h ⊢
  split at h
  · next herrors =>
    rw [if_pos herrors]
    have hshown : shownTexts lines = [] := by
      by_contra hne
      obtain ⟨earlier, last, hlast⟩ := (List.eq_nil_or_concat _).resolve_left hne
      have hshown : last ∈ shownTexts lines := by simp [hlast]
      have hmem : last ∈ lastTwo (shownTexts lines) := by
        rw [lastTwo, hlast, List.concat_eq_append, List.drop_append_of_le_length (by simp)]
        simp
      rw [Text.joinWith_not_blank hmem (mem_shownTexts hshown)] at h
      cases h
    rw [hshown]
    exact ⟨rfl, shownTexts_eq_nil_iff.mp hshown⟩
  · next herrors =>
    obtain ⟨t, ts, hts⟩ := List.exists_cons_of_ne_nil herrors
    have hmem : t ∈ errorTexts lines := hts ▸ List.mem_cons_self
    rw [Text.unlines, Text.joinWith_not_blank hmem (mem_shownTexts hmem)] at h
    cases h

/-- An error or a detail that is worth showing: it says something, and nothing stands around it. -/
def Shown (t : Text) : Prop := Text.isBlankText t = false ∧ Text.Trimmed t

theorem shown_trim {t : Text} (h : Text.isBlankText t = false) : Shown (Text.trim t) :=
  ⟨by rwa [Text.isBlankText_trim], Text.trimmed_trim t⟩

theorem Tells.error_and_headline {lines : List Text} {r : TestResult} (h : Tells lines r) :
    (∀ t, r.error = some t → Shown t) ∧
    ∃ s, r.errorSummary = some s ∧
      (Text.isBlankText s = true → s = [] ∧ r.error = none ∧
        ∀ l ∈ lines, Text.isBlankText l = true) := by
  constructor
  · intro t ht
    obtain ⟨hblank, rfl⟩ := Text.trimmed?_eq_some_iff.mp (h.error.symm.trans ht)
    exact shown_trim hblank
  · refine ⟨_, h.headline, fun hblank => ?_⟩
    obtain ⟨hempty, hlines⟩ := headline_blank hblank
    refine ⟨hempty, ?_, hlines⟩
    rw [h.error, Text.trimmed?_eq_none_iff]
    exact Text.isBlankText_joinWith (by decide) hlines

def Legible (l : Text) : Prop := '\n' ∉ l ∧ Text.isBlankText l = false

def DetailText (d : Text) : Prop :=
  ∃ l ls, (∀ m ∈ l :: ls, Legible m) ∧ d = Text.unlines ((l :: ls).map Text.trim)

theorem DetailText.shown_and_first {d : Text} (h : DetailText d) :
    Shown d ∧ ∃ s, Text.firstLine? d = some s ∧ Text.isBlankText s = false := by
  obtain ⟨l, ls, hlegible, rfl⟩ := h
  have hl : Text.isBlankText l = false := (hlegible l List.mem_cons_self).2
  have hshown : ∀ t ∈ (l :: ls).map Text.trim, Shown t := by
    intro t ht
    obtain ⟨m, hm, rfl⟩ := List.mem_map.mp ht
    exact shown_trim (hlegible m hm).2
  have hfirst : Text.trim l ∈ (l :: ls).map Text.trim := List.mem_map_of_mem List.mem_cons_self
  refine ⟨⟨Text.joinWith_not_blank hfirst (hshown _ hfirst).1,
    Text.trimmed_joinWith fun t ht => ⟨?_, (hshown t ht).2⟩⟩,
    Text.trim l, firstLine?_detail (fun m hm => (hlegible m hm).1) hl, (hshown _ hfirst).1⟩
  rintro rfl
  exact absurd (hshown _ ht).1 (by decide)

namespace Scan

/-- Details that are put away are texts of details, and the lines of an open one can be made into
one. -/
structure Detailed (s : Scan) : Prop where
  details : ∀ e ∈ s.entries, ∀ d, e.detail = some d → DetailText d
  held : ∀ indent held, s.openBlock = .indented indent held → ∀ l ∈ held, Legible l

namespace Detailed

variable {s : Scan} {line : Text}

theorem close (h : s.Detailed) : s.close.Detailed := by
  refine ⟨?_, by simp⟩
  rw [Scan.close]
  cases hopen : s.openBlock with
  | closed => exact h.details
  | header name held => exact h.details
  | indented indent held =>
    have hheld : ∀ l ∈ held.reverse, Legible l :=
      fun l hl => h.held indent held hopen l (List.mem_reverse.mp hl)
    have hdetails := h.details
    cases hentries : s.entries with
    | nil => simp [attach]
    | cons e es =>
      rw [hentries] at hdetails
      refine List.forall_mem_cons.mpr ⟨fun d hd => ?_, (List.forall_mem_cons.mp hdetails).2⟩
      cases hlines : held.reverse with
      | nil => simp [hlines] at hd
      | cons l ls =>
        rw [hlines] at hd hheld
        exact ⟨l, ls, hheld, (Option.some.inj hd).symm⟩

theorem push (h : s.Detailed) {e : Entry} (he : e.detail = none) : (s.push e).Detailed :=
  ⟨List.forall_mem_cons.mpr ⟨by simp [he], h.details⟩, h.held⟩

theorem step (h : s.Detailed) (hline : '\n' ∉ line) : (s.step line).Detailed := by
  have hmove := s.move_step line
  generalize s.step line = t at hmove ⊢
  cases hmove with
  | header => exact ⟨h.close.details, by simp⟩
  | body => exact ⟨h.details, by simp⟩
  | rule => exact h.close
  | @detail indent held hopen _ hdetail =>
    refine ⟨h.details, fun indent' held' hopen' => ?_⟩
    obtain ⟨-, rfl⟩ := OpenBlock.indented.inj hopen'
    simp only [isDetail, Bool.and_eq_true, Bool.not_eq_true'] at hdetail
    exact List.forall_mem_cons.mpr ⟨⟨hline, hdetail.1.1⟩, h.held indent held hopen⟩
  | nothing => exact h.close
  | entry _ he => exact h.close.push he
  | cross _ he =>
    refine ⟨(h.close.push he).details, fun _ _ hopen => ?_⟩
    obtain ⟨-, rfl⟩ := OpenBlock.indented.inj hopen
    simp

theorem run (h : s.Detailed) {lines : List Text} (hlines : ∀ l ∈ lines, '\n' ∉ l) :
    (lines.foldl Scan.step s).Detailed := by
  induction lines generalizing s with
  | nil => exact h
  | cons l lines ih =>
    obtain ⟨hl, hlines⟩ := List.forall_mem_cons.mp hlines
    exact ih (h.step hl) hlines

theorem ofLines {lines : List Text} (hlines : ∀ l ∈ lines, '\n' ∉ l) :
    (Scan.ofLines lines).Detailed := by
  have hstart : start.Detailed := ⟨by simp [start], by simp [start]⟩
  exact (hstart.run hlines).close

end Detailed
end Scan

/-- What a result of a text says: nothing if the test has passed, and otherwise a headline and
perhaps an error. The headline is blank only if a block for the test has no text. -/
def Says (text : Text) (r : TestResult) : Prop :=
  (r.status = .passed ∧ r.error = none ∧ r.errorSummary = none) ∨
  (r.status = .failed ∧ (∀ t, r.error = some t → Shown t) ∧
    ∃ s, r.errorSummary = some s ∧ (Text.isBlankText s = true → s = [] ∧ r.error = none ∧
      ∃ b ∈ blocksOf (Text.lines text), (b.name = r.name ∨ OfClass r.name b.name) ∧
        ∀ l ∈ b.lines, Text.isBlankText l = true))

theorem says_result {text : Text} {e : Entry} (he : e ∈ (Scan.ofLines (Text.lines text)).entries) :
    Says text ((Scan.ofLines (Text.lines text)).result e) := by
  set s := Scan.ofLines (Text.lines text) with hs
  have hstatus := s.status_result e
  cases hfailed : e.status.isFailure with
  | false =>
    have hresult : s.result e = { TestResult.passed e.name with durationMs := e.durationMs } := by
      rw [Scan.result, if_neg (by simp [hfailed])]
    rw [hresult]
    exact .inl ⟨rfl, rfl, rfl⟩
  | true =>
    rw [hfailed] at hstatus
    cases hdetail : e.detail with
    | some d =>
      have hdetailed : s.Detailed := Scan.Detailed.ofLines fun _ hl => Text.not_mem_of_mem_lines hl
      obtain ⟨hshown, t, hfirst, ht⟩ := (hdetailed.details e he d hdetail).shown_and_first
      obtain ⟨herror, hsummary⟩ := s.result_of_detail hfailed hdetail
      refine .inr ⟨hstatus, fun u hu => ?_, t, hsummary.trans hfirst, fun hblank => ?_⟩
      · obtain rfl := Option.some.inj (herror.symm.trans hu)
        exact hshown
      · rw [ht] at hblank
        cases hblank
    | none =>
      cases attributed_result (Text.lines text) hfailed hdetail with
      | @own b hb htells =>
        obtain ⟨herror, t, hsummary, hblank⟩ := htells.error_and_headline
        refine .inr ⟨hstatus, herror, t, hsummary, fun ht => ?_⟩
        obtain ⟨hempty, hnone, hlines⟩ := hblank ht
        exact ⟨hempty, hnone, b, List.mem_of_find?_eq_some hb,
          .inl (by simpa using List.find?_some hb), hlines⟩
      | @ofClass b _ hb hclass htells =>
        obtain ⟨herror, t, hsummary, hblank⟩ := htells.error_and_headline
        refine .inr ⟨hstatus, herror, t, hsummary, fun ht => ?_⟩
        obtain ⟨hempty, hnone, hlines⟩ := hblank ht
        exact ⟨hempty, hnone, b, hb, .inr hclass, hlines⟩
      | nowhere _ herror hsummary =>
        refine .inr ⟨hstatus, fun u hu => ?_, genericSummary, hsummary,
          fun hblank => absurd hblank (by decide)⟩
        rw [herror] at hu
        cases hu

theorem countFrom?_of_blank {word t : Text} (h : ∀ c ∈ t, Text.isBlank c = true) :
    ConsoleLine.countFrom? word [] t = none := by
  induction t with
  | nil => rfl
  | cons c t ih =>
    obtain ⟨hc, ht⟩ := List.forall_mem_cons.mp h
    rw [ConsoleLine.countFrom?, LineShape.isAnyDigit_of_isBlank hc]
    simpa using ih ht

theorem not_blank_of_hasCounts {line : Text} (h : hasCounts line = true) :
    Text.isBlankText line = false := by
  rw [← Bool.not_eq_true]
  intro hblank
  rw [Text.isBlankText, List.all_eq_true] at hblank
  simp [hasCounts, ConsoleLine.passedCount?, ConsoleLine.failedCount?,
    countFrom?_of_blank hblank] at h

theorem says_of_countedTests {text : Text} {results : List TestResult}
    (h : countedTests text = some results) {r : TestResult} (hr : r ∈ results) : Says text r := by
  obtain ⟨line, hline, hcounted⟩ := Option.bind_eq_some_iff.mp h
  have htext : Text.isBlankText text = false := by
    have hmem : line ∈ Text.lines text := List.mem_reverse.mp (List.mem_of_find?_eq_some hline)
    have hcounts := not_blank_of_hasCounts (List.find?_some hline)
    rw [← Bool.not_eq_true] at hcounts ⊢
    exact fun hblank =>
      hcounts (Text.isBlankText_of_isInfix (Text.isInfix_of_mem_lines hmem) hblank)
  dsimp only at hcounted
  split at hcounted
  · cases hcounted
  · obtain rfl := Option.some.inj hcounted
    rcases List.mem_append.mp hr with hr | hr
    · obtain ⟨name, rfl⟩ := mem_placeholders hr
      exact .inl ⟨rfl, rfl, rfl⟩
    · obtain ⟨name, rfl⟩ := mem_placeholders hr
      refine .inr ⟨rfl, fun t ht => ?_, genericSummary, rfl,
        fun hblank => absurd hblank (by decide)⟩
      obtain rfl := Option.some.inj ht
      exact shown_trim htext

/-- Every result of a text is a passed one without error and headline, or a failed one with a
headline. -/
theorem failures_say_something {text : Text} {results : List TestResult}
    (h : consoleTests text = some results) {r : TestResult} (hr : r ∈ results) : Says text r := by
  rw [consoleTests] at h
  split at h
  · exact says_of_countedTests h hr
  · obtain rfl := Option.some.inj h
    obtain ⟨e, he, rfl⟩ := List.mem_map.mp hr
    exact says_result (List.mem_reverse.mp he)

/-- A test with a block, before a block without text for another test. -/
def blockText : Text :=
  Text.unlines ["test_a FAILED".toList, "_____ test_a _____".toList, "E   boom".toList,
    "_____ test_b _____".toList]

/-- The block without text is one of another test, so that the headline is not blank. -/
theorem failures_say_something_of_block :
    consoleTests blockText =
      some [.failed "test_a".toList (some "E   boom".toList) (some "boom".toList)] ∧
    Says blockText (.failed "test_a".toList (some "E   boom".toList) (some "boom".toList)) ∧
    ∀ b ∈ blocksOf (Text.lines blockText), b.name = "test_a".toList ∨
    OfClass "test_a".toList b.name →
      ¬∀ l ∈ b.lines, Text.isBlankText l = true := by
  have h : consoleTests blockText =
      some [.failed "test_a".toList (some "E   boom".toList) (some "boom".toList)] := by
    decide +kernel
  exact ⟨h, failures_say_something h List.mem_cons_self, by decide +kernel⟩

/-- A header without any lines below leaves its test without error, and with a headline that says
nothing. -/
theorem empty_block_says_nothing :
    consoleTests (Text.unlines ["test_a FAILED".toList, "_____ test_a _____".toList]) =
      some [.failed "test_a".toList none (some [])] := by
  decide +kernel

end Console
end TestBench
