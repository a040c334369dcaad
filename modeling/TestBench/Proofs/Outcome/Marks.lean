import TestBench.Proofs.Outcome.BlockFrame

/-! Lines that begin with a check mark or a cross. Outside of the blocks with a header each of them
is recorded, and once. A test that the line names together with a status word goes before its mark:
only where that word agrees, or where there is none, the mark decides the status. -/
namespace TestBench

namespace LineShape

open Shape

/-- The characters that mark a test as passed, and those that mark it as failed. -/
def marks : Bool → List Char
  | true => ['✓', '✔', '√']
  | false => ['✗', '✘', '×', '✕']

/-- A mark alone. -/
def mark (passed : Bool) : Language Char := {t | ∃ c ∈ marks passed, t = [c]}

/-- `(3 ms)` after white space: digits of any script, perhaps with a fraction. -/
def duration : Language Char :=
  someRun Text.isBlank * (word "(" * (someRun Text.isAnyDigit *
    ((1 + word "." * someRun Text.isAnyDigit) * (run Text.isBlank * word "ms)"))))

/-- `✓ title (3 ms)`: a mark, white space and something, perhaps with a duration. -/
def checkmark (passed : Bool) : Language Char :=
  run Text.isBlank * (mark passed * (someRun Text.isBlank *
    (something * ((1 + duration) * run Text.isBlank))))

@[simp] theorem mark?_eq_some_iff {c : Char} {passed : Bool} :
    ConsoleLine.mark? c = some passed ↔ c ∈ marks passed := by
  rw [ConsoleLine.mark?]
  by_cases hcheck : c ∈ marks true
  · have hcross : c ∉ marks false := by
      intro h
      simp only [marks, List.mem_cons, List.not_mem_nil, or_false] at hcheck h
      rcases hcheck with rfl | rfl | rfl <;> simp at h
    rw [if_pos (by simpa [marks] using hcheck)]
    cases passed <;> simp [hcheck, hcross]
  · rw [if_neg (by simpa [marks] using hcheck)]
    by_cases hcross : c ∈ marks false
    · rw [if_pos (by simpa [marks] using hcross)]
      cases passed <;> simp [hcheck, hcross]
    · rw [if_neg (by simpa [marks] using hcross)]
      cases passed <;> simp [hcheck, hcross]

theorem not_isBlank_of_mem_marks {c : Char} {passed : Bool} (h : c ∈ marks passed) :
    Text.isBlank c = false := by
  have hall : ∀ b, (marks b).all (fun c => !Text.isBlank c) = true := by decide
  simpa using List.all_eq_true.mp (hall passed) c h

/-- After the mark there is white space and at least one more character. Whatever it is, a title is
found in it. -/
theorem mem_checkmark_iff {line : Text} {passed : Bool} :
    line ∈ checkmark passed ↔
      ∃ c ∈ marks passed, ∃ x y rest, Text.trimStart line = c :: x :: y :: rest ∧
        Text.isBlank x = true := by
  constructor
  · rintro ⟨a, ha, _, ⟨_, ⟨c, hc, rfl⟩, _, ⟨s, hs, _, ⟨title, htitle, tail, _, rfl⟩, rfl⟩, rfl⟩,
      rfl⟩
    obtain ⟨x, s, rfl⟩ := List.exists_cons_of_ne_nil hs.1
    obtain ⟨z, title, rfl⟩ := List.exists_cons_of_ne_nil htitle
    obtain ⟨y, rest, hrest⟩ : ∃ y rest, s ++ ((z :: title) ++ tail) = y :: rest :=
      List.exists_cons_of_ne_nil (by simp)
    refine ⟨c, hc, x, y, rest, ?_, hs.2 x (by simp)⟩
    rw [← hrest]
    exact dropWhile_append ha (by simpa using not_isBlank_of_mem_marks hc)
  · rintro ⟨c, hc, x, y, rest, hline, hx⟩
    have hsplit :
        line = line.takeWhile Text.isBlank ++ ([c] ++ ([x] ++ ((y :: rest) ++ ([] ++ [])))) := by
      rw [Text.trimStart] at hline
      conv_lhs => rw [← List.takeWhile_append_dropWhile (p := Text.isBlank) (l := line), hline]
      simp
    rw [hsplit]
    refine Language.append_mem_mul (takeWhile_mem_run _ _) (Language.append_mem_mul ⟨c, hc, rfl⟩
      (Language.append_mem_mul ⟨by simp, by simpa using hx⟩ (Language.append_mem_mul (by simp)
        (Language.append_mem_mul ?_ (by simp)))))
    exact (Language.mem_add _ _ _).mpr (.inl Language.nil_mem_one)

theorem map_passed_checkmark? (line : Text) :
    (ConsoleLine.checkmark? line).map (·.passed) =
      match Text.trimStart line with
      | c :: x :: _ :: _ => if Text.isBlank x then ConsoleLine.mark? c else none
      | _ => none := by
  rw [ConsoleLine.checkmark?]
  rcases Text.trimStart line with _ | ⟨c, _ | ⟨x, rest⟩⟩
  · rfl
  · simp [ConsoleLine.afterBlanks?]
  · by_cases hx : Text.isBlank x = true
    · simp only [ConsoleLine.afterBlanks?, hx, if_true, Option.bind_some]
      cases rest with
      | nil => simp [Text.trimStart]
      | cons y rest =>
        simp only [hx, if_true]
        cases ConsoleLine.mark? c with
        | none => rfl
        | some passed =>
          rw [Option.bind_some]
          split
          · simp
          · split <;> rfl
    · cases rest <;> simp [ConsoleLine.afterBlanks?, hx]

/-- A line is read as one of a check mark reporter exactly if it has the shape of one. -/
theorem exists_checkmark?_iff {line : Text} {passed : Bool} :
    (∃ found, ConsoleLine.checkmark? line = some found ∧ found.passed = passed) ↔
      line ∈ checkmark passed := by
  rw [← Option.map_eq_some_iff, map_passed_checkmark?, mem_checkmark_iff]
  rcases Text.trimStart line with _ | ⟨c, _ | ⟨x, _ | ⟨y, rest⟩⟩⟩
  · simp
  · simp
  · simp
  · by_cases hx : Text.isBlank x = true <;> simp [hx]

theorem not_blockHeader_of_checkmark {line : Text} {passed : Bool} (h : line ∈ checkmark passed) :
    line ∉ blockHeader := by
  rintro ⟨_, ⟨n, hn, rfl⟩, rest, _, hsplit⟩
  obtain ⟨c, hc, x, y, _, hline, _⟩ := mem_checkmark_iff.mp h
  obtain ⟨m, rfl⟩ : ∃ m, n = m + 1 := ⟨n - 1, by omega⟩
  have hhead : line = '_' :: (List.replicate m '_' ++ rest) := hsplit.symm
  have hblank : Text.isBlank '_' = false := by decide
  rw [hhead, Text.trimStart, List.dropWhile_cons_of_neg (by simp [hblank]),
    List.cons.injEq] at hline
  have hrule : ∀ b, '_' ∉ marks b := by decide
  exact hrule passed (hline.1 ▸ hc)

end LineShape

namespace Console

def markStatus (passed : Bool) : Status := if passed then .passed else .failed

@[simp] theorem markStatus_eq_iff {a b : Bool} : markStatus a = markStatus b ↔ a = b := by
  revert a b
  decide

namespace Scan

variable {s : Scan} {line : Text} {passed : Bool}

theorem exists_recorded_run (s : Scan) (lines : List Text) :
    ∃ more, (lines.foldl step s).recorded = s.recorded ++ more := by
  have h : Follows s.recorded s { start with openBlock := s.openBlock } := ⟨rfl, by simp⟩
  exact ⟨_, (h.run lines).recorded⟩

/-- A line with a mark is no detail of the test before it and closes the block of that one. -/
theorem step_checkmark (hs : ∀ name lines, s.openBlock ≠ .header name lines)
    (hline : line ∈ LineShape.checkmark passed) : s.step line = s.close.readStatus line := by
  obtain ⟨found, hfound, -⟩ := LineShape.exists_checkmark?_iff.mpr hline
  rw [step, blockHeader?_eq_none (LineShape.not_blockHeader_of_checkmark hline)]
  dsimp only
  cases hopen : s.openBlock with
  | closed => simp [close, hopen]
  | header name lines => exact absurd hopen (hs name lines)
  | indented indent lines => simp [isDetail, hfound]

theorem readStatus_checkmark (s : Scan) (hline : line ∈ LineShape.checkmark passed) :
    ∃ e : Entry, (s.readStatus line).recorded = s.recorded ++ [e.outline] ∧
      e.status.isFailure = match ConsoleLine.named? line with
        | some (_, word) => (Status.ofWord word).isFailure
        | none => !passed := by
  rw [readStatus]
  cases ConsoleLine.named? line with
  | some named => exact ⟨_, recorded_push _ _, rfl⟩
  | none =>
    obtain ⟨found, hfound, rfl⟩ := LineShape.exists_checkmark?_iff.mpr hline
    rw [hfound]
    cases hp : found.passed with
    | true => exact ⟨⟨Text.trim found.title, .passed, found.millis, none⟩, by simp [hp], rfl⟩
    | false => exact ⟨⟨Text.trim found.title, .failed, found.millis, none⟩, by simp [hp], rfl⟩

@[simp] theorem name_result (s : Scan) (e : Entry) : (s.result e).name = e.name := by
  rw [result]
  split
  · split <;> rfl
  · rfl

theorem status_result (s : Scan) (e : Entry) :
    (s.result e).status = markStatus !e.status.isFailure := by
  rw [result]
  cases e.status.isFailure with
  | false => rfl
  | true =>
    rw [if_pos rfl]
    split <;> rfl

end Scan

theorem consoleTests_of_entries {text : Text} (h : (Scan.ofLines (Text.lines text)).entries ≠ []) :
    consoleTests text =
      some ((Scan.ofLines (Text.lines text)).entries.reverse.map
        (Scan.ofLines (Text.lines text)).result) := by
  rw [consoleTests]
  split
  · exact absurd ‹_› h
  · rfl

theorem result_at_entry {text : Text} {i : Nat} {e : Entry}
    (h : (Scan.ofLines (Text.lines text)).entries.reverse[i]? = some e) :
    ∃ results, consoleTests text = some results ∧
    results[i]? = some ((Scan.ofLines (Text.lines text)).result e) := by
  have hentries : (Scan.ofLines (Text.lines text)).entries ≠ [] :=
    List.ne_nil_of_mem (List.mem_reverse.mp (List.mem_of_getElem? h))
  exact ⟨_, consoleTests_of_entries hentries, by rw [List.getElem?_map, h, Option.map_some]⟩

theorem exists_result {text : Text} {earlier later : List (Text × Status × UInt64)} {e : Entry}
    (h : (Scan.ofLines (Text.lines text)).recorded = earlier ++ e.outline :: later) :
    ∃ results r, consoleTests text = some results ∧ results[earlier.length]? = some r ∧
      r.name = e.name ∧ r.status = markStatus !e.status.isFailure := by
  set s := Scan.ofLines (Text.lines text) with hs
  have hat : (s.entries.reverse[earlier.length]?).map Entry.outline = some e.outline := by
    rw [← List.getElem?_map, ← Scan.recorded, h]
    simp
  obtain ⟨found, hfound, houtline⟩ := Option.map_eq_some_iff.mp hat
  have hname : found.name = e.name := congrArg Prod.fst houtline
  have hstatus : found.status = e.status := congrArg (fun o => o.2.1) houtline
  obtain ⟨results, hresults, hr⟩ := result_at_entry hfound
  refine ⟨results, s.result found, hresults, hr, ?_, ?_⟩
  · rw [Scan.name_result, hname]
  · rw [Scan.status_result, hstatus]

/-- A line with a mark, outside of the blocks with a header, gives one result. It has the status of
the mark if and only if no status word of a test in the line says otherwise. -/
theorem mark_against_word {text line : Text} {before after : List Text} {passed : Bool}
    (hlines : Text.lines text = before ++ line :: after)
    (hopen : ∀ name lines, (before.foldl Scan.step Scan.start).openBlock ≠ .header name lines)
    (hline : line ∈ LineShape.checkmark passed) :
    ∃ e r results, (Scan.ofLines (before ++ [line])).recorded =
      (Scan.ofLines before).recorded ++ [e] ∧
      consoleTests text = some results ∧ results[(Scan.ofLines before).recorded.length]? = some r ∧
      r.name = e.1 ∧
      (r.status = markStatus passed ↔ ∀ name word, ConsoleLine.named? line = some (name, word) →
        (Status.ofWord word).isFailure = !passed) := by
  set s := before.foldl Scan.step Scan.start with hs
  have hbefore : (Scan.ofLines before).recorded = s.recorded := Scan.recorded_close s
  obtain ⟨e, he, hfailure⟩ := s.close.readStatus_checkmark hline
  have hstep : (s.step line).recorded = s.recorded ++ [e.outline] := by
    rw [Scan.step_checkmark hopen hline, he, Scan.recorded_close]
  -- What is read after the line only adds to the record, so that its place in it stays.
  obtain ⟨more, hmore⟩ := Scan.exists_recorded_run (s.step line) after
  have hall : (Scan.ofLines (Text.lines text)).recorded = s.recorded ++ e.outline :: more := by
    rw [Scan.ofLines, Scan.recorded_close, hlines, List.foldl_append, List.foldl_cons, ← hs, hmore,
      hstep]
    simp
  obtain ⟨results, r, hresults, hr, hname, hstatus⟩ := exists_result hall
  refine ⟨e.outline, r, results, ?_, hresults, by rw [hbefore, hr], hname, ?_⟩
  · rw [hbefore, Scan.ofLines, Scan.recorded_close, List.foldl_append, ← hs]
    exact hstep
  · rw [hstatus, hfailure, markStatus_eq_iff]
    cases ConsoleLine.named? line with
    | none => simp
    | some named =>
      simp only [Option.some.injEq, Bool.not_eq_eq_eq_not]
      exact ⟨fun h _ _ hnamed => by rw [← h, hnamed], fun h => h named.1 named.2 rfl⟩

/-- The cross before the last line does not carry over to it, nor does the detail under that
cross. -/
theorem mark_against_word_of_adds :
    ∃ r results, consoleTests "  ✗ divides (3 ms)\n    by zero\n  ✓ adds".toList = some results ∧
      results[1]? = some r ∧ r.status = .passed := by
  have hlines : Text.lines "  ✗ divides (3 ms)\n    by zero\n  ✓ adds".toList =
      ["  ✗ divides (3 ms)".toList, "    by zero".toList] ++ "  ✓ adds".toList :: [] := by
    decide +kernel
  have hblock :
      (["  ✗ divides (3 ms)".toList, "    by zero".toList].foldl Scan.step Scan.start).openBlock =
        .indented 2 ["    by zero".toList] := by
    decide +kernel
  have hopen : ∀ name lines, (["  ✗ divides (3 ms)".toList, "    by zero".toList].foldl
      Scan.step Scan.start).openBlock ≠ .header name lines := by
    intro name lines h
    rw [hblock] at h
    cases h
  have hmark : "  ✓ adds".toList ∈ LineShape.checkmark true :=
    LineShape.mem_checkmark_iff.mpr ⟨'✓', by decide, ' ', 'a', "dds".toList, by decide, by decide⟩
  have hnamed : ConsoleLine.named? "  ✓ adds".toList = none := by decide +kernel
  have hcount :
      (Scan.ofLines ["  ✗ divides (3 ms)".toList, "    by zero".toList]).recorded.length = 1 := by
    decide +kernel
  obtain ⟨e, r, results, -, hresults, hr, -, hstatus⟩ := mark_against_word hlines hopen hmark
  refine ⟨r, results, hresults, by rwa [hcount] at hr, hstatus.mpr ?_⟩
  intro name word h
  rw [hnamed] at h
  cases h

/-- The word `passed` in the title of a failed test makes a passed test of another name of it. -/
theorem cross_against_word :
    "✗ test_login passed over".toList ∈ LineShape.checkmark false ∧
      consoleTests "✗ test_login passed over".toList =
        some [TestResult.passed "test_login".toList] :=
  ⟨LineShape.mem_checkmark_iff.mpr ⟨'✗', by decide, ' ', 't',
    "est_login passed over".toList, by decide, by decide⟩, by decide +kernel⟩

end Console
end TestBench
