import TestBench.Proofs.Outcome.Blocks

/-! The detail under a cross. It is the longest run of lines below that are not blank, stand further
in and have no mark of their own. No such line is read in any other way, and what comes after them
is read as if there had been none. -/
namespace TestBench
namespace Console

/-- A line that belongs to the detail under another one, as long as all lines between do. -/
structure DetailOf (line l : Text) : Prop where
  shown : Text.isBlankText l = false
  deeper : Scan.indentOf line < Scan.indentOf l
  unmarked : ∀ passed, l ∉ LineShape.checkmark passed

theorem checkmark?_eq_none_iff {l : Text} :
    ConsoleLine.checkmark? l = none ↔ ∀ passed, l ∉ LineShape.checkmark passed := by
  constructor
  · intro h passed hmem
    obtain ⟨found, hfound, -⟩ := LineShape.exists_checkmark?_iff.mpr hmem
    rw [h] at hfound
    cases hfound
  · intro h
    rw [Option.eq_none_iff_forall_ne_some]
    exact fun found hfound =>
      h found.passed (LineShape.exists_checkmark?_iff.mp ⟨found, hfound, rfl⟩)

@[simp] theorem isDetail_iff {line l : Text} : Scan.isDetail (Scan.indentOf line) l = true ↔
    DetailOf line l := by
  rw [Scan.isDetail, Bool.and_eq_true, Bool.and_eq_true, Bool.not_eq_true', decide_eq_true_eq,
    Option.isNone_iff_eq_none, checkmark?_eq_none_iff]
  exact ⟨fun h => ⟨h.1.1, h.1.2, h.2⟩, fun h => ⟨⟨h.shown, h.deeper⟩, h.unmarked⟩⟩

theorem indentOf_of_blockHeader {l : Text} (h : l ∈ LineShape.blockHeader) :
    Scan.indentOf l = 0 := by
  obtain ⟨_, ⟨n, hn, rfl⟩, tail, -, hsplit⟩ := h
  obtain ⟨m, rfl⟩ : ∃ m, n = m + 1 := ⟨n - 1, by omega⟩
  have hhead : l = '_' :: (List.replicate m '_' ++ tail) := hsplit.symm
  rw [Scan.indentOf, hhead, List.takeWhile_cons_of_neg (by decide)]
  rfl

namespace Scan

variable {s : Scan} {indent : Nat} {held : List Text}

theorem blockHeader?_of_isDetail {l : Text} (h : isDetail indent l = true) :
    ConsoleLine.blockHeader? l = none := by
  refine blockHeader?_eq_none fun hheader => ?_
  simp only [isDetail, Bool.and_eq_true, decide_eq_true_eq] at h
  have hindent := indentOf_of_blockHeader hheader
  omega

theorem step_detail {l : Text} (hopen : s.openBlock = .indented indent held)
    (h : isDetail indent l = true) :
    s.step l = { s with openBlock := .indented indent (l :: held) } := by
  rw [step, blockHeader?_of_isDetail h]
  dsimp only
  rw [hopen]
  dsimp only
  rw [if_pos h]

theorem run_detail {ls : List Text} (hopen : s.openBlock = .indented indent held)
    (h : ∀ l ∈ ls, isDetail indent l = true) :
    ls.foldl step s = { s with openBlock := .indented indent (ls.reverse ++ held) } := by
  induction ls generalizing s held with
  | nil => rw [List.foldl_nil, List.reverse_nil, List.nil_append, ← hopen]
  | cons l ls ih =>
    obtain ⟨hl, hls⟩ := List.forall_mem_cons.mp h
    rw [List.foldl_cons, step_detail hopen hl, ih rfl hls, List.reverse_cons, List.append_assoc,
      List.singleton_append]

theorem close_of_closed (h : s.openBlock = .closed) : s.close = s := by rw [close, h]

theorem step_after_detail {l : Text} (hopen : s.openBlock = .indented indent held)
    (h : isDetail indent l = false) :
    s.step l = s.close.step l := by
  have hclosed : s.close.openBlock = .closed := openBlock_close s
  rw [step, step, close_of_closed hclosed]
  cases ConsoleLine.blockHeader? l with
  | some name => rfl
  | none =>
    dsimp only
    rw [hopen, hclosed]
    dsimp only
    rw [if_neg (by simp [h])]

theorem run_after_detail {rest : List Text} (hopen : s.openBlock = .indented indent held)
    (h : ∀ l, rest.head? = some l → isDetail indent l = false) :
    (rest.foldl step s).close = (rest.foldl step s.close).close := by
  cases rest with
  | nil =>
    rw [List.foldl_nil, List.foldl_nil]
    exact (close_of_closed (openBlock_close s)).symm
  | cons l rest => rw [List.foldl_cons, List.foldl_cons, step_after_detail hopen (h l rfl)]

theorem close_detail {e : Entry} {es : List Entry} (hopen : s.openBlock = .indented indent held)
    (hentries : s.entries = e :: es) :
    s.close = ⟨{ e with detail :=
      if held = [] then none else some (Text.unlines (held.reverse.map Text.trim)) } :: es,
      s.blocks, .closed⟩ := by
  rw [close, hopen, hentries]
  dsimp only [attach]
  cases hheld : held.reverse with
  | nil => simp [List.reverse_eq_nil_iff.mp hheld]
  | cons l ls =>
    have hne : held ≠ [] := by
      rintro rfl
      cases hheld
    rw [if_neg hne]

/-- The entries that nothing is added to any more: all of them, except for the last one while its
detail is open. -/
def settled (s : Scan) : List Entry :=
  match s.openBlock with
  | .indented _ _ => s.entries.tail
  | _ => s.entries

theorem settled_of_not_indented (hopen : ∀ indent held, s.openBlock ≠ .indented indent held) :
    s.settled = s.entries := by
  rw [settled]
  split
  · exact absurd ‹_› (hopen _ _)
  · rfl

theorem settled_close (s : Scan) : s.close.settled = s.close.entries :=
  settled_of_not_indented (by simp)

theorem settled_suffix_close (s : Scan) : s.settled <:+ s.close.entries := by
  rw [settled, close]
  cases s.openBlock with
  | closed => exact List.suffix_rfl
  | header name held => exact List.suffix_rfl
  | indented indent held =>
    cases s.entries with
    | nil => exact List.suffix_rfl
    | cons e es => exact List.suffix_cons _ es

theorem settled_suffix_step (s : Scan) (line : Text) : s.settled <:+ (s.step line).settled := by
  have hmove := s.move_step line
  have hclose : s.settled <:+ s.close.entries := settled_suffix_close s
  generalize s.step line = t at hmove ⊢
  cases hmove with
  | header hline => exact hclose
  | body hopen hline hend =>
    rw [settled, hopen]
    exact List.suffix_rfl
  | rule hopen hline hend => rwa [settled_close]
  | detail hopen hline hdetail =>
    rw [settled, hopen]
    exact List.suffix_rfl
  | nothing h => rwa [settled_close]
  | @entry h e he =>
    have hpush : (s.close.push e).settled = e :: s.close.entries :=
      settled_of_not_indented (by simp [push])
    rw [hpush]
    exact hclose.trans (List.suffix_cons _ _)
  | cross h he hfailed => exact hclose

theorem settled_suffix_run (s : Scan) (lines : List Text) :
    s.settled <:+ (lines.foldl step s).close.entries := by
  induction lines generalizing s with
  | nil => exact settled_suffix_close s
  | cons line lines ih => exact (settled_suffix_step s line).trans (ih (s.step line))

end Scan

theorem Scan.step_cross {s : Scan} {line : Text}
    (hopen : ∀ name held, s.openBlock ≠ .header name held)
    (hline : line ∈ LineShape.checkmark false) (hnamed : ConsoleLine.named? line = none) :
    ∃ e : Entry, e.status = .failed ∧ e.detail = none ∧
      s.step line = { s.close.push e with openBlock := .indented (indentOf line) [] } := by
  obtain ⟨found, hfound, hpassed⟩ := LineShape.exists_checkmark?_iff.mpr hline
  rw [step_checkmark hopen hline, readStatus, hnamed, hfound]
  dsimp only
  rw [if_neg (by simp [hpassed])]
  exact ⟨_, rfl, rfl, rfl⟩

/-- The scan of a text in which some lines stand under such a cross. -/
theorem Scan.ofLines_cross {line : Text} {before ls rest : List Text}
    (hopen : ∀ name held, (before.foldl step start).openBlock ≠ .header name held)
    (hline : line ∈ LineShape.checkmark false) (hnamed : ConsoleLine.named? line = none)
    (hls : ∀ l ∈ ls, DetailOf line l) (hrest : ∀ l, rest.head? = some l → ¬DetailOf line l) :
    ∃ e : Entry, e.status = .failed ∧
      e.detail = (if ls = [] then none else some (Text.unlines (ls.map Text.trim))) ∧
      ofLines (before ++ line :: (ls ++ rest)) =
        (rest.foldl step ⟨e :: (ofLines before).entries, (ofLines before).blocks,
          .closed⟩).close := by
  obtain ⟨e, hfailed, -, hstep⟩ := step_cross hopen hline hnamed
  let detail : Option Text := if ls = [] then none else some (Text.unlines (ls.map Text.trim))
  have hopened :
      ((before ++ [line]).foldl step start).openBlock = .indented (indentOf line) [] := by
    rw [List.foldl_concat, hstep]
  have hrun : ls.foldl step ((before ++ [line]).foldl step start) =
      ⟨e :: (ofLines before).entries, (ofLines before).blocks,
        .indented (indentOf line) ls.reverse⟩ := by
    rw [run_detail hopened fun l hl => isDetail_iff.mpr (hls l hl), List.foldl_concat, hstep,
      List.append_nil]
    rfl
  have hend : ∀ l, rest.head? = some l → isDetail (indentOf line) l = false := fun l hl =>
    Bool.eq_false_iff.mpr fun h => hrest l hl (isDetail_iff.mp h)
  have hclose :
      (⟨e :: (ofLines before).entries, (ofLines before).blocks,
      .indented (indentOf line) ls.reverse⟩ : Scan).close =
        ⟨{ e with detail := detail } :: (ofLines before).entries, (ofLines before).blocks,
        .closed⟩ := by
    rw [close_detail rfl rfl, List.reverse_reverse]
    simp only [List.reverse_eq_nil_iff, detail]
  refine ⟨{ e with detail := detail }, hfailed, rfl, ?_⟩
  rw [List.append_cons, ofLines, List.foldl_append, List.foldl_append, hrun,
    run_after_detail rfl hend, hclose]

theorem Scan.result_of_detail (s : Scan) {e : Entry} {detail : Text}
    (hfailed : e.status.isFailure = true) (hdetail : e.detail = some detail) :
    (s.result e).error = some detail ∧ (s.result e).errorSummary = Text.firstLine? detail := by
  rw [result, if_pos hfailed, hdetail]
  exact ⟨rfl, rfl⟩

theorem firstLine?_detail {l : Text} {ls : List Text} (h : ∀ m ∈ l :: ls, '\n' ∉ m)
    (hl : Text.isBlankText l = false) :
    Text.firstLine? (Text.unlines ((l :: ls).map Text.trim)) = some (Text.trim l) := by
  have hbreak : ∀ m ∈ Text.trim l :: ls.map Text.trim, '\n' ∉ m := by
    rw [← List.map_cons]
    intro m hm
    obtain ⟨k, hk, rfl⟩ := List.mem_map.mp hm
    exact fun hmem => h k hk ((Text.trim_isInfix k).subset hmem)
  exact Text.firstLine?_unlines_cons hbreak ((Text.trim_ne_nil_iff l).mpr hl) (Text.trimmed_trim l)

/-- A cross outside of the blocks with a header, on a line that names no test with a status word,
gives a failed result. Its detail are the lines under it, as many as there are: none of them is read
in another way, and the text goes on as if nothing were open. Without such lines the failure blocks
of the text tell about it. -/
theorem detail_under_cross {text line : Text} {before ls rest : List Text}
    (hlines : Text.lines text = before ++ line :: (ls ++ rest))
    (hopen : ∀ name held, (before.foldl Scan.step Scan.start).openBlock ≠ .header name held)
    (hline : line ∈ LineShape.checkmark false) (hnamed : ConsoleLine.named? line = none)
    (hls : ∀ l ∈ ls, DetailOf line l) (hrest : ∀ l, rest.head? = some l → ¬DetailOf line l) :
    ∃ e results r,
      Scan.ofLines (Text.lines text) =
        (rest.foldl Scan.step ⟨e :: (Scan.ofLines before).entries, (Scan.ofLines before).blocks,
          .closed⟩).close ∧
      consoleTests text = some results ∧ results[(Scan.ofLines before).entries.length]? = some r ∧
      r.name = e.name ∧ r.status = .failed ∧
      (ls ≠ [] → r.error = some (Text.unlines (ls.map Text.trim)) ∧
        r.errorSummary = (ls.map Text.trim).head?) ∧
      (ls = [] → Attributed (blocksOf (Text.lines text)) r) := by
  obtain ⟨e, hstatus, hdetail, hscan⟩ := Scan.ofLines_cross hopen hline hnamed hls hrest
  rw [← hlines] at hscan
  have hfailed : e.status.isFailure = true := by rw [hstatus]; rfl
  obtain ⟨more, hmore⟩ : e :: (Scan.ofLines before).entries <:+ (Scan.ofLines
      (Text.lines text)).entries := by
    rw [hscan]
    exact Scan.settled_suffix_run ⟨_, _, .closed⟩ rest
  have hat : (Scan.ofLines (Text.lines text)).entries.reverse[(Scan.ofLines
      before).entries.length]? = some e := by
    rw [← hmore]
    simp
  obtain ⟨results, hresults, hr⟩ := result_at_entry hat
  refine ⟨e, results, _, hscan, hresults, hr,
    Scan.name_result _ e, by rw [Scan.status_result, hfailed]; rfl, fun hne => ?_, fun hnil => ?_⟩
  · rw [if_neg hne] at hdetail
    obtain ⟨herror, hsummary⟩ :=
      Scan.result_of_detail (Scan.ofLines (Text.lines text)) hfailed hdetail
    obtain ⟨l, ls, rfl⟩ := List.exists_cons_of_ne_nil hne
    have hbreak : ∀ m ∈ l :: ls, '\n' ∉ m := by
      intro m hm
      have hmem : m ∈ Text.lines text := by
        rw [hlines]
        exact List.mem_append_right _ (List.mem_cons_of_mem _ (List.mem_append_left _ hm))
      exact Text.not_mem_of_mem_lines hmem
    exact ⟨herror, hsummary.trans (firstLine?_detail hbreak (hls l List.mem_cons_self).shown)⟩
  · rw [if_pos hnil] at hdetail
    exact attributed_result _ hfailed hdetail

/-- A cross under the detail of another one. The last line of its own detail looks like a result. -/
def crossText : Text :=
  Text.unlines ["  ✗ adds".toList, "    off by one".toList, "  ✗ divides (3 ms)".toList,
    "    Expected 1".toList, "      test_mod PASSED".toList, "  ✓ multiplies".toList]

/-- Both lines are detail and the second one is no result. -/
theorem detail_under_cross_of_two :
    ∃ results r, consoleTests crossText = some results ∧ results[1]? = some r ∧ r.status = .failed ∧
      r.error = some (Text.unlines ["Expected 1".toList, "test_mod PASSED".toList]) ∧
      r.errorSummary = some "Expected 1".toList := by
  have hlines : Text.lines crossText = ["  ✗ adds".toList, "    off by one".toList] ++
    "  ✗ divides (3 ms)".toList ::
      (["    Expected 1".toList, "      test_mod PASSED".toList] ++ ["  ✓ multiplies".toList]) := by
    decide +kernel
  have hblock :
      (["  ✗ adds".toList, "    off by one".toList].foldl Scan.step Scan.start).openBlock =
        .indented 2 ["    off by one".toList] := by
    decide +kernel
  have hopen : ∀ name held,
    (["  ✗ adds".toList, "    off by one".toList].foldl Scan.step Scan.start).openBlock ≠
      .header name held := by
    rw [hblock]
    simp
  have hline : "  ✗ divides (3 ms)".toList ∈ LineShape.checkmark false :=
    LineShape.mem_checkmark_iff.mpr ⟨'✗', by decide, ' ', 'd',
      "ivides (3 ms)".toList, by decide, by decide⟩
  have hlook : ∀ l ∈ ["    Expected 1".toList, "      test_mod PASSED".toList],
      Scan.isDetail (Scan.indentOf "  ✗ divides (3 ms)".toList) l = true := by
    decide +kernel
  have hstop : Scan.isDetail (Scan.indentOf "  ✗ divides (3 ms)".toList) "  ✓ multiplies".toList =
    false := by decide +kernel
  have hrest : ∀ l, ["  ✓ multiplies".toList].head? = some l →
      ¬DetailOf "  ✗ divides (3 ms)".toList l := by
    intro l hl hdetail
    obtain rfl := Option.some.inj hl
    exact Bool.false_ne_true (hstop.symm.trans (isDetail_iff.mpr hdetail))
  obtain ⟨_, results, r, -, hresults, hr, -, hstatus, hdetail, -⟩ :=
    detail_under_cross hlines hopen hline
    (by decide +kernel) (fun l hl => isDetail_iff.mp (hlook l hl)) hrest
  obtain ⟨herror, hsummary⟩ := hdetail (List.cons_ne_nil _ _)
  have hcount : (Scan.ofLines ["  ✗ adds".toList, "    off by one".toList]).entries.length = 1 := by
    decide +kernel
  rw [hcount] at hr
  refine ⟨results, r, hresults, hr, hstatus, herror.trans ?_, hsummary.trans ?_⟩
  · decide +kernel
  · decide +kernel

/-- A cross on a line that names a test with a status word has no detail, although the line below is
one. -/
theorem no_detail_under_named_cross :
    "✗ test_login failed".toList ∈ LineShape.checkmark false ∧
    DetailOf "✗ test_login failed".toList "  Expected 1 to equal 2.".toList ∧
    consoleTests (Text.unlines ["✗ test_login failed".toList, "  Expected 1 to equal 2.".toList]) =
      some [.failed "test_login".toList none (some genericSummary)] :=
  ⟨LineShape.mem_checkmark_iff.mpr ⟨'✗', by decide, ' ', 't',
    "est_login failed".toList, by decide, by decide⟩,
    isDetail_iff.mp (by decide +kernel), by decide +kernel⟩

end Console
end TestBench
