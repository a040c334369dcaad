import TestBench.Outcome.Console
import TestBench.Proofs.Outcome.LineShape

/-! What a scan records does not depend on what was read before, as long as the same block is open.
A failure block that is closed by a rule is therefore invisible in the record: the lines before it
and those after it are recorded as if they stood alone. -/
namespace TestBench
namespace Console

def Entry.outline (e : Entry) : Text × Status × UInt64 := (e.name, e.status, e.durationMs)

namespace Scan

/-- The entries in the order of the text, without their details. -/
def recorded (s : Scan) : List (Text × Status × UInt64) := s.entries.reverse.map Entry.outline

@[simp] theorem recorded_start : start.recorded = [] := rfl

@[simp] theorem recorded_push (e : Entry) (s : Scan) :
    (s.push e).recorded = s.recorded ++ [e.outline] := by
  simp [recorded, push]

@[simp] theorem recorded_setOpenBlock (s : Scan) (b : OpenBlock) :
    ({ s with openBlock := b } : Scan).recorded = s.recorded := rfl

@[simp] theorem map_outline_attach (lines : List Text) (es : List Entry) :
    (attach lines es).map Entry.outline = es.map Entry.outline := by
  cases es <;> rfl

@[simp] theorem recorded_close (s : Scan) : s.close.recorded = s.recorded := by
  rw [close]
  split
  · rfl
  · rfl
  · simp only [recorded, List.map_reverse, map_outline_attach]

@[simp] theorem openBlock_close (s : Scan) : s.close.openBlock = .closed := by
  rw [close]
  split
  · assumption
  · rfl
  · rfl

/-- A scan that has the same block open as another one and has recorded some entries more before. -/
structure Follows (earlier : List (Text × Status × UInt64)) (s t : Scan) : Prop where
  openBlock : s.openBlock = t.openBlock
  recorded : s.recorded = earlier ++ t.recorded

variable {earlier : List (Text × Status × UInt64)} {s t : Scan}

theorem Follows.close (h : Follows earlier s t) : Follows earlier s.close t.close :=
  ⟨by simp, by simp [h.recorded]⟩

theorem Follows.setOpenBlock (h : Follows earlier s t) (b : OpenBlock) :
    Follows earlier { s with openBlock := b } { t with openBlock := b } :=
  ⟨rfl, h.recorded⟩

theorem Follows.push (h : Follows earlier s t) (e : Entry) :
    Follows earlier (s.push e) (t.push e) :=
  ⟨h.openBlock, by simp [h.recorded]⟩

theorem Follows.readStatus (h : Follows earlier s t) (line : Text) :
    Follows earlier (s.readStatus line) (t.readStatus line) := by
  rw [Scan.readStatus, Scan.readStatus]
  cases ConsoleLine.named? line with
  | some named => exact h.push _
  | none =>
    cases ConsoleLine.checkmark? line with
    | none => exact h
    | some mark =>
      by_cases hp : mark.passed = true
      · simp only [hp, if_true]
        exact h.push _
      · simp only [hp, if_false, Bool.false_eq_true]
        exact (h.push _).setOpenBlock _

/-- One line has the same effect on both, whichever block is open. -/
theorem Follows.step (h : Follows earlier s t) (line : Text) :
    Follows earlier (s.step line) (t.step line) := by
  rw [Scan.step, Scan.step]
  cases ConsoleLine.blockHeader? line with
  | some name => exact h.close.setOpenBlock _
  | none =>
    dsimp only
    rw [h.openBlock]
    cases t.openBlock with
    | closed => exact h.readStatus line
    | header name lines =>
      dsimp only
      split
      · exact h.close
      · exact h.setOpenBlock _
    | indented indent lines =>
      dsimp only
      split
      · exact h.setOpenBlock _
      · exact h.close.readStatus line

theorem Follows.run (h : Follows earlier s t) (lines : List Text) :
    Follows earlier (lines.foldl Scan.step s) (lines.foldl Scan.step t) := by
  induction lines generalizing s t with
  | nil => exact h
  | cons line lines ih => exact ih (h.step line)

@[simp] theorem isBlockEnd_iff (line : Text) : ConsoleLine.isBlockEnd line = true ↔
    "=====".toList <+: line := by
  rw [ConsoleLine.isBlockEnd, Text.startsWith, Option.isSome_iff_exists]
  exact exists_congr fun r => Text.dropPrefix?_eq_some_iff.trans eq_comm

theorem blockHeader?_eq_none {line : Text} (h : line ∉ LineShape.blockHeader) :
    ConsoleLine.blockHeader? line = none := by
  rwa [← Option.not_isSome_iff_eq_none, LineShape.isSome_blockHeader?_iff]

theorem step_header {line : Text} (h : line ∈ LineShape.blockHeader) (s : Scan) :
    ∃ name, s.step line = { s.close with openBlock := .header name [] } := by
  obtain ⟨name, hname⟩ :=
    Option.isSome_iff_exists.mp ((LineShape.isSome_blockHeader?_iff line).mpr h)
  exact ⟨name, by rw [step, hname]⟩

theorem run_body {body : List Text}
    (hbody : ∀ l ∈ body, l ∉ LineShape.blockHeader ∧ ¬"=====".toList <+: l) {s : Scan} {name : Text}
    {lines : List Text} (hs : s.openBlock = .header name lines) :
    ∃ lines', body.foldl step s = { s with openBlock := .header name lines' } := by
  -- Every line is looked at as a header first, whichever block is open.
  induction body generalizing s lines with
  | nil => exact ⟨lines, by rw [← hs]; rfl⟩
  | cons l body ih =>
    obtain ⟨hl, hend⟩ := hbody l (by simp)
    have hstep : s.step l = { s with openBlock := .header name (l :: lines) } := by
      rw [step, blockHeader?_eq_none hl]
      dsimp only
      rw [hs]
      dsimp only
      rw [if_neg (by rwa [isBlockEnd_iff])]
    rw [List.foldl_cons, hstep]
    exact ih (fun l hl => hbody l (by simp [hl])) rfl

theorem rule_not_header (n : Nat) : List.replicate n '=' ∉ LineShape.blockHeader := by
  rintro ⟨_, ⟨m, hm, rfl⟩, r, _, h⟩
  have hmem : '_' ∈ List.replicate n '=' := by
    rw [← h]
    exact List.mem_append_left _ (List.mem_replicate.mpr ⟨by omega, rfl⟩)
  exact absurd (List.eq_of_mem_replicate hmem) (by decide)

theorem step_rule {n : Nat} (hn : 5 ≤ n) {s : Scan} {name : Text} {lines : List Text}
    (hs : s.openBlock = .header name lines) : s.step (List.replicate n '=') = s.close := by
  have hend : ConsoleLine.isBlockEnd (List.replicate n '=') = true := by
    rw [isBlockEnd_iff]
    exact ⟨List.replicate (n - 5) '=', by
      rw [show "=====".toList = List.replicate 5 '=' from rfl, List.replicate_append_replicate]
      congr 1
      omega⟩
  rw [step, blockHeader?_eq_none (rule_not_header n)]
  dsimp only
  rw [hs]
  dsimp only
  rw [if_pos hend]

theorem run_block (s : Scan) {header : Text} {body : List Text} {n : Nat}
    (hheader : header ∈ LineShape.blockHeader)
    (hbody : ∀ l ∈ body, l ∉ LineShape.blockHeader ∧ ¬"=====".toList <+: l) (hn : 5 ≤ n) :
    Follows s.recorded ((header :: body ++ [List.replicate n '=']).foldl step s) start := by
  obtain ⟨name, hopen⟩ := step_header hheader s
  have hrun : ∃ lines, body.foldl step (s.step header) =
      { s.step header with openBlock := .header name lines } := run_body hbody (by rw [hopen])
  obtain ⟨lines, hrun⟩ := hrun
  have hend : (header :: body ++ [List.replicate n '=']).foldl step s =
      { s.step header with openBlock := .header name lines }.close := by
    rw [List.cons_append, List.foldl_cons, List.foldl_append, hrun]
    exact step_rule hn rfl
  rw [hend, hopen]
  exact ⟨by simp [start], by simp⟩

/-- A failure block neither adds to the record nor hides anything of the lines around it. -/
theorem recorded_around_block (a b : List Text) {header : Text} {body : List Text} {n : Nat}
    (hheader : header ∈ LineShape.blockHeader)
    (hbody : ∀ l ∈ body, l ∉ LineShape.blockHeader ∧ ¬"=====".toList <+: l) (hn : 5 ≤ n) :
    (ofLines (a ++ header :: body ++ List.replicate n '=' :: b)).recorded =
      (ofLines a).recorded ++ (ofLines b).recorded := by
  have hsplit : a ++ header :: body ++ List.replicate n '=' :: b =
      a ++ ((header :: body ++ [List.replicate n '=']) ++ b) := by simp
  have hb := (run_block (a.foldl step start) hheader hbody hn).run b
  rw [ofLines, ofLines, ofLines, recorded_close, recorded_close, recorded_close, hsplit,
    List.foldl_append, List.foldl_append]
  exact hb.recorded

/-- The block ends the detail under a cross, and what looks like a result inside it is none. -/
theorem recorded_around_block_of_cross :
    (ofLines ["  ✗ divides (3 ms)".toList, "    by zero".toList, "_____ test_mod _____".toList,
        "test_sub PASSED".toList, "  ✓ adds".toList, "=====".toList,
          "test_mul PASSED".toList]).recorded =
      [("divides".toList, .failed, 3), ("test_mul".toList, .passed, 0)] := by
  have hlook : ∀ l ∈ ["test_sub PASSED".toList, "  ✓ adds".toList],
      ConsoleLine.blockHeader? l = none ∧ ConsoleLine.isBlockEnd l = false := by
    decide +kernel
  have hbody : ∀ l ∈ ["test_sub PASSED".toList, "  ✓ adds".toList],
      l ∉ LineShape.blockHeader ∧ ¬"=====".toList <+: l := by
    intro l hl
    obtain ⟨hheader, hend⟩ := hlook l hl
    rw [← LineShape.isSome_blockHeader?_iff, ← isBlockEnd_iff]
    exact ⟨by simp [hheader], by simp [hend]⟩
  have hheader : "_____ test_mod _____".toList ∈ LineShape.blockHeader :=
    (LineShape.isSome_blockHeader?_iff _).mp (by decide +kernel)
  have hframe := recorded_around_block ["  ✗ divides (3 ms)".toList, "    by zero".toList]
    ["test_mul PASSED".toList] hheader hbody (Nat.le_refl 5)
  have haround : (ofLines ["  ✗ divides (3 ms)".toList, "    by zero".toList]).recorded ++
      (ofLines ["test_mul PASSED".toList]).recorded =
        [("divides".toList, .failed, 3), ("test_mul".toList, .passed, 0)] := by
    decide +kernel
  exact hframe.trans haround

end Scan
end Console
end TestBench
