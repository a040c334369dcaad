import TestBench.Outcome.Normalize
import TestBench.Proofs.Text.Stripping

/-! Output that comes in lines and in two streams. No control sequence reaches over a line break,
so that it makes no difference whether a text is stripped as a whole, stream by stream or line by
line. -/
namespace TestBench

open Text (pieces unlines)
open Text.Ansi (escape strip)

namespace Text

@[simp] theorem unlines_cons_cons (s t : Text) (ts : List Text) :
    unlines (s :: t :: ts) = s ++ '\n' :: unlines (t :: ts) := by
  simp [unlines]

namespace Ansi

@[simp] theorem strip_append_break (s t : Text) :
    strip (s ++ '\n' :: t) = strip s ++ '\n' :: strip t := by
  rw [strip_append_of_halts (by decide), strip_cons_of_ne (by decide)]

@[simp] theorem strip_unlines (ts : List Text) : strip (unlines ts) = unlines (ts.map strip) := by
  induction ts with
  | nil => simp [unlines, joinWith]
  | cons t ts ih =>
    cases ts with
    | nil => simp [unlines]
    | cons u us => simp [ih]

@[simp] theorem pieces_strip (t : Text) : pieces '\n' (strip t) = (pieces '\n' t).map strip := by
  have hlines : ∀ l ∈ (pieces '\n' t).map strip, '\n' ∉ l := by
    intro l hl
    obtain ⟨p, hp, rfl⟩ := List.mem_map.mp hl
    exact fun hmem => not_mem_of_mem_pieces hp ((strip_sublist p).subset hmem)
  have hne : (pieces '\n' t).map strip ≠ [] := by simp [pieces_ne_nil]
  calc pieces '\n' (strip t)
      = pieces '\n' (strip (unlines (pieces '\n' t))) := by rw [unlines, joinWith_pieces]
    _ = pieces '\n' (unlines ((pieces '\n' t).map strip)) := by rw [strip_unlines]
    _ = (pieces '\n' t).map strip := pieces_joinWith hne hlines

@[simp] theorem count_break_strip (t : Text) : (strip t).count '\n' = t.count '\n' := by
  have hlength : (pieces '\n' (strip t)).length = (pieces '\n' t).length := by simp
  rwa [length_pieces, length_pieces, Nat.add_right_cancel_iff] at hlength

end Ansi
end Text

namespace RawOutput

theorem combinedText_eq {raw : RawOutput} (hout : raw.stdout ≠ []) (herr : raw.stderr ≠ []) :
    raw.combinedText = strip (raw.stdout ++ '\n' :: raw.stderr) := by
  simp [combinedText, hout, herr]

/-- Texts on both sides of a line break are stripped apart. So both streams are, and every line of
what they show together is a line of theirs, stripped on its own. -/
theorem stripped_line_by_line :
    (∀ a b : Text, strip (a ++ '\n' :: b) = strip a ++ '\n' :: strip b) ∧
    ∀ raw : RawOutput, raw.stdout ≠ [] → raw.stderr ≠ [] →
      raw.combinedText = strip raw.stdout ++ '\n' :: strip raw.stderr ∧
      raw.combinedText.count '\n' = (raw.stdout ++ '\n' :: raw.stderr).count '\n' ∧
      pieces '\n' raw.combinedText =
        (pieces '\n' (raw.stdout ++ '\n' :: raw.stderr)).map strip := by
  refine ⟨Text.Ansi.strip_append_break, fun raw hout herr => ?_⟩
  rw [combinedText_eq hout herr]
  exact ⟨Text.Ansi.strip_append_break _ _, Text.Ansi.count_break_strip _, Text.Ansi.pieces_strip _⟩

/-- Output with a sequence that is cut off at the end of a stream and one that is cut off at the end
of a line. -/
def cutOff : RawOutput :=
  { structured := none
    stdout := 'a' :: escape :: "[3".toList
    stderr := "1mb".toList ++ escape :: '[' :: '\n' :: escape :: "[0mc".toList
    exitCode := none }

/-- Sequences that are cut off stay, also where the next line goes on like them. -/
theorem stripped_line_by_line_of_cutOff :
    cutOff.stdout ≠ [] ∧ cutOff.stderr ≠ [] ∧
    cutOff.combinedText = strip cutOff.stdout ++ '\n' :: strip cutOff.stderr ∧
    cutOff.combinedText.count '\n' = 2 ∧
    pieces '\n' cutOff.combinedText =
      ['a' :: escape :: "[3".toList, "1mb".toList ++ [escape, '['], ['c']] := by
  have hout : cutOff.stdout ≠ [] := by decide
  have herr : cutOff.stderr ≠ [] := by decide
  obtain ⟨hstreams, hcount, hlines⟩ := stripped_line_by_line.2 cutOff hout herr
  refine ⟨hout, herr, hstreams, hcount.trans (by decide), hlines.trans ?_⟩
  decide +kernel

end RawOutput
end TestBench
