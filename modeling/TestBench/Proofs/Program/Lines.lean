import TestBench.Proofs.Program.Skeleton

/-! Every instruction of a program is one line of its source. So a source tells what its lines
are. -/
namespace TestBench

namespace Json

mutual

theorem break_not_mem_compact : ∀ v : Json, '\n' ∉ v.compact
  | null => by decide
  | bool true => by decide
  | bool false => by decide
  | number n => not_mem_numberText rfl (by simp) n
  | string s => Literals.break_not_mem_quoted s
  | array items => by simp [compact, break_not_mem_compactItems items]
  | object members => by simp [compact, break_not_mem_compactMembers members]

theorem break_not_mem_compactItems : ∀ vs : List Json, '\n' ∉ Text.joinWith [','] (compactItems vs)
  | [] => by decide
  | v :: vs =>
    Text.not_mem_joinWith_cons (by decide) (break_not_mem_compact v) (break_not_mem_compactItems vs)

theorem break_not_mem_compactMembers :
    ∀ ms : List (Text × Json), '\n' ∉ Text.joinWith [','] (compactMembers ms)
  | [] => by decide
  | (k, v) :: ms => by
    refine Text.not_mem_joinWith_cons (by decide) ?_ (break_not_mem_compactMembers ms)
    simp [Literals.break_not_mem_quoted k, break_not_mem_compact v]

end

end Json

theorem Piece.break_not_mem_text {p : Piece} (h : p.Closed) : '\n' ∉ p.text := by
  cases p with
  | code t => exact h.2
  | quoted t => exact Literals.break_not_mem_quoted t
  | value v => exact Json.break_not_mem_compact v

theorem SourceLine.break_not_mem_text {l : SourceLine} (h : ∀ p ∈ l, p.Closed) : '\n' ∉ l.text := by
  intro hbreak
  obtain ⟨p, hp, hmem⟩ := List.mem_flatMap.mp hbreak
  exact Piece.break_not_mem_text (h p hp) hmem

namespace Instruction

/-- A line at a depth, without its break. -/
def placed (depth : Nat) (t : Text) : Text := if t.isEmpty then [] else Text.indentation depth ++ t

/-- The line of an instruction, without its break. -/
def lineAt (depth : Nat) : Instruction → Text
  | line l | opening l => placed depth l.text
  | blank => []
  | closing l => placed (depth - 1) l.text

def lines : (depth : Nat) → List Instruction → List Text
  | _, [] => []
  | depth, i :: is => i.lineAt depth :: lines (i.depthAfter depth) is

@[simp] theorem lines_append (depth : Nat) (is js : List Instruction) :
    lines depth (is ++ js) = lines depth is ++ lines (depthAfterAll depth is) js := by
  induction is generalizing depth with
  | nil => rfl
  | cons i is ih => simp [lines, depthAfterAll, ih]

theorem lineText_eq (depth : Nat) (t : Text) : lineText depth t = placed depth t ++ ['\n'] := by
  rw [lineText, placed]
  split <;> simp

theorem text_eq (depth : Nat) (i : Instruction) : i.text depth = i.lineAt depth ++ ['\n'] := by
  cases i with
  | blank => rfl
  | line l => exact lineText_eq depth l.text
  | opening l => exact lineText_eq depth l.text
  | closing l => exact lineText_eq (depth - 1) l.text

theorem render_eq (depth : Nat) (is : List Instruction) :
    render depth is = (lines depth is).flatMap fun l => l ++ ['\n'] := by
  induction is generalizing depth with
  | nil => rfl
  | cons i is ih => rw [render, lines, List.flatMap_cons, text_eq, ih]

theorem break_not_mem_placed (depth : Nat) {t : Text} (h : '\n' ∉ t) : '\n' ∉ placed depth t := by
  have hindent : '\n' ∉ Text.indentation depth :=
    fun hb => absurd (List.eq_of_mem_replicate hb) (by decide)
  rw [placed]
  split
  · simp
  · simp [hindent, h]

theorem break_not_mem_lineAt (depth : Nat) {i : Instruction} (h : i.Closed) :
    '\n' ∉ i.lineAt depth := by
  cases i with
  | blank => simp [lineAt]
  | line l => exact break_not_mem_placed depth (SourceLine.break_not_mem_text h)
  | opening l => exact break_not_mem_placed depth (SourceLine.break_not_mem_text h)
  | closing l => exact break_not_mem_placed (depth - 1) (SourceLine.break_not_mem_text h)

theorem break_not_mem_lines {is : List Instruction} (h : ∀ i ∈ is, i.Closed) (depth : Nat) :
    ∀ l ∈ lines depth is, '\n' ∉ l := by
  induction is generalizing depth with
  | nil => simp [lines]
  | cons i is ih =>
    obtain ⟨hi, his⟩ := List.forall_mem_cons.mp h
    rw [lines, List.forall_mem_cons]
    exact ⟨break_not_mem_lineAt depth hi, ih his _⟩

theorem lines_eq_of_render_eq {is js : List Instruction} (hi : ∀ i ∈ is, i.Closed)
    (hj : ∀ i ∈ js, i.Closed) {depth depth' : Nat} (h : render depth is = render depth' js) :
    lines depth is = lines depth' js := by
  have hpieces := congrArg (Text.pieces '\n') h
  rw [render_eq, render_eq, Text.pieces_lines (break_not_mem_lines hi depth),
    Text.pieces_lines (break_not_mem_lines hj depth')] at hpieces
  exact List.append_cancel_right hpieces

theorem placed_injective (depth : Nat) : Function.Injective (placed depth) := by
  intro s t h
  cases s with
  | nil =>
    cases t with
    | nil => rfl
    | cons c t => simp [placed] at h
  | cons b s =>
    cases t with
    | nil => simp [placed] at h
    | cons c t => simpa [placed] using h

end Instruction

theorem SourceLine.raws_eq_of_text_eq {l m : SourceLine} (hl : ∀ p ∈ l, p.Closed)
    (hm : ∀ p ∈ m, p.Closed) (h : l.text = m.text) :
    l.flatMap Piece.raws = m.flatMap Piece.raws := by
  rw [← (reads hl).literals, ← (reads hm).literals, h]

end TestBench
