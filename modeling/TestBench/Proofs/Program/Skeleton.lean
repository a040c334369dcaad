import TestBench.Program.Source
import TestBench.Proofs.Program.Values

/-! What a rendered program is without the content of its literals, and that content: both are found
piece by piece, as long as the fixed code leaves no literal open. -/
namespace TestBench

open Literals

namespace Piece

def blanked : Piece → Piece
  | code t => code (skeleton t)
  | quoted _ => quoted []
  | value v => value v.blanked

def raws : Piece → List Text
  | code t => literals t
  | quoted t => [escaped t]
  | value v => v.texts.map escaped

/-- Code that leaves no literal open and breaks no line; quoted texts and values never do. -/
def Closed : Piece → Prop
  | code t => Literals.Closed t ∧ '\n' ∉ t
  | quoted _ | value _ => True

instance : (p : Piece) → Decidable p.Closed
  | code t => inferInstanceAs (Decidable (Literals.Closed t ∧ '\n' ∉ t))
  | quoted _ | value _ => inferInstanceAs (Decidable True)

@[simp] theorem closed_quoted (t : Text) : (quoted t).Closed := trivial

@[simp] theorem closed_value (v : Json) : (value v).Closed := trivial

@[simp] theorem closed_ofNat (n : Nat) : (code (Text.ofNat n)).Closed :=
  ⟨closed_of_no_quote (Text.not_mem_ofNat rfl n), Text.not_mem_ofNat rfl n⟩

@[simp] theorem raws_ofNat (n : Nat) : (code (Text.ofNat n)).raws = [] :=
  literals_of_no_quote (Text.not_mem_ofNat rfl n)

theorem reads {p : Piece} (h : p.Closed) : Reads p.text p.blanked.text p.raws := by
  cases p with
  | code t => exact h.1.reads
  | quoted t => exact reads_quoted t
  | value v => exact reads_compact v

end Piece

namespace SourceLine

theorem reads {l : SourceLine} (h : ∀ p ∈ l, p.Closed) :
    Reads l.text (text (l.map Piece.blanked)) (l.flatMap Piece.raws) := by
  induction l with
  | nil => exact reads_of_no_quote (by simp [text])
  | cons p l ih =>
    obtain ⟨hp, hl⟩ := List.forall_mem_cons.mp h
    exact (Piece.reads hp).append (ih hl)

end SourceLine

namespace Instruction

def pieces : Instruction → SourceLine
  | line l | opening l | closing l => l
  | blank => []

def blanked : Instruction → Instruction
  | line l => line (l.map Piece.blanked)
  | blank => blank
  | opening l => opening (l.map Piece.blanked)
  | closing l => closing (l.map Piece.blanked)

def raws (i : Instruction) : List Text := i.pieces.flatMap Piece.raws

def Closed (i : Instruction) : Prop := ∀ p ∈ i.pieces, p.Closed

@[simp] theorem depthAfter_blanked (depth : Nat) (i : Instruction) :
    i.blanked.depthAfter depth = i.depthAfter depth := by
  cases i <;> rfl

theorem reads_lineText (depth : Nat) {t t' : Text} {raws : List Text} (h : Reads t t' raws) :
    Reads (lineText depth t) (lineText depth t') raws := by
  -- An empty line is not indented, so leaving literals out must not make a line empty.
  have hempty : t' = [] ↔ t = [] := by rw [← h.skeleton, skeleton_eq_nil]
  have hindent : '"' ∉ Text.indentation depth :=
    fun hq => absurd (List.eq_of_mem_replicate hq) (by decide)
  rw [lineText, lineText]
  by_cases ht : t = []
  · have hraws : raws = [] := by rw [← h.literals, ht]; rfl
    rw [if_pos (by simp [ht]), if_pos (by simp [hempty.mpr ht]), hraws]
    exact reads_of_no_quote (by decide)
  · rw [if_neg (by simp [ht]), if_neg (by simp [hempty, ht])]
    exact ((reads_of_no_quote hindent).append h).concat (by decide)

theorem reads_text (depth : Nat) {i : Instruction} (h : i.Closed) :
    Reads (i.text depth) (i.blanked.text depth) i.raws := by
  cases i with
  | line l => exact reads_lineText depth (SourceLine.reads h)
  | blank => exact reads_of_no_quote (by simp [text])
  | opening l => exact reads_lineText depth (SourceLine.reads h)
  | closing l => exact reads_lineText (depth - 1) (SourceLine.reads h)

theorem reads_render {is : List Instruction} (h : ∀ i ∈ is, i.Closed) (depth : Nat) :
    Reads (render depth is) (render depth (is.map blanked)) (is.flatMap raws) := by
  induction is generalizing depth with
  | nil => exact reads_of_no_quote (by simp [render])
  | cons i is ih =>
    obtain ⟨hi, his⟩ := List.forall_mem_cons.mp h
    rw [render, List.map_cons, render, depthAfter_blanked]
    exact (reads_text depth hi).append (ih his _)

end Instruction
end TestBench
