import TestBench.Program.Browser
import TestBench.Proofs.Program.Skeleton

/-! What browser tests write: apart from the content of their literals it follows from the kinds of
their statements, and that content is their texts in order. -/
namespace TestBench

open Literals

/-- What does not depend on the titles is found item by item, if there are enough titles. -/
theorem Titles.map_zipWith_eq_map {f : Text → α → β} {g : β → γ} {h : α → γ} {titles : List Text}
    {as : List α} (hlen : as.length ≤ titles.length) (hf : ∀ title a, g (f title a) = h a) :
    (titles.zipWith f as).map g = as.map h := by
  induction as generalizing titles with
  | nil => simp
  | cons a as ih =>
    cases titles with
    | nil => simp at hlen
    | cons title titles =>
      rw [List.zipWith_cons_cons, List.map_cons, List.map_cons, hf, ih (by simpa using hlen)]

namespace Browser

namespace Statement

def blanked : Statement → Statement
  | goto _ => goto []
  | click _ => click []
  | fill _ _ => fill [] []
  | press _ _ => press [] []
  | pause ms => pause ms
  | awaitVisible _ => awaitVisible []
  | refuseWait => refuseWait
  | seeVisible _ => seeVisible []
  | seeHidden _ => seeHidden []
  | seeText _ _ => seeText [] []
  | seeUrl _ => seeUrl []
  | seeTitle _ => seeTitle []

/-- The texts of the literals of a statement, in order. -/
def texts : Statement → List Text
  | goto t => [t]
  | click s | seeVisible s | seeHidden s => [s]
  | fill s v | press s v | seeText s v => [s, v]
  | pause _ => []
  | awaitVisible s => [s, "visible".toList]
  | refuseWait => ["waitFor step needs a selector or ms".toList]
  | seeUrl v | seeTitle v => [v]

theorem map_blanked_line (s : Statement) :
    s.line.map Piece.blanked = s.blanked.line.map Piece.blanked := by
  cases s <;> rfl

theorem closed_line (s : Statement) : ∀ p ∈ s.line, p.Closed := by
  cases s <;> simp only [line, List.forall_mem_cons, Piece.closed_quoted, Piece.closed_ofNat,
    true_and] <;> decide +kernel

@[simp] theorem raws_line (s : Statement) : s.line.flatMap Piece.raws = s.texts.map escaped := by
  cases s with
  | pause ms =>
    rw [line, List.flatMap_cons, List.flatMap_cons, Piece.raws_ofNat]
    rfl
  | _ => rfl

end Statement

def Test.blanked (t : Test) : Test := ⟨[], [], t.body.map fun b => (b.1, b.2.blanked)⟩

/-- The texts of the literals of a test, in order. -/
def Test.texts (t : Test) : List Text := t.title :: t.start :: t.body.flatMap fun b => b.2.texts

theorem map_blanked_bodyLines (n : Nat) (body : List (StepKind × Statement)) :
    (bodyLines n body).map Instruction.blanked =
      (bodyLines n (body.map fun b => (b.1, b.2.blanked))).map Instruction.blanked := by
  induction body generalizing n with
  | nil => rfl
  | cons b body ih =>
    simp only [bodyLines, List.map_cons, Instruction.blanked, Statement.map_blanked_line b.2, ih]

theorem closed_kind (k : StepKind) : (Piece.code k.name).Closed := by cases k <;> decide

@[simp] theorem raws_kind (k : StepKind) : (Piece.code k.name).raws = [] := by cases k <;> decide

theorem closed_bodyLines (n : Nat) (body : List (StepKind × Statement)) :
    ∀ i ∈ bodyLines n body, i.Closed := by
  induction body generalizing n with
  | nil => simp [bodyLines]
  | cons b body ih =>
    rw [bodyLines, List.forall_mem_cons, List.forall_mem_cons]
    refine ⟨?_, b.2.closed_line, ih _⟩
    simp only [Instruction.Closed, Instruction.pieces, List.forall_mem_cons, Piece.closed_ofNat,
      closed_kind, true_and]
    decide

@[simp] theorem raws_bodyLines (n : Nat) (body : List (StepKind × Statement)) :
    (bodyLines n body).flatMap Instruction.raws =
      (body.flatMap fun b => b.2.texts).map escaped := by
  induction body generalizing n with
  | nil => rfl
  | cons b body ih =>
    have hcomment :
        Instruction.raws (.line [verbatim "// step ", .code (Text.ofNat n), verbatim ": ",
          .code b.1.name]) = [] := by
      simp only [Instruction.raws, Instruction.pieces, List.flatMap_cons, Piece.raws_ofNat,
        raws_kind]
      rfl
    have hline : Instruction.raws (.line b.2.line) = b.2.texts.map escaped := b.2.raws_line
    simp [bodyLines, hcomment, hline, ih]

theorem closed_timeoutLines (timeout : Option UInt64) : ∀ i ∈ timeoutLines timeout, i.Closed := by
  cases timeout with
  | none => simp [timeoutLines]
  | some ms =>
    simp only [timeoutLines, Instruction.Closed, List.forall_mem_cons, Instruction.pieces,
      Piece.closed_ofNat, true_and]
    decide

@[simp] theorem raws_timeoutLines (timeout : Option UInt64) :
    (timeoutLines timeout).flatMap Instruction.raws = [] := by
  cases timeout with
  | none => rfl
  | some ms =>
    simp only [timeoutLines, Instruction.raws, Instruction.pieces, List.flatMap_cons,
      Piece.raws_ofNat]
    rfl

theorem Test.map_blanked_instructions (timeout : Option UInt64) (t : Test) :
    (t.instructions timeout).map Instruction.blanked =
      (t.blanked.instructions timeout).map Instruction.blanked := by
  simp only [instructions, List.map_append, List.map_cons]
  rw [map_blanked_bodyLines]
  rfl

theorem Test.closed_instructions (timeout : Option UInt64) (t : Test) :
    ∀ i ∈ t.instructions timeout, i.Closed := by
  have hopening : Instruction.Closed (.opening [verbatim "test(", .quoted t.title,
      verbatim ", async (\x7b page \x7d) => \x7b"]) := by
    simp only [Instruction.Closed, Instruction.pieces, List.forall_mem_cons, Piece.closed_quoted,
      true_and]
    decide
  have hclosing : Instruction.Closed (.closing [verbatim "\x7d);"]) := by
    simp only [Instruction.Closed, Instruction.pieces]
    decide
  rw [instructions]
  simp only [List.cons_append, List.forall_mem_cons, List.forall_mem_append]
  exact ⟨hopening, ⟨closed_timeoutLines timeout, (Statement.goto t.start).closed_line,
    closed_bodyLines 1 t.body⟩, hclosing, by simp⟩

@[simp] theorem Test.raws_instructions (timeout : Option UInt64) (t : Test) :
    (t.instructions timeout).flatMap Instruction.raws = t.texts.map escaped := by
  have hgoto : Instruction.raws (.line (Statement.goto t.start).line) = [escaped t.start] := rfl
  have hopening : Instruction.raws (.opening [verbatim "test(", .quoted t.title,
      verbatim ", async (\x7b page \x7d) => \x7b"]) = [escaped t.title] := rfl
  have hclosing : Instruction.raws (.closing [verbatim "\x7d);"]) = [] := rfl
  simp [instructions, texts, hopening, hgoto, hclosing]

@[simp] theorem instructions_singleton (timeout : Option UInt64) (t : Test) :
    instructions timeout [t] = t.instructions timeout := by
  simp [instructions, List.intercalate]

theorem instructions_cons_cons (timeout : Option UInt64) (t u : Test) (ts : List Test) :
    instructions timeout (t :: u :: ts) = t.instructions timeout ++
      .blank :: instructions timeout (u :: ts) := by
  simp [instructions, List.intercalate]

theorem map_blanked_instructions (timeout : Option UInt64) (ts : List Test) :
    (instructions timeout ts).map Instruction.blanked =
      (instructions timeout (ts.map Test.blanked)).map Instruction.blanked := by
  induction ts with
  | nil => rfl
  | cons t ts ih =>
    cases ts with
    | nil => simpa using t.map_blanked_instructions timeout
    | cons u ts =>
      rw [List.map_cons, List.map_cons] at *
      rw [instructions_cons_cons, instructions_cons_cons, List.map_append, List.map_append,
        List.map_cons, List.map_cons, ih, t.map_blanked_instructions]

theorem closed_instructions (timeout : Option UInt64) (ts : List Test) :
    ∀ i ∈ instructions timeout ts, i.Closed := by
  induction ts with
  | nil => simp [instructions]
  | cons t ts ih =>
    cases ts with
    | nil =>
      rw [instructions_singleton]
      exact t.closed_instructions timeout
    | cons u ts =>
      rw [instructions_cons_cons, List.forall_mem_append, List.forall_mem_cons]
      exact ⟨t.closed_instructions timeout, by simp [Instruction.Closed, Instruction.pieces], ih⟩

@[simp] theorem raws_instructions (timeout : Option UInt64) (ts : List Test) :
    (instructions timeout ts).flatMap Instruction.raws = (ts.flatMap Test.texts).map escaped := by
  induction ts with
  | nil => rfl
  | cons t ts ih =>
    cases ts with
    | nil => simp
    | cons u ts =>
      have hblank : Instruction.blank.raws = [] := rfl
      rw [instructions_cons_cons]
      simp [hblank, ih]

end Browser

def Step.blanked : Step → Step
  | goto _ => goto []
  | click _ => click []
  | fill _ _ => fill [] []
  | press _ _ => press [] []
  | waitFor s ms => waitFor (s.map fun _ => []) ms
  | expectVisible _ => expectVisible []
  | expectHidden _ => expectHidden []
  | expectTextContains _ _ => expectTextContains [] []
  | expectUrlContains _ => expectUrlContains []
  | expectTitleContains _ => expectTitleContains []

/-- The texts that the statement of a step uses, in order. -/
def Step.texts (base : Text) : Step → List Text
  | goto path => [Address.resolve base path]
  | click s | expectVisible s | expectHidden s => [s]
  | fill s v | press s v | expectTextContains s v => [s, v]
  | waitFor _ (some _) => []
  | waitFor (some s) none => [s, "visible".toList]
  | waitFor none none => ["waitFor step needs a selector or ms".toList]
  | expectUrlContains v | expectTitleContains v => [v]

namespace Browser

theorem blanked_ofStep (base : Text) (st : Step) :
    (st.kind, (Statement.ofStep base st).blanked) =
      (st.blanked.kind, (Statement.ofStep [] st.blanked).blanked) := by
  rcases st with _ | _ | _ | _ | ⟨_ | _, _ | _⟩ | _ | _ | _ | _ | _ <;> rfl

@[simp] theorem texts_ofStep (base : Text) (st : Step) :
    (Statement.ofStep base st).texts = st.texts base := by
  rcases st with _ | _ | _ | _ | ⟨_ | _, _ | _⟩ | _ | _ | _ | _ | _ <;> rfl

def Test.ofBlanked (steps : List Step) : Test :=
  ⟨[], [], steps.map fun st => (st.kind, (Statement.ofStep [] st).blanked)⟩

@[simp] theorem blanked_ofScenario (base title : Text) (s : Scenario) :
    (Test.ofScenario base title s).blanked = .ofBlanked (s.steps.map Step.blanked) := by
  simp only [Test.ofScenario, Test.blanked, Test.ofBlanked, List.map_map, Test.mk.injEq, true_and]
  exact List.map_congr_left fun st _ => blanked_ofStep base st

theorem tests_eq_map (base : Text) (ss : List Scenario) :
    tests base ss =
      ((Titles.distinct (ss.map (·.name))).zip ss).map fun b => .ofScenario base b.1 b.2 :=
  List.map_uncurry_zip_eq_zipWith.symm

theorem map_blanked_tests (base : Text) (ss : List Scenario) :
    (tests base ss).map Test.blanked =
      (ss.map fun s => s.steps.map Step.blanked).map .ofBlanked := by
  rw [tests, Titles.map_zipWith_eq_map (by simp) fun title s => blanked_ofScenario base title s,
    List.map_map]
  rfl

theorem texts_ofScenario (base title : Text) (s : Scenario) :
    (Test.ofScenario base title s).texts =
      title :: Address.resolve base s.startPath :: s.steps.flatMap (Step.texts base) := by
  simp only [Test.ofScenario, Test.texts, List.flatMap_map, texts_ofStep]

theorem texts_tests (base : Text) (ss : List Scenario) :
    (tests base ss).flatMap Test.texts =
      ((Titles.distinct (ss.map (·.name))).zip ss).flatMap fun b =>
        b.1 :: Address.resolve base b.2.startPath :: b.2.steps.flatMap (Step.texts base) := by
  rw [tests_eq_map, List.flatMap_map]
  simp only [texts_ofScenario]

end Browser
end TestBench
