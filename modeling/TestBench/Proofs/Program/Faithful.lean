import TestBench.Proofs.Program.Lines
import TestBench.Proofs.Program.Structure

/-! A browser program tells what it was compiled from: the titles, the pages, and the steps in
order, as far as they have an effect. -/
namespace TestBench

open Literals

theorem Literals.escaped_injective : Function.Injective escaped := fun s t h => by
  have hdecoded := congrArg decoded? h
  rwa [decoded?_escaped, decoded?_escaped, Option.some_inj] at hdecoded

/-- The step as far as it has an effect: its target is resolved, and a time to wait leaves the
selector aside. -/
def Step.effective (base : Text) : Step → Step
  | goto path => goto (Address.resolve base path)
  | waitFor _ (some ms) => waitFor none (some ms)
  | st => st

/-- The page of a scenario and its steps, as far as they have an effect. -/
def Scenario.effect (base : Text) (s : Scenario) : Text × List Step :=
  (Address.resolve base s.startPath, s.steps.map (Step.effective base))

namespace Browser

/-- The statement of a step whose target is resolved. -/
def Statement.ofResolved : Step → Statement
  | .goto target => goto target
  | st => ofStep [] st

theorem ofStep_eq_ofResolved (base : Text) (st : Step) :
    (st.kind, Statement.ofStep base st) =
      ((st.effective base).kind, .ofResolved (st.effective base)) := by
  rcases st with _ | _ | _ | _ | ⟨_ | _, _ | _⟩ | _ | _ | _ | _ | _ <;> rfl

variable {base : Text} {st st' : Step}

theorem texts_eq_of_line_eq
    (h : (Statement.ofStep base st).line.text = (Statement.ofStep base st').line.text) :
    st.texts base = st'.texts base := by
  have hraws := SourceLine.raws_eq_of_text_eq (Statement.closed_line _) (Statement.closed_line _) h
  simp only [Statement.raws_line, texts_ofStep] at hraws
  exact List.map_injective_iff.mpr escaped_injective hraws

theorem pause_line_injective {a b : UInt64}
    (h : SourceLine.text (Statement.pause a).line = SourceLine.text (Statement.pause b).line) :
    a = b := by
  simp only [Statement.line, SourceLine.text, List.flatMap_cons, List.append_cancel_left_eq,
    List.append_cancel_right_eq] at h
  exact UInt64.toNat_inj.mp (Text.ofNat_injective h)

theorem effective_waitFor_eq_of_line_eq {s s' : Option Text} {ms ms' : Option UInt64}
    (h : (Statement.ofStep base (.waitFor s ms)).line.text =
      (Statement.ofStep base (.waitFor s' ms')).line.text) :
    (Step.waitFor s ms).effective base = (Step.waitFor s' ms').effective base := by
  have htexts := texts_eq_of_line_eq h
  cases ms with
  | some a =>
    cases ms' with
    | some b => rw [Step.effective, Step.effective, pause_line_injective h]
    | none => cases s' <;> simp [Step.texts] at htexts
  | none =>
    cases ms' with
    | some b => cases s <;> simp [Step.texts] at htexts
    | none => cases s <;> cases s' <;> simp_all [Step.texts]

theorem effective_eq_of_line_eq (hkind : st.kind = st'.kind)
    (h : (Statement.ofStep base st).line.text = (Statement.ofStep base st').line.text) :
    st.effective base = st'.effective base := by
  have htexts := texts_eq_of_line_eq h
  cases st <;> cases st' <;> try exact StepKind.noConfusion hkind
  -- A time to wait is no literal, all else that a step tells is one.
  case waitFor.waitFor => exact effective_waitFor_eq_of_line_eq h
  all_goals simpa [Step.texts, Step.effective] using htexts

theorem comment_injective {n : Nat} {k k' : StepKind}
    (h : SourceLine.text [verbatim "// step ", .code (Text.ofNat n), verbatim ": ", .code k.name] =
      SourceLine.text [verbatim "// step ", .code (Text.ofNat n), verbatim ": ",
        .code k'.name]) : k = k' := by
  simp only [SourceLine.text, List.flatMap_cons, List.flatMap_nil, List.append_nil,
    List.append_cancel_left_eq] at h
  exact StepKind.name_injective h

theorem closing_ne_comment (n : Nat) (k : StepKind) :
    Instruction.lineAt 1 (.closing [verbatim "\x7d);"]) ≠
      Instruction.lineAt 1 (.line [verbatim "// step ", .code (Text.ofNat n), verbatim ": ",
        .code k.name]) := by
  intro h
  exact absurd (List.cons.inj h).1 (by decide)

theorem effective_eq_of_bodyLines_eq {n : Nat} {sts sts' : List Step} {is js : List Instruction}
    (h : Instruction.lines 1 (bodyLines n (sts.map fun st => (st.kind, .ofStep base st)) ++
          .closing [verbatim "\x7d);"] :: is) =
      Instruction.lines 1 (bodyLines n (sts'.map fun st => (st.kind, .ofStep base st)) ++
          .closing [verbatim "\x7d);"] :: js)) :
    sts.map (Step.effective base) = sts'.map (Step.effective base) ∧
      Instruction.lines 0 is = Instruction.lines 0 js := by
  induction sts generalizing n sts' with
  | nil =>
    cases sts' with
    | nil => exact ⟨rfl, (List.cons.inj h).2⟩
    | cons st' sts' => exact absurd (List.cons.inj h).1 (closing_ne_comment n st'.kind)
  | cons st sts ih =>
    cases sts' with
    | nil => exact absurd (List.cons.inj h).1.symm (closing_ne_comment n st.kind)
    | cons st' sts' =>
      -- The comment tells the kind, and with it the statement tells the rest.
      obtain ⟨hcomment, hrest⟩ := List.cons.inj h
      obtain ⟨hline, hrest⟩ := List.cons.inj hrest
      have hkind : st.kind = st'.kind := comment_injective (Instruction.placed_injective 1 hcomment)
      have hstep := effective_eq_of_line_eq hkind (Instruction.placed_injective 1 hline)
      obtain ⟨hsteps, his⟩ := ih hrest
      exact ⟨by rw [List.map_cons, List.map_cons, hstep, hsteps], his⟩

theorem lines_test (timeout : Option UInt64) (t : Test) (is : List Instruction) :
    Instruction.lines 0 (t.instructions timeout ++ is) =
      Instruction.placed 0 (SourceLine.text [verbatim "test(", .quoted t.title,
          verbatim ", async (\x7b page \x7d) => \x7b"]) ::
        (Instruction.lines 1 (timeoutLines timeout) ++
          Instruction.placed 1 (Statement.goto t.start).line.text ::
            Instruction.lines 1 (bodyLines 1 t.body ++ .closing [verbatim "\x7d);"] :: is)) := by
  have hdepth : Instruction.depthAfterAll 1 (timeoutLines timeout) = 1 := by cases timeout <;> rfl
  rw [Test.instructions]
  simp only [List.cons_append, List.append_assoc, List.nil_append]
  rw [Instruction.lines]
  change _ :: Instruction.lines 1 _ = _
  rw [Instruction.lines_append, hdepth]
  rfl

theorem title_injective {title title' : Text}
    (h : SourceLine.text [verbatim "test(", .quoted title,
      verbatim ", async (\x7b page \x7d) => \x7b"] =
      SourceLine.text [verbatim "test(", .quoted title',
        verbatim ", async (\x7b page \x7d) => \x7b"]) :
    title = title' := by
  simp only [SourceLine.text, List.flatMap_cons, Piece.text, List.append_cancel_left_eq] at h
  exact (quoted_append_inj h).1

theorem start_injective {target target' : Text}
    (h : SourceLine.text (Statement.goto target).line =
      SourceLine.text (Statement.goto target').line) :
    target = target' := by
  simp only [SourceLine.text, Statement.line, List.flatMap_cons, Piece.text,
    List.append_cancel_left_eq] at h
  exact (quoted_append_inj h).1

theorem effect_eq_of_lines_eq {timeout : Option UInt64} {b b' : Text × Scenario}
    {is js : List Instruction}
    (h : Instruction.lines 0 ((Test.ofScenario base b.1 b.2).instructions timeout ++ is) =
      Instruction.lines 0 ((Test.ofScenario base b'.1 b'.2).instructions timeout ++ js)) :
    (b.1 = b'.1 ∧ b.2.effect base = b'.2.effect base) ∧
    Instruction.lines 0 is = Instruction.lines 0 js := by
  -- The lines of the time limit are the same on both sides and cancel.
  rw [lines_test, lines_test] at h
  obtain ⟨htitle, hrest⟩ := List.cons.inj h
  obtain ⟨hstart, hbody⟩ := List.cons.inj (List.append_cancel_left hrest)
  obtain ⟨hsteps, his⟩ := effective_eq_of_bodyLines_eq hbody
  have ht : b.1 = b'.1 := title_injective (Instruction.placed_injective 0 htitle)
  have hs : Address.resolve base b.2.startPath = Address.resolve base b'.2.startPath :=
    start_injective (Instruction.placed_injective 1 hstart)
  exact ⟨⟨ht, by rw [Scenario.effect, Scenario.effect, hs, hsteps]⟩, his⟩

/-- What follows a test: nothing, or the further tests after a blank line. -/
def following (timeout : Option UInt64) : List Test → List Instruction
  | [] => []
  | t :: ts => .blank :: instructions timeout (t :: ts)

theorem instructions_cons (timeout : Option UInt64) (t : Test) (ts : List Test) :
    instructions timeout (t :: ts) = t.instructions timeout ++ following timeout ts := by
  cases ts with
  | nil => rw [instructions_singleton, following, List.append_nil]
  | cons u ts => rw [instructions_cons_cons, following]

theorem lines_eq_of_following_eq {timeout : Option UInt64} {ts us : List Test}
    (h : Instruction.lines 0 (following timeout ts) = Instruction.lines 0 (following timeout us)) :
    Instruction.lines 0 (instructions timeout ts) =
      Instruction.lines 0 (instructions timeout us) := by
  cases ts with
  | nil =>
    cases us with
    | nil => rfl
    | cons u us => cases h
  | cons t ts =>
    cases us with
    | nil => cases h
    | cons u us => exact (List.cons.inj h).2

theorem map_effect_eq_of_lines_eq {timeout : Option UInt64} {bs bs' : List (Text × Scenario)}
    (h : Instruction.lines 0 (instructions timeout (bs.map fun b => .ofScenario base b.1 b.2)) =
      Instruction.lines 0 (instructions timeout (bs'.map fun b => .ofScenario base b.1 b.2))) :
    bs.map (fun b => (b.1, b.2.effect base)) = bs'.map fun b => (b.1, b.2.effect base) := by
  induction bs generalizing bs' with
  | nil =>
    cases bs' with
    | nil => rfl
    | cons b' bs' =>
      rw [List.map_cons, instructions_cons, lines_test] at h
      cases h
  | cons b bs ih =>
    cases bs' with
    | nil =>
      rw [List.map_cons, instructions_cons, lines_test] at h
      cases h
    | cons b' bs' =>
      rw [List.map_cons, List.map_cons, instructions_cons, instructions_cons] at h
      obtain ⟨⟨htitle, heffect⟩, hrest⟩ := effect_eq_of_lines_eq h
      rw [List.map_cons, List.map_cons, htitle, heffect, ih (lines_eq_of_following_eq hrest)]

def Test.ofEffect (title : Text) (e : Text × List Step) : Test :=
  ⟨title, e.1, e.2.map fun st => (st.kind, .ofResolved st)⟩

theorem ofScenario_eq_ofEffect (base title : Text) (s : Scenario) :
    Test.ofScenario base title s = .ofEffect title (s.effect base) := by
  simp only [Test.ofScenario, Test.ofEffect, Scenario.effect, List.map_map, Test.mk.injEq, true_and]
  exact List.map_congr_left fun st _ => ofStep_eq_ofResolved base st

theorem tests_eq_ofEffect (base : Text) (ss : List Scenario) :
    tests base ss = (Titles.distinct (ss.map (·.name))).zipWith .ofEffect
      (ss.map (Scenario.effect base)) := by
  rw [tests, List.zipWith_map_right]
  exact congrArg (List.zipWith · _ ss) (funext₂ fun title s => ofScenario_eq_ofEffect base title s)

@[simp] theorem map_fst_titled (ss : List Scenario) :
    ((Titles.distinct (ss.map (·.name))).zip ss).map Prod.fst = Titles.distinct (ss.map (·.name)) :=
  List.map_fst_zip (by simp)

@[simp] theorem map_snd_titled (ss : List Scenario) :
    ((Titles.distinct (ss.map (·.name))).zip ss).map Prod.snd = ss :=
  List.map_snd_zip (by simp)

end Browser

namespace Program

/-- Browser programs are the same exactly when titles, pages and steps are, as far as they have an
effect. -/
theorem compile_ui_faithful (timeout : Option UInt64) (base : Text) (ss ss' : List Scenario)
    (h : ss ≠ []) (h' : ss' ≠ []) :
    ∃ p p', compile timeout base (.ui ss) = .ok p ∧ compile timeout base (.ui ss') = .ok p' ∧
      (p.source = p'.source ↔
        p.units = p'.units ∧ ss.map (Scenario.effect base) = ss'.map (Scenario.effect base)) := by
  refine ⟨_, _, compile_ui timeout base h, compile_ui timeout base h', ?_, ?_⟩
  · intro hsource
    have hlines := Instruction.lines_eq_of_render_eq
      (List.forall_mem_append.mpr ⟨closed_header, closed_body timeout base (.ui ss)⟩)
      (List.forall_mem_append.mpr ⟨closed_header, closed_body timeout base (.ui ss')⟩) hsource
    rw [Instruction.lines_append, Instruction.lines_append] at hlines
    have hbody := List.append_cancel_left hlines
    rw [body, body, Browser.tests_eq_map, Browser.tests_eq_map] at hbody
    have hzip := Browser.map_effect_eq_of_lines_eq hbody
    constructor
    · have htitles := congrArg (List.map Prod.fst) hzip
      rw [List.map_map, List.map_map] at htitles
      exact (Browser.map_fst_titled ss).symm.trans (htitles.trans (Browser.map_fst_titled ss'))
    · have heffects := congrArg (List.map Prod.snd) hzip
      rw [List.map_map, List.map_map] at heffects
      rw [← Browser.map_snd_titled ss, ← Browser.map_snd_titled ss', List.map_map, List.map_map]
      exact heffects
  · rintro ⟨htitles, heffects⟩
    have htests : Browser.tests base ss = Browser.tests base ss' := by
      rw [Browser.tests_eq_ofEffect, Browser.tests_eq_ofEffect, heffects]
      exact congrArg (List.zipWith _ · _) htitles
    exact congrArg (fun ts => Instruction.render 0 (header ++ Browser.instructions timeout ts))
      htests

/-- The selector of a step that waits for a time is not seen, the order of the steps is. -/
theorem compile_ui_faithful_of_wait :
    (∃ p p', compile none "http://x".toList (.ui [⟨"a".toList, "/".toList,
        [.waitFor (some "#m".toList) (some 5), .goto "in".toList]⟩]) = .ok p ∧
      compile none "http://x".toList (.ui [⟨"a".toList, "/".toList,
        [.waitFor none (some 5), .goto " /in".toList]⟩]) = .ok p' ∧ p.source = p'.source) ∧
    (∃ p p', compile none "http://x".toList (.ui [⟨"a".toList, "/".toList,
        [.waitFor (some "#m".toList) (some 5), .goto "in".toList]⟩]) = .ok p ∧
      compile none "http://x".toList (.ui [⟨"a".toList, "/".toList,
        [.goto "in".toList, .waitFor none (some 5)]⟩]) = .ok p' ∧ p.source ≠ p'.source) := by
  constructor
  · obtain ⟨p, p', hp, hp', hiff⟩ := compile_ui_faithful none "http://x".toList
      [⟨"a".toList, "/".toList, [.waitFor (some "#m".toList) (some 5), .goto "in".toList]⟩]
      [⟨"a".toList, "/".toList, [.waitFor none (some 5), .goto " /in".toList]⟩] (by simp) (by simp)
    have hunits : p.units = p'.units := by
      rw [compile_ui _ _ (by simp), Except.ok.injEq] at hp hp'
      rw [← hp, ← hp']
      rfl
    exact ⟨p, p', hp, hp', hiff.mpr ⟨hunits, by decide⟩⟩
  · obtain ⟨p, p', hp, hp', hiff⟩ := compile_ui_faithful none "http://x".toList
      [⟨"a".toList, "/".toList, [.waitFor (some "#m".toList) (some 5), .goto "in".toList]⟩]
      [⟨"a".toList, "/".toList, [.goto "in".toList, .waitFor none (some 5)]⟩] (by simp) (by simp)
    exact ⟨p, p', hp, hp', fun hsource => absurd (hiff.mp hsource).2 (by decide)⟩

end Program
end TestBench
