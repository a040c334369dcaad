import TestBench.Proofs.Program.ApiFaithful
import TestBench.Proofs.Program.Titles

/-! The units of a program. No line of a program begins like the opening of a test unless it is one,
whatever texts the program is made of, and the tests are opened under the titles of the units, in
order. -/
namespace TestBench

namespace Instruction

def opensTest (l : Text) : Bool := Text.startsWith "test(".toList l

def openings (depth : Nat) (is : List Instruction) : List Text := (lines depth is).filter opensTest

@[simp] theorem opensTest_cons {c : Char} (hc : c ≠ 't') (l : Text) :
    opensTest (c :: l) = false := by
  have hnone : Text.dropPrefix? "test(".toList (c :: l) = none := if_neg (Ne.symm hc)
  rw [opensTest, Text.startsWith, hnone]
  rfl

@[simp] theorem opensTest_placed_succ (depth : Nat) (t : Text) :
    opensTest (placed (depth + 1) t) = false := by
  cases t with
  | nil => rfl
  | cons c t => exact opensTest_cons (by decide) _

theorem openings_cons_of_not {depth : Nat} {i : Instruction}
    (h : opensTest (i.lineAt depth) = false) (is : List Instruction) :
    openings depth (i :: is) = openings (i.depthAfter depth) is := by
  rw [openings, lines, List.filter_cons_of_neg (by rw [h]; exact Bool.false_ne_true)]
  rfl

theorem openings_cons_of_opens {depth : Nat} {i : Instruction}
    (h : opensTest (i.lineAt depth) = true) (is : List Instruction) :
    openings depth (i :: is) = i.lineAt depth :: openings (i.depthAfter depth) is := by
  rw [openings, lines, List.filter_cons_of_pos h]
  rfl

@[simp] theorem openings_blank (depth : Nat) (is : List Instruction) :
    openings depth (.blank :: is) = openings depth is := openings_cons_of_not rfl is

@[simp] theorem openings_line_succ (depth : Nat) (l : SourceLine) (is : List Instruction) :
    openings (depth + 1) (.line l :: is) = openings (depth + 1) is :=
  openings_cons_of_not (i := .line l) (opensTest_placed_succ depth _) is

@[simp] theorem openings_opening_succ (depth : Nat) (l : SourceLine) (is : List Instruction) :
    openings (depth + 1) (.opening l :: is) = openings (depth + 2) is :=
  openings_cons_of_not (i := .opening l) (opensTest_placed_succ depth _) is

@[simp] theorem openings_closing_succ (depth : Nat) (l : SourceLine) (is : List Instruction) :
    openings (depth + 2) (.closing l :: is) = openings (depth + 1) is := by
  have hline : opensTest ((closing l).lineAt (depth + 2)) = false := opensTest_placed_succ depth _
  exact openings_cons_of_not hline is

end Instruction

open Instruction

/-- How the line that opens a test goes on after the title. -/
def Mode.openingEnd : Mode → Text
  | .api => ", async (\x7b request \x7d) => \x7b".toList
  | .ui => ", async (\x7b page \x7d) => \x7b".toList

def Mode.openingText (m : Mode) (title : Text) : Text :=
  "test(".toList ++ (Json.quoted title ++ m.openingEnd)

@[simp] theorem opensTest_openingText (m : Mode) (title : Text) :
    opensTest (m.openingText title) = true := by
  rw [opensTest, Text.startsWith, Mode.openingText, Text.dropPrefix?_append]
  rfl

theorem openings_opening {l : SourceLine} {m : Mode} {title : Text}
    (h : l.text = m.openingText title) (is : List Instruction) :
    openings 0 (.opening l :: is) = m.openingText title :: openings 1 is := by
  have hline : (Instruction.opening l).lineAt 0 = m.openingText title := by rw [lineAt, h]; rfl
  rw [openings_cons_of_opens (by rw [hline, opensTest_openingText]), hline]
  rfl

@[simp] theorem openings_closing (is : List Instruction) :
    openings 1 (.closing [verbatim "\x7d);"] :: is) = openings 0 is := openings_cons_of_not rfl is

namespace Browser

@[simp] theorem openings_timeoutLines (timeout : Option UInt64) (is : List Instruction) :
    openings 1 (timeoutLines timeout ++ is) = openings 1 is := by
  cases timeout with
  | none => rfl
  | some ms => exact openings_line_succ 0 _ is

@[simp] theorem openings_bodyLines (n : Nat) (body : List (StepKind × Statement))
    (is : List Instruction) :
    openings 1 (bodyLines n body ++ is) = openings 1 is := by
  induction body generalizing n with
  | nil => rfl
  | cons b body ih => simp only [bodyLines, List.cons_append, openings_line_succ, ih]

theorem text_opening (title : Text) :
    SourceLine.text [verbatim "test(", .quoted title, verbatim ", async (\x7b page \x7d) => \x7b"] =
      Mode.ui.openingText title :=
  congrArg (fun t => "test(".toList ++ (Json.quoted title ++ t)) (List.append_nil _)

@[simp] theorem openings_test (timeout : Option UInt64) (t : Test) (is : List Instruction) :
    openings 0 (t.instructions timeout ++ is) = Mode.ui.openingText t.title :: openings 0 is := by
  simp [Test.instructions, openings_opening (text_opening t.title)]

@[simp] theorem openings_instructions (timeout : Option UInt64) (ts : List Test) :
    openings 0 (instructions timeout ts) = ts.map fun t => Mode.ui.openingText t.title := by
  induction ts with
  | nil => rfl
  | cons t ts ih =>
    have hfollowing : openings 0 (following timeout ts) = openings 0 (instructions timeout ts) := by
      cases ts with
      | nil => rfl
      | cons u ts => exact openings_blank 0 _
    simp [instructions_cons, hfollowing, ih]

@[simp] theorem map_title_tests (base : Text) (ss : List Scenario) :
    (tests base ss).map Test.title = Titles.distinct (ss.map (·.name)) := by
  rw [tests_eq_map, List.map_map]
  exact map_fst_titled ss

end Browser

namespace Api

@[simp] theorem openings_checks (label : Text) (is : List Instruction) :
    openings 1 (checks label ++ is) = openings 0 is := by
  simp [checks, closingLine]

theorem text_openingLine (title : Text) :
    SourceLine.text [verbatim "test(", .quoted title,
      verbatim ", async (\x7b request \x7d) => \x7b"] =
      Mode.api.openingText title :=
  congrArg (fun t => "test(".toList ++ (Json.quoted title ++ t)) (List.append_nil _)

@[simp] theorem openings_test (timeout : Option UInt64) (t : Test) (is : List Instruction) :
    openings 0 (t.instructions timeout ++ is) = Mode.api.openingText t.title :: openings 0 is := by
  simp [Test.instructions_eq, openingLine, openings_opening (text_openingLine t.title)]

@[simp] theorem openings_tests (timeout : Option UInt64) (ts : List Test) :
    openings 0 (ts.flatMap fun t => .blank :: t.instructions timeout) =
      ts.map fun t => Mode.api.openingText t.title := by
  induction ts with
  | nil => rfl
  | cons t ts ih => simp [ih]

@[simp] theorem openings_reachabilityTest (timeout : Option UInt64) (title : Text)
    (is : List Instruction) :
    openings 0 (reachabilityTest timeout title ++ is) =
      Mode.api.openingText title :: openings 0 is := by
  simp [reachabilityTest, closingLine, openingLine, openings_opening (text_openingLine title)]

@[simp] theorem openings_constants (base : Text) (h : Headers) (is : List Instruction) :
    openings 0 (constants base h ++ is) = openings 0 is := by
  have hconst : ∀ (c : Char) (t : Text) (l : SourceLine) (js : List Instruction), c ≠ 't' →
      openings 0 (.line (.code (c :: t) :: l) :: js) = openings 0 js := by
    intro c t l js hc
    have hline : opensTest (lineAt 0 (.line (.code (c :: t) :: l))) = false := opensTest_cons hc _
    exact openings_cons_of_not hline js
  simp only [constants, List.cons_append, List.nil_append]
  refine (hconst 'c' _ _ _ (by decide)).trans ((hconst 'c' _ _ _ (by decide)).trans
    ((hconst 'c' _ _ _ (by decide)).trans ((hconst 'c' _ _ _ (by decide)).trans ?_)))
  exact openings_blank 0 is

@[simp] theorem map_title_tests (requests : List Request) :
    (tests requests).map Test.title = (titles requests).tail := by
  rw [tests_eq_map, List.map_map]
  exact List.map_fst_zip (length_tail_titles requests).le

@[simp] theorem openings_instructions (timeout : Option UInt64) (base : Text) (suite : ApiSuite) :
    openings 0 (instructions timeout base suite) =
      (titles suite.requests).map Mode.api.openingText := by
  have htests : ((tests suite.requests).map fun t => Mode.api.openingText t.title) =
      (titles suite.requests).tail.map Mode.api.openingText := by
        rw [← map_title_tests, List.map_map]
        rfl
  have hfirst : (titles suite.requests).head?.getD [] = reachabilityTitle := rfl
  rw [titles_eq_cons, List.map_cons, ← htests]
  simp [instructions, hfirst]

end Api

namespace Program

@[simp] theorem openings_header (is : List Instruction) :
    openings 0 (header ++ is) = openings 0 is := rfl

@[simp] theorem openings_body (timeout : Option UInt64) (base : Text) (set : CheckSet) :
    openings 0 (body timeout base set) = (unitsOf set).map set.mode.openingText := by
  cases set with
  | api suite => exact Api.openings_instructions timeout base suite
  | ui ss =>
    rw [body, Browser.openings_instructions, unitsOf, ← Browser.map_title_tests base, List.map_map]
    rfl

theorem filter_pieces_sourceOf (timeout : Option UInt64) (base : Text) (set : CheckSet) :
    (Text.pieces '\n' (sourceOf timeout base set)).filter opensTest =
      (unitsOf set).map set.mode.openingText := by
  rw [pieces_sourceOf, List.filter_append]
  change openings 0 _ ++ [] = _
  simp

theorem nodup_unitsOf (set : CheckSet) : (unitsOf set).Nodup := by
  cases set <;> exact Titles.nodup_distinct _

variable {timeout : Option UInt64} {base : Text} {set : CheckSet} {p : Program}

/-- One unit is called after each scenario, or one after the base address and then one after each
request. -/
def CalledAfter (units : List Text) : CheckSet → Prop
  | .ui ss => units.length = ss.length ∧ List.Forall₂ Titles.IsForm units (ss.map (·.name))
  | .api suite => units.length = suite.requests.length + 1 ∧
      ∃ titles, units = Api.reachabilityTitle :: titles ∧
        List.Forall₂ Titles.IsForm titles (suite.requests.map Api.label)

theorem calledAfter_unitsOf (set : CheckSet) : CalledAfter (unitsOf set) set := by
  cases set with
  | ui ss =>
    have hforms := Titles.forall₂_isForm_distinctFrom [] (ss.map (·.name))
    exact ⟨hforms.length_eq.trans (List.length_map _), hforms⟩
  | api suite =>
    have hforms :=
      Titles.forall₂_isForm_distinctFrom [Api.reachabilityTitle] (suite.requests.map Api.label)
    exact ⟨congrArg (· + 1) (hforms.length_eq.trans (List.length_map _)), _, rfl, hforms⟩

/-- The units of a program are distinct, they are called after its checks, and its tests are opened
under them, in order and without exception. -/
theorem units_describe_source (h : compile timeout base set = .ok p) :
    (Text.pieces '\n' p.source).filter (Text.startsWith "test(".toList) =
      p.units.map set.mode.openingText ∧
      p.units.Nodup ∧ CalledAfter p.units set := by
  rw [eq_of_compile h]
  exact ⟨filter_pieces_sourceOf timeout base set, nodup_unitsOf set, calledAfter_unitsOf set⟩

/-- Names that look like forms of each other, and a selector that looks like the opening of a
test. -/
theorem units_describe_source_of_forms :
    ∃ p, compile none "http://x".toList (.ui [⟨"a".toList, [], [.click "\ntest(\"a\"".toList]⟩,
        ⟨"a (#2)".toList, [], []⟩, ⟨"a".toList, [], []⟩]) = .ok p ∧
      p.units = ["a".toList, "a (#2)".toList, "a (#3)".toList] ∧ p.units.Nodup ∧
      (Text.pieces '\n' p.source).filter (Text.startsWith "test(".toList) =
        ["a".toList, "a (#2)".toList, "a (#3)".toList].map Mode.ui.openingText := by
  have hne : [⟨"a".toList, [], [.click "\ntest(\"a\"".toList]⟩, ⟨"a (#2)".toList, [], []⟩,
    ⟨"a".toList, [], []⟩] ≠
    ([] : List Scenario) := by simp
  have hcompile := compile_ui none "http://x".toList hne
  obtain ⟨hlines, hnodup, -⟩ := units_describe_source hcompile
  have hunits : Titles.distinct ["a".toList, "a (#2)".toList, "a".toList] =
    ["a".toList, "a (#2)".toList, "a (#3)".toList] := by decide
  exact ⟨_, hcompile, hunits, hnodup, hlines.trans (congrArg (List.map Mode.ui.openingText) hunits)⟩

end Program
end TestBench
