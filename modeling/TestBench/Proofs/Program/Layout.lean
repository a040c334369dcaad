import TestBench.Proofs.Program.Brackets
import TestBench.Proofs.Program.Structure

/-! How the source of a program is laid out. Each instruction opens or closes as many curly brackets
as it moves the lines after it in or out, and what else it opens on a line it closes there. So the
brackets of a whole program are nested, and each line stands as far in as there are curly brackets
around it. -/
namespace TestBench

open Brackets

variable {a b c : Text} {l : SourceLine} {i : Instruction} {is js : List Instruction}

namespace SourceLine

/-- What is awaited after the pieces of a line, if these leave no literal open; literals and values
are neutral. -/
def awaited? (a : Text) : SourceLine → Option Text
  | [] => some a
  | .code t :: l =>
    (read ⟨.code, a⟩ t).bind fun st => if st.mode = .code then awaited? st.awaited l else none
  | .quoted _ :: l | .value _ :: l => awaited? a l

/-- The character that a line begins with, if it begins with code. -/
def first? : SourceLine → Option Char
  | .code t :: _ => t.head?
  | _ => none

theorem takes_text (h : l.awaited? a = some b) : Takes a l.text b := by
  induction l generalizing a with
  | nil =>
    obtain rfl := Option.some.inj h
    rfl
  | cons p l ih =>
    cases p with
    | code t =>
      obtain ⟨⟨mode, a'⟩, hread, hrest⟩ := Option.bind_eq_some_iff.mp h
      cases mode with
      | code => exact Takes.append hread (ih hrest)
      | _ => cases hrest
    | quoted t => exact (neutral_quoted t a).append (ih h)
    | value v => exact (neutral_compact v a).append (ih h)

@[simp] theorem awaited?_neutral {t : Text} (h : Neutral t) (a : Text) (l : SourceLine) :
    awaited? a (.code t :: l) = awaited? a l := by
  rw [awaited?, h a, Option.bind_some, if_pos rfl]

theorem awaited?_argument (n : Nat) (a : Text) :
    awaited? (')' :: a) [.code (Text.ofNat n), verbatim ");"] = some a := by
  rw [awaited?_neutral (neutral_ofNat n)]
  rfl

theorem exists_text_of_first {x : Char} (h : l.first? = some x) : ∃ t, l.text = x :: t := by
  match l, h with
  | .code (y :: t) :: l, h =>
    obtain rfl := Option.some.inj h
    exact ⟨t ++ text l, rfl⟩

end SourceLine

namespace Instruction

def curly (a : Text) : Nat := a.count '\x7d'

/-- An instruction takes what is awaited before its line to what is awaited after it. A closing line
begins with the bracket that it closes, and no other line begins with such a bracket or with a
blank. -/
inductive Turn : Text → Instruction → Text → Prop
  | blank (a : Text) : Turn a .blank a
  | line {a : Text} {l : SourceLine} (x : Char) (t : Text) (first : l.text = x :: t)
      (start : x ∉ [' ', '\x7d'])
      (takes : Takes a (l.text ++ ['\n']) a) : Turn a (.line l) a
  | opening {a b : Text} {l : SourceLine} (x : Char) (t : Text) (first : l.text = x :: t)
      (start : x ∉ [' ', '\x7d'])
      (takes : Takes a (l.text ++ ['\n']) b) (deeper : curly b = curly a + 1) :
        Turn a (.opening l) b
  | closing {a b : Text} {l : SourceLine} (t : Text) (first : l.text = '\x7d' :: t)
      (takes : Takes a (l.text ++ ['\n']) b) (deeper : curly a = curly b + 1) :
        Turn a (.closing l) b

/-- What a list of instructions does, one after the other. -/
inductive Run : Text → List Instruction → Text → Prop
  | nil (a : Text) : Run a [] a
  | cons {a b c : Text} {i : Instruction} {is : List Instruction} (first : Turn a i b)
      (rest : Run b is c) :
      Run a (i :: is) c

theorem Run.append (hi : Run a is b) (hj : Run b js c) : Run a (is ++ js) c := by
  induction hi with
  | nil => exact hj
  | cons first _ ih => exact .cons first (ih hj)

theorem Run.split (h : Run a (is ++ js) c) : ∃ b, Run a is b ∧ Run b js c := by
  induction is generalizing a with
  | nil => exact ⟨a, .nil a, h⟩
  | cons i is ih =>
    cases h with
    | cons first rest =>
      obtain ⟨b, hi, hj⟩ := ih rest
      exact ⟨b, .cons first hi, hj⟩

theorem takes_break (h : Takes a l.text b) : Takes a (l.text ++ ['\n']) b := h.append rfl

theorem takes_lineText {t : Text} (h : Takes a (t ++ ['\n']) b) (depth : Nat) :
    Takes a (lineText depth t) b := by
  have hindent : Neutral (Text.indentation depth) :=
    neutral_of_plain fun x hx => by rw [List.eq_of_mem_replicate hx]; decide
  rw [lineText]
  split
  · next ht =>
    rw [List.isEmpty_iff] at ht
    rwa [ht, List.nil_append] at h
  · rw [List.append_assoc]
    exact (hindent a).append h

theorem Turn.takes (h : Turn a i b) :
    Takes a (i.text (curly a)) b ∧ i.depthAfter (curly a) = curly b := by
  cases h with
  | blank => exact ⟨rfl, rfl⟩
  | line _ _ _ _ takes => exact ⟨takes_lineText takes _, rfl⟩
  | opening _ _ _ _ takes deeper => exact ⟨takes_lineText takes _, deeper.symm⟩
  | closing _ _ takes deeper =>
    refine ⟨takes_lineText takes _, ?_⟩
    rw [depthAfter, deeper, Nat.add_sub_cancel]

theorem Run.takes (h : Run a is b) :
    Takes a (render (curly a) is) b ∧ depthAfterAll (curly a) is = curly b := by
  induction h with
  | nil => exact ⟨rfl, rfl⟩
  | cons first _ ih =>
    obtain ⟨hfirst, hdepth⟩ := first.takes
    rw [render, depthAfterAll, List.foldl_cons, hdepth]
    exact ⟨hfirst.append ih.1, ih.2⟩

/-- From what is awaited at first, a line stands as far in as curly brackets are awaited after the
lines before it; the one that it closes first does not count. -/
def StandsAfter (a : Text) (before : List Text) (line : Text) : Prop :=
  ∃ b depth x t, Takes a (before.flatMap fun l => l ++ ['\n']) b ∧
    line = Text.indentation depth ++ x :: t ∧ x ≠ ' ' ∧
    curly b = if x = '\x7d' then depth + 1 else depth

@[simp] theorem placed_cons (depth : Nat) (x : Char) (t : Text) :
    placed depth (x :: t) = Text.indentation depth ++ x :: t := rfl

theorem Turn.stands (h : Turn a i b) (hline : i.lineAt (curly a) ≠ []) :
    StandsAfter a [] (i.lineAt (curly a)) := by
  cases h with
  | blank => exact absurd rfl hline
  | line x t first start | opening x t first start =>
    simp only [List.mem_cons, List.not_mem_nil, or_false, not_or] at start
    refine ⟨a, curly a, x, t, rfl, ?_, start.1, by rw [if_neg start.2]⟩
    rw [lineAt, first, placed_cons]
  | closing t first _ deeper =>
    refine ⟨a, curly b, '\x7d', t, rfl, ?_, by decide, deeper⟩
    rw [lineAt, first, deeper, Nat.add_sub_cancel, placed_cons]

theorem Run.stands (h : Run a is c) {before after : List Text} {line : Text}
    (hlines : lines (curly a) is = before ++ line :: after) (hline : line ≠ []) :
    StandsAfter a before line := by
  induction before generalizing a is with
  | nil =>
    cases h with
    | nil => cases hlines
    | cons first _ =>
      obtain ⟨rfl, -⟩ := List.cons.inj hlines
      exact first.stands hline
  | cons m before ih =>
    cases h with
    | nil => cases hlines
    | cons first rest =>
      obtain ⟨hm, hrest⟩ := List.cons.inj hlines
      obtain ⟨hfirst, hdepth⟩ := first.takes
      rw [hdepth] at hrest
      obtain ⟨b, depth, x, t, hbefore, hstands⟩ := ih rest hrest
      rw [text_eq, hm] at hfirst
      exact ⟨b, depth, x, t, hfirst.append hbefore, hstands⟩

theorem turn_line (hfirst : ∃ x ∉ [' ', '\x7d'], l.first? = some x) (h : l.awaited? a = some a) :
    Turn a (.line l) a := by
  obtain ⟨x, hstart, hx⟩ := hfirst
  obtain ⟨t, ht⟩ := SourceLine.exists_text_of_first hx
  exact .line x t ht hstart (takes_break (SourceLine.takes_text h))

theorem turn_opening (hfirst : ∃ x ∉ [' ', '\x7d'], l.first? = some x) (h : l.awaited? a = some b)
    (hdeeper : curly b = curly a + 1) : Turn a (.opening l) b := by
  obtain ⟨x, hstart, hx⟩ := hfirst
  obtain ⟨t, ht⟩ := SourceLine.exists_text_of_first hx
  exact .opening x t ht hstart (takes_break (SourceLine.takes_text h)) hdeeper

theorem turn_closing (hfirst : l.first? = some '\x7d') (h : l.awaited? a = some b)
    (hdeeper : curly a = curly b + 1) : Turn a (.closing l) b := by
  obtain ⟨t, ht⟩ := SourceLine.exists_text_of_first hfirst
  exact .closing t ht (takes_break (SourceLine.takes_text h)) hdeeper

theorem turn_comment {t : Text} (htext : l.text = '/' :: '/' :: t) (h : '\n' ∉ t) (a : Text) :
    Turn a (.line l) a :=
  .line '/' ('/' :: t) htext (by decide) (htext ▸ takes_comment h a)

@[simp] theorem curly_block (a : Text) : curly ('\x7d' :: a) = curly a + 1 := List.count_cons_self

theorem curly_call (a : Text) : curly ('\x7d' :: ')' :: a) = curly a + 1 := by
  rw [curly_block, curly, List.count_cons_of_ne (by decide), curly]

/-- The same is awaited after the instructions as before them, whatever that is. -/
def Level (is : List Instruction) : Prop := ∀ a, Run a is a

theorem level_nil : Level [] := .nil

theorem level_blank : Level [.blank] := fun a => .cons (.blank a) (.nil a)

theorem Level.append (hi : Level is) (hj : Level js) : Level (is ++ js) :=
  fun a => (hi a).append (hj a)

theorem level_cons (hi : ∀ a, Turn a i a) (h : Level is) : Level (i :: is) :=
  fun a => .cons (hi a) (h a)

theorem Level.enclosed {m : SourceLine} (hopening : ∀ a, Turn a (.opening l) (b ++ a))
    (hclosing : ∀ a, Turn (b ++ a) (.closing m) a) (h : Level is) :
    Level (.opening l :: is ++ [.closing m]) := fun a =>
  .cons (hopening a) ((h (b ++ a)).append (.cons (hclosing a) (.nil a)))

theorem level_flatten {iss : List (List Instruction)} (h : ∀ is ∈ iss, Level is) :
    Level iss.flatten := by
  induction iss with
  | nil => exact level_nil
  | cons is iss ih =>
    obtain ⟨his, hiss⟩ := List.forall_mem_cons.mp h
    exact his.append (ih hiss)

end Instruction

open Instruction

namespace Browser

theorem level_timeoutLines (timeout : Option UInt64) : Level (timeoutLines timeout) := by
  cases timeout with
  | none => exact level_nil
  | some ms =>
    exact level_cons (fun a => turn_line ⟨'t', by decide, rfl⟩ (SourceLine.awaited?_argument _ a))
      level_nil

theorem turn_statement (s : Statement) (a : Text) : Turn a (.line s.line) a := by
  have hfirst : ∃ x ∉ [' ', '\x7d'], s.line.first? = some x := by
    cases s with
    | refuseWait => exact ⟨'t', by decide, rfl⟩
    | _ => exact ⟨'a', by decide, rfl⟩
  refine turn_line hfirst ?_
  cases s with
  | pause ms => exact SourceLine.awaited?_argument _ a
  | _ => rfl

theorem turn_stepComment (n : Nat) (k : StepKind) (a : Text) :
    Turn a (.line [verbatim "// step ", .code (Text.ofNat n), verbatim ": ", .code k.name]) a := by
  have hclosed := closed_bodyLines n [(k, .refuseWait)] _ List.mem_cons_self
  have hbreak := SourceLine.break_not_mem_text hclosed
  refine turn_comment rfl (fun hmem => ?_) a
  exact hbreak (List.mem_cons_of_mem _ (List.mem_cons_of_mem _ hmem))

theorem level_bodyLines (n : Nat) (body : List (StepKind × Statement)) :
    Level (bodyLines n body) := by
  induction body generalizing n with
  | nil => exact level_nil
  | cons s body ih =>
    exact level_cons (turn_stepComment n s.1) (level_cons (turn_statement s.2) (ih (n + 1)))

theorem Test.level_instructions (timeout : Option UInt64) (t : Test) :
    Level (t.instructions timeout) :=
  Level.enclosed (b := ['\x7d', ')']) (fun a => turn_opening ⟨'t', by decide, rfl⟩ rfl
    (curly_call a))
    (fun a => turn_closing rfl rfl (curly_call a))
    ((level_timeoutLines timeout).append (level_cons (turn_statement _) (level_bodyLines 1 t.body)))

theorem level_instructions (timeout : Option UInt64) (ts : List Test) :
    Level (instructions timeout ts) := by
  induction ts with
  | nil => exact level_nil
  | cons t ts ih =>
    cases ts with
    | nil =>
      rw [instructions_singleton]
      exact t.level_instructions timeout
    | cons u ts =>
      rw [instructions_cons_cons]
      exact (t.level_instructions timeout).append (level_cons .blank ih)

end Browser

namespace Api

theorem level_constants (base : Text) (headers : Headers) : Level (constants base headers) := by
  have hcodes : ∀ {t : Text}, Neutral t → ∀ codes a,
      SourceLine.awaited? a [.code t, .code (statusList codes), verbatim ";"] = some a :=
        fun ht codes a => by
    rw [SourceLine.awaited?_neutral ht, SourceLine.awaited?_neutral (neutral_statusList codes)]
    rfl
  have hconst : ∃ x ∉ [' ', '\x7d'], some 'c' = some x := ⟨'c', by decide, rfl⟩
  refine level_cons (fun a => turn_line hconst rfl) (level_cons (fun a => turn_line hconst rfl) ?_)
  exact level_cons (fun a => turn_line hconst (hcodes (neutral_of_plain (by decide)) _ a))
    (level_cons (fun a => turn_line hconst (hcodes (neutral_of_plain (by decide)) _ a)) level_blank)

theorem turn_openingLine (title a : Text) : Turn a (openingLine title) ('\x7d' :: ')' :: a) :=
  turn_opening ⟨'t', by decide, rfl⟩ rfl (curly_call a)

theorem turn_closingLine (a : Text) : Turn ('\x7d' :: ')' :: a) closingLine a :=
  turn_closing rfl rfl (curly_call a)

theorem level_test (timeout : Option UInt64) (title : Text) (is : List Instruction) (h : Level is) :
    Level (openingLine title :: Browser.timeoutLines timeout ++ (is ++ [closingLine])) := by
  rw [← List.append_assoc]
  exact Level.enclosed (b := ['\x7d', ')']) (turn_openingLine title) turn_closingLine
    ((Browser.level_timeoutLines timeout).append h)

theorem level_reachabilityTest (timeout : Option UInt64) (title : Text) :
    Level (reachabilityTest timeout title) :=
  level_test timeout title [_, _] (level_cons (fun a => turn_line ⟨'c', by decide, rfl⟩ rfl)
    (level_cons (fun a => turn_line ⟨'e', by decide, rfl⟩ rfl) level_nil))

theorem level_block (is : List Instruction) (hfirst : l.first? = some 'i')
    (h : ∀ a, l.awaited? a = some ('\x7d' :: a)) (his : Level is) :
    Level (.opening l :: is ++ [.closing [verbatim "\x7d"]]) :=
  Level.enclosed (b := ['\x7d']) (fun a => turn_opening ⟨'i', by decide, hfirst⟩ (h a)
    (curly_block a))
    (fun a => turn_closing rfl rfl (curly_block a)) his

theorem Test.level_instructions (timeout : Option UInt64) (t : Test) :
    Level (t.instructions timeout) := by
  refine level_test timeout t.title [_, _, _, _, _, _, _, _, _, _] ?_
  -- The request and its status, the two checks of the status, and what is expected of it.
  refine level_cons (fun a => turn_line ⟨'c', by decide, rfl⟩ ?fetch)
    (level_cons (fun a => turn_line ⟨'c', by decide, rfl⟩ rfl) ?_)
  case fetch => cases t.data <;> rfl
  refine (level_block [_] rfl (fun _ => rfl) ?missing).append
    ((level_block [_, _] rfl (fun _ => rfl) ?broken).append ?_)
  case missing => exact level_cons (fun a => turn_line ⟨'t', by decide, rfl⟩ rfl) level_nil
  case broken =>
    exact level_cons (fun a => turn_line ⟨'c', by decide, rfl⟩
      (SourceLine.awaited?_argument errorBodyLimit a))
      (level_cons (fun a => turn_line ⟨'t', by decide, rfl⟩ rfl) level_nil)
  exact level_cons (fun a => turn_line ⟨'e', by decide, rfl⟩ rfl) level_nil

theorem level_instructions (timeout : Option UInt64) (base : Text) (suite : ApiSuite) :
    Level (instructions timeout base suite) := by
  refine ((level_constants base suite.headers).append (level_reachabilityTest timeout _)).append ?_
  rw [List.flatMap_def]
  refine level_flatten (List.forall_mem_map.mpr fun t _ => ?_)
  exact level_cons .blank (t.level_instructions timeout)

end Api

namespace Program

variable {timeout : Option UInt64} {base : Text} {set : CheckSet} {p : Program}

end Program

end TestBench
