import TestBench.Program.Source
import TestBench.Proofs.Json.NumberText
import TestBench.Proofs.Program.Literals

/-! Source text read for its brackets: round, square and curly ones are closed in the order in which
they nest, and what stands in a string literal or in a comment does not count. Literals and values
leave all as it was. -/
namespace TestBench
namespace Brackets

open Literals (escaped)

/-- Where in a source the reading stands; after a slash a second one begins a comment. -/
inductive Mode where
  | code
  | slash
  | comment
  | literal
  | escape
deriving DecidableEq

/-- Where the reading stands, and the closing brackets that are still to come, the next one
first. -/
structure State where
  mode : Mode
  awaited : Text
deriving DecidableEq

def pairs : List (Char × Char) := [('(', ')'), ('[', ']'), ('\x7b', '\x7d')]

/-- A character of code. A closing bracket has to be the one that is to come next. -/
def codeStep (awaited : Text) (c : Char) : Option State :=
  if c = '"' then some ⟨.literal, awaited⟩
  else if c = '/' then some ⟨.slash, awaited⟩
  else if c ∈ pairs.map Prod.snd then if awaited.head? = some c then
    some ⟨.code, awaited.tail⟩ else none
  else some ⟨.code, (pairs.lookup c).toList ++ awaited⟩

/-- One character; there is no way on from a closing bracket that is not the next one. -/
def step : State → Char → Option State
  | ⟨.code, awaited⟩, c => codeStep awaited c
  | ⟨.slash, awaited⟩, c => if c = '/' then some ⟨.comment, awaited⟩ else codeStep awaited c
  | ⟨.comment, awaited⟩, c => some ⟨if c = '\n' then .code else .comment, awaited⟩
  | ⟨.literal, awaited⟩, c =>
    some ⟨if c = '"' then .code else if c = '\\' then .escape else .literal, awaited⟩
  | ⟨.escape, awaited⟩, _ => some ⟨.literal, awaited⟩

def read (s : State) (t : Text) : Option State := t.foldlM step s

variable {a b c : Text} {s t : Text}

@[simp] theorem read_cons (st : State) (x : Char) (t : Text) :
    read st (x :: t) = (step st x).bind (read · t) := List.foldlM_cons

@[simp] theorem read_append (st : State) (s t : Text) :
    read st (s ++ t) = (read st s).bind (read · t) :=
  List.foldlM_append

/-- The text takes what is awaited in code to what is awaited then, again in code. -/
def Takes (a t b : Text) : Prop := read ⟨.code, a⟩ t = some ⟨.code, b⟩

theorem Takes.append (hs : Takes a s b) (ht : Takes b t c) : Takes a (s ++ t) c := by
  rw [Takes, read_append, hs, Option.bind_some]
  exact ht

/-- The characters that mean something in code: quotes, slashes and brackets. -/
def marks : Text := ['"', '/', '(', ')', '[', ']', '\x7b', '\x7d']

/-- A text without marks. -/
def Plain (t : Text) : Prop := ∀ x ∈ t, x ∉ marks

instance (t : Text) : Decidable (Plain t) := List.decidableBAll (· ∉ marks) t

theorem digit_not_mem_marks {x : Char} (h : x.isDigit = true) : x ∉ marks := by
  intro hmem
  have hnot : (marks.any Char.isDigit) = false := by decide
  exact absurd h (by simpa using List.any_eq_false.mp hnot x hmem)

/-- The same is awaited after the text as before it, whatever that is. -/
def Neutral (t : Text) : Prop := ∀ a, Takes a t a

theorem neutral_nil : Neutral [] := fun _ => rfl

theorem Neutral.append (hs : Neutral s) (ht : Neutral t) : Neutral (s ++ t) :=
  fun a => (hs a).append (ht a)

theorem neutral_cons {x : Char} (hx : x ∉ marks) (h : Neutral t) :
    Neutral (x :: t) := by
  intro a
  simp only [marks, List.mem_cons, List.not_mem_nil, or_false, not_or] at hx
  obtain ⟨hquote, hslash, hround, hround', hsquare, hsquare', hcurly, hcurly'⟩ := hx
  have hstep : codeStep a x = some ⟨.code, a⟩ := by
    simp [codeStep, pairs, List.lookup_cons, beq_false_of_ne, *]
  rw [Takes, read_cons, step, hstep]
  exact h a

theorem neutral_of_plain (h : Plain t) : Neutral t := by
  induction t with
  | nil => exact neutral_nil
  | cons x t ih =>
    exact neutral_cons (h x List.mem_cons_self) (ih fun y hy => h y (List.mem_cons_of_mem _ hy))

theorem Neutral.enclosed {x y : Char} (hpair : (x, y) ∈ pairs) (h : Neutral t) :
    Neutral (x :: t ++ [y]) := by
  intro a
  have hopening : ∀ p ∈ pairs, Takes a [p.1] (p.2 :: a) := by
    simp only [pairs, List.forall_mem_cons]
    exact ⟨rfl, rfl, rfl, List.forall_mem_nil _⟩
  have hclosing : ∀ p ∈ pairs, Takes (p.2 :: a) [p.2] a := by
    simp only [pairs, List.forall_mem_cons]
    exact ⟨rfl, rfl, rfl, List.forall_mem_nil _⟩
  exact ((hopening _ hpair).append (h (y :: a))).append (hclosing _ hpair)

theorem neutral_joinWith {sep : Text} {ts : List Text} (hsep : Neutral sep)
    (h : ∀ t ∈ ts, Neutral t) :
    Neutral (Text.joinWith sep ts) := by
  induction ts with
  | nil => exact neutral_nil
  | cons t ts ih =>
    obtain ⟨ht, hts⟩ := List.forall_mem_cons.mp h
    cases ts with
    | nil => rwa [Text.joinWith_singleton]
    | cons t' ts =>
      rw [Text.joinWith_cons_cons]
      exact (ht.append hsep).append (ih hts)

@[simp] theorem read_quotedChar (a : Text) (x : Char) :
    read ⟨.literal, a⟩ (Json.quotedChar x) = some ⟨.literal, a⟩ := by
  rcases Literals.quotedChar_cases x with
    ⟨hquote, hslash, -, hform⟩ | ⟨e, -, -, hform⟩ | ⟨d, d', -, -, hd, hd', hform⟩
  · simp [hform, step, hquote, hslash]
    rfl
  · rw [hform]
    rfl
  · simp only [List.mem_cons, List.not_mem_nil, or_false, not_or] at hd hd'
    simp [hform, step, hd, hd']
    rfl

@[simp] theorem read_escaped (a t : Text) :
    read ⟨.literal, a⟩ (escaped t) = some ⟨.literal, a⟩ := by
  induction t with
  | nil => rfl
  | cons x t ih => rw [Literals.escaped_cons, read_append, read_quotedChar, Option.bind_some, ih]

theorem neutral_quoted (t : Text) : Neutral (Json.quoted t) := by
  intro a
  rw [Takes, Literals.quoted_eq, read_append, read_cons]
  change ((read ⟨.literal, a⟩ (escaped t)).bind fun st => read st ['"']) = _
  rw [read_escaped]
  rfl

theorem neutral_numberText (n : Number) : Neutral (Json.numberText n) :=
  have hother : Plain ['.', '-', '+', 'e'] := by decide
  neutral_of_plain (Json.forall_mem_numberText (fun _ => digit_not_mem_marks) hother n)

theorem neutral_ofNat (n : Nat) : Neutral (Text.ofNat n) :=
  neutral_of_plain (Text.forall_mem_ofNat (fun _ => digit_not_mem_marks) n)

theorem neutral_statusList (codes : List Nat) : Neutral (statusList codes) := by
  refine (neutral_joinWith (neutral_of_plain (by decide)) fun t ht => ?_).enclosed (by decide)
  obtain ⟨n, -, rfl⟩ := List.mem_map.mp ht
  exact neutral_ofNat n

mutual

/-- A value is neutral, however its arrays and objects are nested. -/
theorem neutral_compact : ∀ v : Json, Neutral v.compact
  | .null => neutral_of_plain (by decide)
  | .bool true => neutral_of_plain (by decide)
  | .bool false => neutral_of_plain (by decide)
  | .number n => neutral_numberText n
  | .string s => neutral_quoted s
  | .array items =>
    (neutral_joinWith (neutral_of_plain (by decide)) (neutral_compactItems items)).enclosed
      (by decide)
  | .object members =>
    (neutral_joinWith (neutral_of_plain (by decide)) (neutral_compactMembers members)).enclosed
      (by decide)

theorem neutral_compactItems : ∀ vs : List Json, ∀ t ∈ Json.compactItems vs, Neutral t
  | [] => List.forall_mem_nil _
  | v :: vs => List.forall_mem_cons.mpr ⟨neutral_compact v, neutral_compactItems vs⟩

theorem neutral_compactMembers : ∀ ms : List (Text × Json), ∀ t ∈ Json.compactMembers ms, Neutral t
  | [] => List.forall_mem_nil _
  | (k, v) :: ms => List.forall_mem_cons.mpr
    ⟨(neutral_quoted k).append (neutral_cons (by decide) (neutral_compact v)),
      neutral_compactMembers ms⟩

end

theorem read_comment (h : '\n' ∉ t) (a : Text) : read ⟨.comment, a⟩ t = some ⟨.comment, a⟩ := by
  induction t with
  | nil => rfl
  | cons x t ih =>
    rw [List.mem_cons, not_or] at h
    rw [read_cons, step, if_neg (Ne.symm h.1)]
    exact ih h.2

theorem takes_comment (h : '\n' ∉ t) (a : Text) : Takes a ('/' :: '/' :: t ++ ['\n']) a := by
  change read ⟨.comment, a⟩ (t ++ ['\n']) = _
  rw [read_append, read_comment h]
  rfl

end Brackets
end TestBench
