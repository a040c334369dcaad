import TestBench.Text.Basic

/-! Arguments as options, flags and positional words. An option takes its value after an equals sign
or from the next argument, which may then not look like another option; nothing is given twice. -/
namespace TestBench

/-- Why arguments are not carried out. -/
inductive Refusal where
  | usage
  | help
  | version
deriving DecidableEq, Repr

/-- An option or a flag with all its long names, the first of which identifies it. -/
structure OptionForm where
  names : List Text
  takesValue : Bool := true
  /-- Whether the value may begin with a hyphen. -/
  hyphens : Bool := false

def OptionForm.key (f : OptionForm) : Text := f.names.headD []

/-- What arguments give: the values of options, and the words besides. -/
structure Given where
  values : List (Text × Text) := []
  words : List Text := []
deriving DecidableEq

namespace Given

def has (g : Given) (key : String) : Bool := (g.values.lookup key.toList).isSome

def value? (g : Given) (key : String) : Option Text := g.values.lookup key.toList

/-- One more value, unless there is one already. -/
def add (g : Given) (key value : Text) : Except Refusal Given :=
  if (g.values.lookup key).isSome then .error .usage
  else .ok { g with values := (key, value) :: g.values }

end Given

namespace Arguments

def formOf? (forms : List OptionForm) (name : Text) : Option OptionForm :=
  forms.find? fun f => f.names.contains name

/-- Whether an argument is an option, or the end of options; a single hyphen is a word. -/
def isOption (a : Text) : Bool := a.head? = some '-' && a ≠ ['-']

/-- What an argument is: the end of options, an option with its value, an option whose value comes
next, or a word. -/
inductive Part where
  | ending
  | value (form : OptionForm) (text : Text)
  | pending (form : OptionForm)
  | word (text : Text)

/-- The part that an argument is; single letters are flags. -/
def partOf (forms : List OptionForm) (a : Text) : Except Refusal Part :=
  match a with
  | '-' :: '-' :: [] => .ok .ending
  | '-' :: '-' :: name =>
    let (name, attached) := match Text.splitOnce? '=' name with
      | some (n, v) => (n, some v)
      | none => (name, none)
    match formOf? forms name, attached with
    | none, none => .error (if name = "help".toList then .help else .usage)
    | none, some _ => .error .usage
    | some f, some v => if f.takesValue then .ok (.value f v) else .error .usage
    | some f, none => .ok (if f.takesValue then .pending f else .value f [])
  | ['-', c] =>
    match formOf? forms [c] with
    | some f => .ok (.value f [])
    | none => .error (if c = 'h' then .help else .usage)
  | '-' :: c :: t => .error (if (c :: t).all (· = 'h') then .help else .usage)
  | a => .ok (.word a)

def collect (forms : List OptionForm) : List Text → Given → Except Refusal Given
  | [], g => .ok g
  | [a], g => do
    match ← partOf forms a with
    | .ending => return g
    | .value f v => g.add f.key v
    | .pending _ => .error .usage
    | .word w => return { g with words := g.words ++ [w] }
  | a :: b :: rest, g => do
    match ← partOf forms a with
    | .ending => return { g with words := g.words ++ b :: rest }
    | .value f v => collect forms (b :: rest) (← g.add f.key v)
    | .pending f =>
      if isOption b && !f.hyphens then .error .usage
      else collect forms rest (← g.add f.key b)
    | .word w => collect forms (b :: rest) { g with words := g.words ++ [w] }

/-- The options before the first word, that word, and the arguments after it. -/
def untilWord (forms : List OptionForm) :
    List Text → Given → Except Refusal (Given × Option (Text × List Text))
  | [], g => .ok (g, none)
  | [a], g => do
    match ← partOf forms a with
    | .ending => return (g, none)
    | .value f v => return (← g.add f.key v, none)
    | .pending _ => .error .usage
    | .word w => return (g, some (w, []))
  | a :: b :: rest, g => do
    match ← partOf forms a with
    | .ending => .error .usage
    | .value f v => untilWord forms (b :: rest) (← g.add f.key v)
    | .pending f =>
      if isOption b && !f.hyphens then .error .usage
      else untilWord forms rest (← g.add f.key b)
    | .word w => return (g, some (w, b :: rest))

/-- An integer in decimal digits with a sign, in a range. -/
def intIn? (low high : Int) (t : Text) : Option Int := do
  let (negative, ds) := match t with
    | '-' :: t => (true, t)
    | '+' :: t => (false, t)
    | t => (false, t)
  let n ← Text.toNat? ds
  let i : Int := if negative then -(n : Int) else n
  if low ≤ i ∧ i ≤ high then some i else none

end Arguments
end TestBench
