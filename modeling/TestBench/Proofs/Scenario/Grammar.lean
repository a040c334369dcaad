import TestBench.Proofs.Text.Trim
import TestBench.Scenario.Validate

/-! The grammar of raw scenarios: which values are accepted, what they stand for, and what is said
about those that are not. The checks of a value stand in a fixed order, and the first one that fails
is reported. -/
namespace TestBench

namespace Json

/-- What is given under a key; null counts as not given. -/
def given? (key : Text) (v : Json) : Option Json := (v.get? key).filter fun m => !m.isNull

def IsObject (v : Json) : Prop := ∃ ms, v = .object ms

def IsText (m : Option Json) : Prop := ∃ s, m = some (.string s)

/-- A text that is not all white space. -/
def IsNonBlank (m : Option Json) : Prop := ∃ s, m = some (.string s) ∧ Text.isBlankText s = false

/-- An integer from zero up to the greatest one of 64 bits. -/
def IsTime (m : Option Json) : Prop :=
  ∃ i fits, m = some (.number (.integer i fits)) ∧ 0 ≤ i ∧ i ≤ 18446744073709551615

/-- A text stands for itself without the white space around it. -/
def StandsFor (m : Option Json) (t : Text) : Prop := ∃ s, m = some (.string s) ∧ t = Text.trim s

end Json

open Json (IsObject IsText IsNonBlank IsTime StandsFor)

namespace Field

/-- The fields in the order in which they are looked at. -/
def order : List Field := [.key, .ms, .path, .selector, .value]

/-- Not given, or of the right kind. -/
def Fits (v : Json) : Field → Prop
  | .ms => v.given? Field.ms.name = none ∨ IsTime (v.given? Field.ms.name)
  | f => v.given? f.name = none ∨ IsText (v.given? f.name)

/-- What is said about a field that holds a value of the wrong kind. -/
def complaint : Field → Json → Text
  | .ms, .number (.integer i h) =>
    "invalid value: ".toList ++ Json.description (.number (.integer i h)) ++ ", expected u64".toList
  | .ms, m => "invalid type: ".toList ++ m.description ++ ", expected u64".toList
  | _, m => "invalid type: ".toList ++ m.description ++ ", expected a string".toList

end Field

/-- What a kind of step needs. -/
inductive Need where
  | nonBlank (f : Field)
  | text (f : Field)
  | selectorOrTime

def StepKind.needs : StepKind → List Need
  | .goto => [.nonBlank .path]
  | .click | .expectVisible | .expectHidden => [.nonBlank .selector]
  | .fill | .expectTextContains => [.nonBlank .selector, .text .value]
  | .press => [.nonBlank .selector, .nonBlank .key]
  | .waitFor => [.selectorOrTime]
  | .expectUrlContains | .expectTitleContains => [.text .value]

namespace Need

def Met (v : Json) : Need → Prop
  | nonBlank f => IsNonBlank (v.given? f.name)
  | text f => IsText (v.given? f.name)
  | selectorOrTime => IsNonBlank (v.given? Field.selector.name) ∨ IsTime (v.given? Field.ms.name)

def complaint : Need → Text
  | nonBlank f | text f => "missing required field '".toList ++ f.name ++ "'".toList
  | selectorOrTime => "requires 'selector' or 'ms'".toList

end Need

namespace Step

/-- The type of a step is known, its fields are of the right kinds, and what its type needs is
there. -/
def WellFormed (v : Json) : Prop :=
  v.IsObject ∧ ∃ kind : StepKind, v.get? "type".toList = some (.string kind.name) ∧
    (∀ f : Field, f.Fits v) ∧
    ∀ need ∈ kind.needs, need.Met v

/-- The fields of a step are those of a raw one, trimmed except for values. -/
def FieldsOf (v : Json) : Step → Prop
  | goto path => StandsFor (v.given? Field.path.name) path
  | click selector | expectVisible selector | expectHidden selector =>
    StandsFor (v.given? Field.selector.name) selector
  | fill selector value | expectTextContains selector value =>
    StandsFor (v.given? Field.selector.name) selector ∧
      v.given? Field.value.name = some (.string value)
  | press selector key =>
    StandsFor (v.given? Field.selector.name) selector ∧ StandsFor (v.given? Field.key.name) key
  | waitFor selector ms =>
    (∀ t, selector = some t ↔ IsNonBlank (v.given? Field.selector.name) ∧
      StandsFor (v.given? Field.selector.name) t) ∧
      ∀ n, ms = some n ↔ v.given? Field.ms.name = some (.number (.ofUInt64 n))
  | expectUrlContains value | expectTitleContains value =>
    v.given? Field.value.name = some (.string value)

/-- What a raw step stands for: a step of its type with its fields, as far as that type has them. -/
def ReadAs (v : Json) (s : Step) : Prop :=
  v.get? "type".toList = some (.string s.kind.name) ∧ s.FieldsOf v

/-- The first check that a raw step fails, and what is said about it. -/
inductive Violation (v : Json) : Text → Prop
  | notObject (h : ¬ v.IsObject) : Violation v "step must be an object".toList
  | noType (h : v.IsObject) (htype : ¬ IsText (v.get? "type".toList)) :
      Violation v "missing 'type'".toList
  | unsupported {type : Text} (htype : v.get? "type".toList = some (.string type))
      (hkind : ∀ kind : StepKind, kind.name ≠ type) :
      Violation v ("unsupported step type '".toList ++ type ++ "'".toList)
  | badField {kind : StepKind} {before after : List Field} {f : Field} {m : Json}
      (htype : v.get? "type".toList = some (.string kind.name))
        (horder : Field.order = before ++ f :: after)
      (hbefore : ∀ g ∈ before, g.Fits v) (hf : ¬ f.Fits v) (hm : v.given? f.name = some m) :
      Violation v ("invalid field: ".toList ++ f.complaint m)
  | missing {kind : StepKind} {before after : List Need} {need : Need}
      (htype : v.get? "type".toList = some (.string kind.name)) (hfields : ∀ f : Field, f.Fits v)
      (hneeds : kind.needs = before ++ need :: after) (hbefore : ∀ n ∈ before, n.Met v)
        (hneed : ¬ need.Met v) :
      Violation v need.complaint

end Step

namespace Scenario

/-- The name is a text that is not blank, so is the start page if it is given, and the steps are a
list if given. -/
structure WellFormed (v : Json) : Prop where
  object : v.IsObject
  name : IsNonBlank (v.get? "name".toList)
  start : v.given? "startPath".toList = none ∨ IsNonBlank (v.given? "startPath".toList)
  steps : v.given? "steps".toList = none ∨
    ∃ raw, v.given? "steps".toList = some (.array raw) ∧ ∀ s ∈ raw, Step.WellFormed s

/-- What a raw scenario stands for: one step for each raw step, in order. -/
structure ReadAs (v : Json) (s : Scenario) : Prop where
  name : StandsFor (v.get? "name".toList) s.name
  start : (v.given? "startPath".toList = none ∧ s.startPath = "/".toList) ∨
    StandsFor (v.given? "startPath".toList) s.startPath
  steps : (v.given? "steps".toList = none ∧ s.steps = []) ∨
    ∃ raw, v.given? "steps".toList = some (.array raw) ∧ List.Forall₂ Step.ReadAs raw s.steps

/-- How a step is named in a message: by its number, and by its type if that is a text. -/
def stepLabel (index : Nat) (s : Json) : Text :=
  " step ".toList ++ Text.ofNat index ++
    match s.get? "type".toList with
    | some (.string type) => " (".toList ++ type ++ ")".toList
    | _ => []

/-- The first check that the raw scenario of a number fails, and what is said about it. -/
inductive Violation (index : Nat) (v : Json) : Text → Prop
  | notObject (h : ¬ v.IsObject) :
      Violation index v ("Scenario ".toList ++ Text.ofNat index ++ ": must be an object".toList)
  | noName (h : v.IsObject) (hname : ¬ IsNonBlank (v.get? "name".toList)) :
      Violation index v ("Scenario ".toList ++ Text.ofNat index ++
        ": 'name' must be a non-empty string".toList)
  | badStart {name : Text} (hblank : IsNonBlank (v.get? "name".toList))
      (hname : StandsFor (v.get? "name".toList) name)
      (hstart : ¬ (v.given? "startPath".toList = none ∨ IsNonBlank (v.given? "startPath".toList))) :
      Violation index v ("Scenario '".toList ++ name ++
        "': 'startPath' must be a non-empty string".toList)
  | badSteps {name : Text} (hblank : IsNonBlank (v.get? "name".toList))
      (hname : StandsFor (v.get? "name".toList) name)
      (hstart : v.given? "startPath".toList = none ∨ IsNonBlank (v.given? "startPath".toList))
      (hsteps : ¬ (v.given? "steps".toList = none ∨
        ∃ raw, v.given? "steps".toList = some (.array raw))) :
      Violation index v ("Scenario '".toList ++ name ++ "': 'steps' must be an array".toList)
  | badStep {name reason : Text} {before after : List Json} {s : Json}
      (hblank : IsNonBlank (v.get? "name".toList)) (hname : StandsFor (v.get? "name".toList) name)
      (hstart : v.given? "startPath".toList = none ∨ IsNonBlank (v.given? "startPath".toList))
      (hsteps : v.given? "steps".toList = some (.array (before ++ s :: after)))
      (hbefore : ∀ r ∈ before, Step.WellFormed r) (hs : ¬ Step.WellFormed s)
        (hreason : Step.Violation s reason) :
      Violation index v ("Scenario '".toList ++ name ++ "'".toList ++
        stepLabel (before.length + 1) s ++
        ": ".toList ++ reason)

end Scenario
end TestBench
