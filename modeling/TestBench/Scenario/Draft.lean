import TestBench.Scenario.Model

/-! Step drafts: a kind of step with whatever fields are filled in so far. A draft becomes a step
when the fields of its kind are there, and it can be rebuilt for another kind. -/
namespace TestBench

structure Draft where
  kind : StepKind
  selector : Option Text
  value : Option Text
  key : Option Text
  path : Option Text
  ms : Option UInt64
deriving DecidableEq

/-- The fields of a draft besides its kind. -/
inductive Field where
  | selector
  | value
  | key
  | path
  | ms
deriving DecidableEq, Repr

def Field.name : Field → Text
  | selector => "selector".toList
  | value => "value".toList
  | key => "key".toList
  | path => "path".toList
  | ms => "ms".toList

/-- What keeps a draft from being a step. -/
inductive DraftFault where
  | missing (field : Field)
  | needsSelectorOrMs
deriving DecidableEq, Repr

def DraftFault.message : DraftFault → Text
  | missing f => "missing required field '".toList ++ f.name ++ "'".toList
  | needsSelectorOrMs => "requires 'selector' or 'ms'".toList

namespace Draft

def empty (kind : StepKind) : Draft := ⟨kind, none, none, none, none, none⟩

/-- A field that has to hold more than white space, trimmed. -/
def requireText (field : Field) (t : Option Text) : Except DraftFault Text :=
  match t.bind Text.trimmed? with
  | some s => .ok s
  | none => .error (.missing field)

/-- A field that has to be there, as it is. -/
def requireGiven (field : Field) (t : Option Text) : Except DraftFault Text :=
  match t with
  | some s => .ok s
  | none => .error (.missing field)

/-- The step of a draft, with its unused fields dropped. -/
def toStep (d : Draft) : Except DraftFault Step :=
  match d.kind with
  | .goto => return .goto (← requireText .path d.path)
  | .click => return .click (← requireText .selector d.selector)
  | .expectVisible => return .expectVisible (← requireText .selector d.selector)
  | .expectHidden => return .expectHidden (← requireText .selector d.selector)
  | .fill => do
    let selector ← requireText .selector d.selector
    return .fill selector (← requireGiven .value d.value)
  | .press => do
    let selector ← requireText .selector d.selector
    return .press selector (← requireText .key d.key)
  | .waitFor =>
    match d.selector.bind Text.trimmed?, d.ms with
    | none, none => .error .needsSelectorOrMs
    | selector, ms => .ok (.waitFor selector ms)
  | .expectTextContains => do
    let selector ← requireText .selector d.selector
    return .expectTextContains selector (← requireGiven .value d.value)
  | .expectUrlContains => return .expectUrlContains (← requireGiven .value d.value)
  | .expectTitleContains => return .expectTitleContains (← requireGiven .value d.value)

/-- The given text, or a fixed one. -/
def orDefault (t : Option Text) (default : String) : Option Text := some (t.getD default.toList)

/-- The draft rebuilt for a kind: the fields of that kind are kept or get a default, all others are
dropped. -/
def retype (d : Draft) (kind : StepKind) : Draft :=
  let next := empty kind
  match kind with
  | .goto => { next with path := orDefault d.path "/" }
  | .click | .expectVisible | .expectHidden =>
    { next with selector := orDefault d.selector "text=Some text" }
  | .fill =>
    { next with selector := orDefault d.selector "input", value := orDefault d.value "" }
  | .press =>
    { next with selector := orDefault d.selector "input", key := orDefault d.key "Enter" }
  | .waitFor =>
    { next with selector := d.selector, ms :=
      if d.selector.isSome then d.ms else some (d.ms.getD 800) }
  | .expectTextContains =>
    { next with selector := orDefault d.selector "body", value := orDefault d.value "" }
  | .expectUrlContains => { next with value := orDefault d.value "/" }
  | .expectTitleContains => { next with value := orDefault d.value "" }

@[simp] theorem kind_retype (d : Draft) (k : StepKind) : (d.retype k).kind = k := by
  cases k <;> rfl

end Draft
end TestBench
