import TestBench.Json.Basic

/-! What is checked: API requests with common headers, or browser scenarios made of steps. Every
kind of step carries exactly the fields that it needs. -/
namespace TestBench

/-- Which kind of check is made. -/
inductive Mode where
  | api
  | ui
deriving DecidableEq, Repr

namespace Mode

def name : Mode → Text
  | api => "api".toList
  | ui => "ui".toList

def ofName? (t : Text) : Option Mode := [api, ui].find? fun m => m.name = t

end Mode

/-- The verbs of API requests. -/
inductive Method where
  | get
  | post
  | put
  | patch
  | delete
deriving DecidableEq, Repr

namespace Method

def all : List Method := [get, post, put, patch, delete]

def name : Method → Text
  | get => "GET".toList
  | post => "POST".toList
  | put => "PUT".toList
  | patch => "PATCH".toList
  | delete => "DELETE".toList

def ofName? (t : Text) : Option Method := all.find? fun m => m.name = t

def carriesBody : Method → Bool
  | post | put | patch => true
  | get | delete => false

@[simp] theorem ofName?_name (m : Method) : ofName? m.name = some m := by cases m <;> decide

theorem name_injective : Function.Injective name := fun a b h => by
  simpa using congrArg ofName? h

end Method

/-- An API request to check. -/
structure Request where
  method : Method
  path : Text
  body : Option Json

/-- Header names with their values, in the order of the names. -/
abbrev Headers := List (Text × Text)

structure ApiSuite where
  requests : List Request
  headers : Headers

/-- The kinds of browser steps. -/
inductive StepKind where
  | goto
  | click
  | fill
  | press
  | waitFor
  | expectVisible
  | expectHidden
  | expectTextContains
  | expectUrlContains
  | expectTitleContains
deriving DecidableEq, Repr

namespace StepKind

def all : List StepKind :=
  [goto, click, fill, press, waitFor, expectVisible, expectHidden, expectTextContains,
    expectUrlContains, expectTitleContains]

def name : StepKind → Text
  | goto => "goto".toList
  | click => "click".toList
  | fill => "fill".toList
  | press => "press".toList
  | waitFor => "waitFor".toList
  | expectVisible => "expectVisible".toList
  | expectHidden => "expectHidden".toList
  | expectTextContains => "expectTextContains".toList
  | expectUrlContains => "expectUrlContains".toList
  | expectTitleContains => "expectTitleContains".toList

def ofName? (t : Text) : Option StepKind := all.find? fun k => k.name = t

theorem mem_all (k : StepKind) : k ∈ all := by cases k <;> decide

@[simp] theorem ofName?_name (k : StepKind) : ofName? k.name = some k := by cases k <;> decide

theorem name_injective : Function.Injective name := fun a b h => by
  simpa using congrArg ofName? h

end StepKind

/-- A browser step. Waiting is for a time if one is given, otherwise for a selector to be
visible. -/
inductive Step where
  | goto (path : Text)
  | click (selector : Text)
  | fill (selector value : Text)
  | press (selector key : Text)
  | waitFor (selector : Option Text) (ms : Option UInt64)
  | expectVisible (selector : Text)
  | expectHidden (selector : Text)
  | expectTextContains (selector value : Text)
  | expectUrlContains (value : Text)
  | expectTitleContains (value : Text)
deriving DecidableEq

def Step.kind : Step → StepKind
  | goto .. => .goto
  | click .. => .click
  | fill .. => .fill
  | press .. => .press
  | waitFor .. => .waitFor
  | expectVisible .. => .expectVisible
  | expectHidden .. => .expectHidden
  | expectTextContains .. => .expectTextContains
  | expectUrlContains .. => .expectUrlContains
  | expectTitleContains .. => .expectTitleContains

/-- A named browser scenario: steps in order, begun on a start page. -/
structure Scenario where
  name : Text
  startPath : Text
  steps : List Step
deriving DecidableEq

/-- The checks of one run. -/
inductive CheckSet where
  | api (suite : ApiSuite)
  | ui (scenarios : List Scenario)

def CheckSet.mode : CheckSet → Mode
  | api _ => .api
  | ui _ => .ui

end TestBench
