import TestBench.Json.Record
import TestBench.Scenario.Draft

/-! The JSON forms of checks and drafts, and reading them back without any validation. -/
namespace TestBench

/-- The members that are there, in order. -/
def presentMembers (ms : List (String × Option Json)) : List (Text × Json) :=
  ms.filterMap fun (k, v) => v.map fun v => (k.toList, v)

def Json.ofUInt64 (n : UInt64) : Json := .number (.ofUInt64 n)

def Json.ofNat (n : Nat) : Json := .number (.ofNat n)

namespace Mode

def toJson (m : Mode) : Json := .string m.name

def ofJson? (v : Json) : Option Mode := v.enumName?.bind ofName?

end Mode

namespace StepKind

def ofJson? (v : Json) : Option StepKind := v.enumName?.bind ofName?

end StepKind

namespace Step

def members : Step → List (Text × Json)
  | goto path => presentMembers [("path", some (.string path))]
  | click selector | expectVisible selector | expectHidden selector =>
    presentMembers [("selector", some (.string selector))]
  | fill selector value | expectTextContains selector value =>
    presentMembers [("selector", some (.string selector)), ("value", some (.string value))]
  | press selector key =>
    presentMembers [("selector", some (.string selector)), ("key", some (.string key))]
  | waitFor selector ms =>
    presentMembers [("selector", selector.map .string), ("ms", ms.map .ofUInt64)]
  | expectUrlContains value | expectTitleContains value =>
    presentMembers [("value", some (.string value))]

/-- A step is an object with its kind as the type; absent fields are left out. -/
def toJson (s : Step) : Json :=
  .ofMembers (("type".toList, .string s.kind.name) :: s.members)

def fieldNames : StepKind → List Text
  | .goto => ["path".toList]
  | .click | .expectVisible | .expectHidden => ["selector".toList]
  | .fill | .expectTextContains => ["selector".toList, "value".toList]
  | .press => ["selector".toList, "key".toList]
  | .waitFor => ["selector".toList, "ms".toList]
  | .expectUrlContains | .expectTitleContains => ["value".toList]

def ofRecord? (kind : StepKind) (r : Json.Record) : Option Step := do
  let text (name : String) : Option Text := r.required name.toList Json.text?
  match kind with
  | .goto => return .goto (← text "path")
  | .click => return .click (← text "selector")
  | .fill => return .fill (← text "selector") (← text "value")
  | .press => return .press (← text "selector") (← text "key")
  | .waitFor =>
    return .waitFor (← r.spare "selector".toList Json.text?) (← r.spare "ms".toList Json.toUInt64?)
  | .expectVisible => return .expectVisible (← text "selector")
  | .expectHidden => return .expectHidden (← text "selector")
  | .expectTextContains => return .expectTextContains (← text "selector") (← text "value")
  | .expectUrlContains => return .expectUrlContains (← text "value")
  | .expectTitleContains => return .expectTitleContains (← text "value")

/-- A step from its JSON form, or from an array of its kind and fields. -/
def ofJson? : Json → Option Step
  | .array (tag :: fields) => do
    let kind ← tag.text?.bind StepKind.ofName?
    ofRecord? kind (← Json.Record.ofJson? (fieldNames kind) (.array fields))
  | v => do
    let kind ← (v.textAt? "type".toList).bind StepKind.ofName?
    ofRecord? kind (← Json.Record.ofJson? (fieldNames kind) v)

end Step

namespace Scenario

def toJson (s : Scenario) : Json :=
  .ofMembers [("name".toList, .string s.name), ("startPath".toList, .string s.startPath),
    ("steps".toList, .array (s.steps.map Step.toJson))]

def ofJson? (v : Json) : Option Scenario := do
  let r ← Json.Record.ofJson? ["name".toList, "startPath".toList, "steps".toList] v
  let name ← r.required "name".toList Json.text?
  let startPath ← r.required "startPath".toList Json.text?
  let steps ← r.required "steps".toList (Json.listOf? Step.ofJson?)
  return { name, startPath, steps }

end Scenario

namespace Request

def toJson (r : Request) : Json :=
  .ofMembers [("method".toList, .string r.method.name), ("path".toList, .string r.path),
    ("body".toList, r.body.getD .null)]

def ofJson? (v : Json) : Option Request := do
  let r ← Json.Record.ofJson? ["method".toList, "path".toList, "body".toList] v
  let method ← r.required "method".toList fun v => v.enumName?.bind Method.ofName?
  let path ← r.required "path".toList Json.text?
  let body ← r.spare "body".toList some
  return { method, path, body }

end Request

namespace Headers

def toJson (h : Headers) : Json := .ofMembers (h.map fun (k, v) => (k, .string v))

def ofJson? (v : Json) : Option Headers :=
  v.members?.bind fun ms => ms.mapM fun (k, v) => v.text?.map (k, ·)

end Headers

namespace CheckSet

/-- A list of scenarios, or the requests with their headers. -/
def toJson : CheckSet → Json
  | api suite =>
    .ofMembers [("requests".toList, .array (suite.requests.map Request.toJson)),
      ("headers".toList, Headers.toJson suite.headers)]
  | ui scenarios => .array (scenarios.map Scenario.toJson)

end CheckSet

namespace Draft

/-- The fields of a draft that are filled in, in declared order. -/
def toJson (d : Draft) : Json :=
  .object (presentMembers [("type", some (.string d.kind.name)),
    ("selector", d.selector.map .string),
    ("value", d.value.map .string), ("key", d.key.map .string), ("path", d.path.map .string),
    ("ms", d.ms.map .ofUInt64)])

def fieldNames : List Text :=
  ["type".toList, "selector".toList, "value".toList, "key".toList, "path".toList, "ms".toList]

def ofJson? (v : Json) : Option Draft := do
  let r ← Json.Record.ofJson? fieldNames v
  let kind ← r.required "type".toList StepKind.ofJson?
  let selector ← r.spare "selector".toList Json.text?
  let value ← r.spare "value".toList Json.text?
  let key ← r.spare "key".toList Json.text?
  let path ← r.spare "path".toList Json.text?
  let ms ← r.spare "ms".toList Json.toUInt64?
  return { kind, selector, value, key, path, ms }

def repeatsField : Json → Bool
  | .object ms => fieldNames.any fun k => 1 < (ms.filter fun m => m.1 = k).length
  | _ => false

/-- A draft from a value with its members as written: no field may be written twice. -/
def ofWritten? (v : Json) : Option Draft := if repeatsField v then none else ofJson? v.sorted

end Draft
end TestBench
