import TestBench.Json.Printer
import TestBench.Scenario.Address
import TestBench.Scenario.Draft
import TestBench.Text.Capital
import TestBench.Text.Visible

/-! Validation of raw JSON input. Requests and scenarios are accepted as a whole or refused with the
first fault, which names the request, or the scenario with the number and the type of its step. -/
namespace TestBench

/-- Elements turned one by one, with their numbers from `n` on, up to the first fault. -/
def mapNumbered (f : Nat → α → Except ε β) : (n : Nat) → List α → Except ε (List β)
  | _, [] => .ok []
  | n, a :: as => do
    let b ← f n a
    return b :: (← mapNumbered f (n + 1) as)

/-- What is wrong with a list of requests or with headers. -/
inductive RequestFault where
  | notList
  | notObject (index : Nat)
  | badMethod (index : Nat) (method path : Text)
  | emptyPath (index : Nat)
  | noEndpoints
  | headersNotObject
  | badHeader (name : Text)
deriving DecidableEq

namespace RequestFault

def numbered (index : Nat) (rest : Text) : Text :=
  "Request ".toList ++ Text.ofNat index ++ ": ".toList ++ rest

def message : RequestFault → Text
  | notList => "requests must be a non-empty array".toList
  | notObject i => numbered i "each request item must be an object".toList
  | badMethod i method path =>
    numbered i ("invalid method '".toList ++ method ++ "' for path '".toList ++ path ++ "'".toList)
  | emptyPath i => numbered i "each request must have a non-empty 'path'".toList
  | noEndpoints => "No valid endpoints provided".toList
  | headersNotObject => "headers must be an object (key/value)".toList
  | badHeader name => "header '".toList ++ name ++ "' must be a string value".toList

end RequestFault

namespace Request

/-- The path of a request item: a text is trimmed, any other value but null is taken as JSON. -/
def rawPath : Option Json → Text
  | none | some .null => []
  | some (.string s) => Text.trim s
  | some v => v.compact

/-- The verb of a request item in capital letters, GET if there is none. -/
def rawMethod : Option Json → Text
  | none | some .null => "GET".toList
  | some (.string s) => Text.toUpper (Text.trim s)
  | some v => Text.toUpper v.compact

/-- The request of an item; a bad verb is reported before an empty path. -/
def validate (index : Nat) (item : Json) : Except RequestFault Request :=
  match item with
  | .object ms =>
    let path := rawPath (ms.lookup "path".toList)
    let verb := rawMethod (ms.lookup "method".toList)
    match Method.ofName? verb with
    | none => .error (.badMethod index verb path)
    | some method =>
      if path.isEmpty then .error (.emptyPath index)
      else .ok ⟨method, Address.normalizePath path,
        (ms.lookup "body".toList).filter fun v => !v.isNull⟩
  | _ => .error (.notObject index)

def validateAll : Json → Except RequestFault (List Request)
  | .array (item :: items) => mapNumbered validate 1 (item :: items)
  | _ => .error .notList

def ofEndpoints (list : Text) : Except RequestFault (List Request) :=
  match (Text.pieces ',' list).filterMap Text.trimmed? with
  | [] => .error .noEndpoints
  | paths => .ok (paths.map fun p => ⟨.get, Address.normalizePath p, none⟩)

end Request

namespace Headers

/-- The text of a header's value; numbers and truth values are taken as JSON. -/
def valueText? : Json → Option Text
  | .string s => some s
  | .number n => some (Json.compact (.number n))
  | .bool b => some (Json.compact (.bool b))
  | _ => none

/-- Headers of a raw object, none for null. -/
def validate : Json → Except RequestFault Headers
  | .null => .ok []
  | .object ms => ms.mapM fun (name, v) =>
    match valueText? v with
    | some t => .ok (name, t)
    | none => .error (.badHeader name)
  | _ => .error .headersNotObject

end Headers

/-- A field of the wrong kind: what stands there, or a number out of range. -/
inductive FieldFault where
  | wrongType (found : Text) (wanted : Text)
  | wrongValue (found : Text) (wanted : Text)
deriving DecidableEq

def FieldFault.message : FieldFault → Text
  | wrongType found wanted =>
    "invalid type: ".toList ++ found ++ ", expected ".toList ++ wanted
  | wrongValue found wanted =>
    "invalid value: ".toList ++ found ++ ", expected ".toList ++ wanted

/-- What is wrong with a step. -/
inductive StepFault where
  | notObject
  | noType
  | unsupported (kind : Text)
  | badField (fault : FieldFault)
  | draft (fault : DraftFault)
deriving DecidableEq

def StepFault.message : StepFault → Text
  | notObject => "step must be an object".toList
  | noType => "missing 'type'".toList
  | unsupported t => "unsupported step type '".toList ++ t ++ "'".toList
  | badField f => "invalid field: ".toList ++ f.message
  | draft f => f.message

/-- What is wrong with a list of scenarios; a step is named with its type if it has one. -/
inductive ScenarioFault where
  | notList
  | notObject (index : Nat)
  | noName (index : Nat)
  | badStart (name : Text)
  | badSteps (name : Text)
  | badStep (name : Text) (index : Nat) (type : Option Text) (fault : StepFault)
deriving DecidableEq

namespace ScenarioFault

def ofScenario (name rest : Text) : Text :=
  "Scenario '".toList ++ name ++ "'".toList ++ rest

def message : ScenarioFault → Text
  | notList => "uiSpec must be a non-empty array".toList
  | notObject i => "Scenario ".toList ++ Text.ofNat i ++ ": must be an object".toList
  | noName i =>
    "Scenario ".toList ++ Text.ofNat i ++ ": 'name' must be a non-empty string".toList
  | badStart name => ofScenario name ": 'startPath' must be a non-empty string".toList
  | badSteps name => ofScenario name ": 'steps' must be an array".toList
  | badStep name i none fault =>
    ofScenario name (" step ".toList ++ Text.ofNat i ++ ": ".toList ++ fault.message)
  | badStep name i (some t) fault =>
    ofScenario name (" step ".toList ++ Text.ofNat i ++ " (".toList ++ t ++ "): ".toList ++
      fault.message)

end ScenarioFault

/-- A JSON value described by its kind, scalars with their text. -/
def Json.description : Json → Text
  | .null => "null".toList
  | .bool b => "boolean \x60".toList ++ Json.compact (.bool b) ++ "\x60".toList
  | .number (.integer i h) =>
    "integer \x60".toList ++ Json.compact (.number (.integer i h)) ++ "\x60".toList
  | .number (.real x) =>
    "floating point \x60".toList ++ Json.compact (.number (.real x)) ++ "\x60".toList
  | .string s => "string ".toList ++ Text.visible s
  | .array _ => "sequence".toList
  | .object _ => "map".toList

namespace Step

/-- A text field of a raw step: absent, null or a text. -/
def textField (ms : List (Text × Json)) (f : Field) : Except FieldFault (Option Text) :=
  match ms.lookup f.name with
  | none | some .null => .ok none
  | some (.string s) => .ok (some s)
  | some v => .error (.wrongType v.description "a string".toList)

/-- The time field of a raw step: absent, null or an unsigned integer. -/
def timeField (ms : List (Text × Json)) : Except FieldFault (Option UInt64) :=
  match ms.lookup Field.ms.name with
  | none | some .null => .ok none
  | some (.number (.integer i h)) =>
    match Number.toUInt64? (.integer i h) with
    | some n => .ok (some n)
    | none => .error (.wrongValue (Json.description (.number (.integer i h))) "u64".toList)
  | some v => .error (.wrongType v.description "u64".toList)

/-- The draft of a raw step; of several wrong fields the first in the order of names is reported. -/
def draftOf (kind : StepKind) (ms : List (Text × Json)) : Except FieldFault Draft := do
  let key ← textField ms .key
  let time ← timeField ms
  let path ← textField ms .path
  let selector ← textField ms .selector
  let value ← textField ms .value
  return ⟨kind, selector, value, key, path, time⟩

def validate (v : Json) : Except StepFault Step :=
  match v with
  | .object ms =>
    match (ms.lookup "type".toList).bind Json.text? with
    | none => .error .noType
    | some name =>
      match StepKind.ofName? name with
      | none => .error (.unsupported name)
      | some kind =>
        match draftOf kind ms with
        | .error f => .error (.badField f)
        | .ok d => d.toStep.mapError .draft
  | _ => .error .notObject

end Step

namespace Scenario

/-- The trimmed name of a raw scenario, unless it is blank or no text. -/
def validName? (v : Option Json) : Option Text := (v.bind Json.text?).bind Text.trimmed?

/-- The start page of a raw scenario, the root if it is absent or null. -/
def validStart? : Option Json → Option Text
  | none | some .null => some ['/']
  | some (.string s) => Text.trimmed? s
  | some _ => none

/-- The raw steps of a scenario, none if they are absent or null. -/
def rawSteps? : Option Json → Option (List Json)
  | none | some .null => some []
  | some (.array vs) => some vs
  | some _ => none

def validate (index : Nat) (v : Json) : Except ScenarioFault Scenario :=
  match v with
  | .object ms => do
    let some name := validName? (ms.lookup "name".toList) | .error (.noName index)
    let some startPath := validStart? (ms.lookup "startPath".toList) | .error (.badStart name)
    let some raw := rawSteps? (ms.lookup "steps".toList) | .error (.badSteps name)
    let steps ← mapNumbered (fun i s =>
      (Step.validate s).mapError (.badStep name i (s.textAt? "type".toList))) 1 raw
    return { name, startPath, steps }
  | _ => .error (.notObject index)

def validateAll : Json → Except ScenarioFault (List Scenario)
  | .array (v :: vs) => mapNumbered validate 1 (v :: vs)
  | _ => .error .notList

end Scenario
end TestBench
