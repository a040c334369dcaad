import TestBench.Json.Basic

/-! Records read from JSON values. A record is an object, whose unknown members are ignored, or an
array of the field values in their declared order. A field may have to be given, may be null
instead of absent, or may have a default; only the last kind may be left out of an array. -/
namespace TestBench
namespace Json

/-- The fields of a record as they were given. -/
inductive Record where
  | named (members : List (Text × Json))
  | positional (fields : List (Text × Json))

namespace Record

def ofJson? (names : List Text) : Json → Option Record
  | object ms => some (named ms)
  | array vs => if vs.length ≤ names.length then some (positional (names.zip vs)) else none
  | _ => none

def isNamed : Record → Bool
  | named _ => true
  | positional _ => false

def value? : Record → Text → Option Json
  | named ms, key => ms.lookup key
  | positional fs, key => fs.lookup key

variable {α : Type}

def required (r : Record) (key : Text) (decode : Json → Option α) : Option α :=
  (r.value? key).bind decode

def withDefault (r : Record) (key : Text) (default : α) (decode : Json → Option α) : Option α :=
  match r.value? key with
  | none => some default
  | some v => decode v

/-- Null, or a value of the given kind. -/
def nullable (decode : Json → Option α) : Json → Option (Option α)
  | null => some none
  | v => (decode v).map some

/-- A field that may be null, and absent where fields are named. -/
def optional (r : Record) (key : Text) (decode : Json → Option α) : Option (Option α) :=
  match r.value? key with
  | none => if r.isNamed then some none else none
  | some v => nullable decode v

def spare (r : Record) (key : Text) (decode : Json → Option α) : Option (Option α) :=
  r.withDefault key none (nullable decode)

end Record

/-- The name of an enumeration's member: a text, or an object with null under the name alone. -/
def enumName? : Json → Option Text
  | string s => some s
  | object [(k, null)] => some k
  | _ => none

/-- The items of an array, all of one kind. -/
def listOf? (decode : Json → Option α) (v : Json) : Option (List α) :=
  (items? v).bind fun vs => vs.mapM decode

def bool? : Json → Option Bool
  | bool b => some b
  | _ => none

def intIn? (low high : Int) : Json → Option Int
  | number (.integer i _) => if low ≤ i ∧ i ≤ high then some i else none
  | _ => none

end Json
end TestBench
