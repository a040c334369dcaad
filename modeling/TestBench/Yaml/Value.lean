import TestBench.Json.Basic
import TestBench.Yaml.Node

/-! The JSON values that YAML documents stand for. Plain scalars may be null, truth values or
numbers; everything else is a text, unless its tag says what it has to be. -/
namespace TestBench
namespace Yaml

def isNullWord (t : Text) : Bool :=
  t.isEmpty || ["null".toList, "Null".toList, "NULL".toList, "~".toList].contains t

def bool? (t : Text) : Option Bool :=
  if ["true".toList, "True".toList, "TRUE".toList].contains t then some true
  else if ["false".toList, "False".toList, "FALSE".toList].contains t then some false
  else none

def hasLeadingZero (t : Text) : Bool :=
  let t := match t with
    | '-' :: t | '+' :: t => t
    | t => t
  1 < t.length && t.head? = some '0' && t.all Text.isDigit

def magnitude? : Text → Option Nat
  | '0' :: 'x' :: t => Text.ofDigits? 16 t
  | '0' :: 'o' :: t => Text.ofDigits? 8 t
  | '0' :: 'b' :: t => Text.ofDigits? 2 t
  | t => if hasLeadingZero t then none else Text.toNat? t

/-- The integer that a scalar stands for; those of more than 128 bits are none. -/
def integer? : Text → Option Int
  | '-' :: t => (magnitude? t).bind fun n => if n ≤ 1 <<< 127 then some (-(n : Int)) else none
  | '+' :: t => (magnitude? t).bind fun n => if n < 1 <<< 128 then some n else none
  | t => (magnitude? t).bind fun n => if n < 1 <<< 128 then some n else none

/-- A decimal number that is finite, with digits before or after the point. -/
def decimal? (negative : Bool) (t : Text) : Option Binary64 := do
  let (mantissa, exponent) ← match t.span fun c => c ≠ 'e' && c ≠ 'E' with
    | (m, []) => some (m, (0 : Int))
    | (m, _ :: '-' :: e) => (Text.toNat? e).map fun n => (m, -(n : Int))
    | (m, _ :: '+' :: e) => (Text.toNat? e).map fun n => (m, (n : Int))
    | (m, _ :: e) => (Text.toNat? e).map fun n => (m, (n : Int))
  let (whole, places) := (Text.splitOnce? '.' mantissa).getD (mantissa, [])
  let digits ← Text.toNat? (whole ++ places)
  Binary64.ofDecimal? negative digits (exponent - places.length)

def infinities : List Text := [".inf".toList, ".Inf".toList, ".INF".toList]

def notNumbers : List Text := [".nan".toList, ".NaN".toList, ".NAN".toList]

/-- The real number that a scalar stands for; infinities and what is no number are null. -/
def real? (t : Text) : Option Json :=
  if notNumbers.contains t then some .null
  else match t with
    | '-' :: rest =>
      if infinities.contains rest then some .null
      else (decimal? true rest).map fun x => .number (.real x)
    | '+' :: rest =>
      if infinities.contains rest then some .null
      else (decimal? false rest).map fun x => .number (.real x)
    | t =>
      if infinities.contains t then some .null
      else (decimal? false t).map fun x => .number (.real x)

def ofInteger? (i : Int) : Option Json :=
  if h : FitsInteger i then some (.number (.integer i h)) else none

def ofPlain? (t : Text) : Option Json :=
  if isNullWord t then some .null
  else match bool? t, integer? t with
    | some b, _ => some (.bool b)
    | none, some i => ofInteger? i
    | none, none =>
      if hasLeadingZero t then some (.string t) else some ((real? t).getD (.string t))

/-- The value of a scalar with a tag: the standard ones of four types have to fit, local ones have
no meaning, and every other one makes a text. -/
def ofTagged? (tag t : Text) : Option Json :=
  let type (name : String) : Text := "tag:yaml.org,2002:".toList ++ name.toList
  if tag.head? = some '!' then none
  else if tag = type "bool" then (bool? t).map .bool
  else if tag = type "int" then (integer? t).bind ofInteger?
  else if tag = type "float" then real? t
  else if tag = type "null" then if isNullWord t && !t.isEmpty then some .null else none
  else some (.string t)

def keyText? : Node → Option Text
  | .scalar _ _ t => some t
  | _ => none

def isLocalTag (tag : Option Text) : Bool := tag.any fun t => t.head? = some '!'

mutual

def ofNode? (depth : Nat) : Node → Option Json
  | .scalar (some tag) _ t => ofTagged? tag t
  | .scalar none plain t => if plain then ofPlain? t else some (.string t)
  | .sequence tag items =>
    if isLocalTag tag || depth = 0 then none else (ofItems? (depth - 1) items).map .array
  | .mapping tag pairs =>
    if isLocalTag tag || depth = 0 then none else (ofPairs? (depth - 1) pairs).map Json.ofMembers

def ofItems? (depth : Nat) : List Node → Option (List Json)
  | [] => some []
  | n :: ns => do return (← ofNode? depth n) :: (← ofItems? depth ns)

def ofPairs? (depth : Nat) : List (Node × Node) → Option (List (Text × Json))
  | [] => some []
  | (k, v) :: rest => do return (← keyText? k, ← ofNode? depth v) :: (← ofPairs? depth rest)

end

def depthLimit : Nat := 128

/-- The value of a text; one without a document is null. -/
def parse? (t : Text) : Option Json := do
  match ← document? t with
  | none => return .null
  | some n => ofNode? depthLimit n

end Yaml
end TestBench
