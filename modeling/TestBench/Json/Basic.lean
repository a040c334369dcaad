import TestBench.Decimal.Binary64
import TestBench.Text.Basic

/-! JSON values. A number is an integer of 64 bits or a binary64 number; the members of an object
are listed in the order in which they are written, and `sorted` turns them into a map: one member
for each key, in the order of the keys, the last one written. -/
namespace TestBench

/-- The integers that fit 64 bits, with or without a sign. -/
def FitsInteger (i : Int) : Prop := -9223372036854775808 ≤ i ∧ i ≤ 18446744073709551615

instance (i : Int) : Decidable (FitsInteger i) := inferInstanceAs (Decidable (_ ∧ _))

/-- A number of a JSON value; `1` and `1.0` are different ones. -/
inductive Number where
  | integer (value : Int) (fits : FitsInteger value)
  | real (value : Binary64)
deriving DecidableEq

namespace Number

/-- A natural number, or the greatest one of 64 bits. -/
def ofNat (n : Nat) : Number :=
  .integer (min n 18446744073709551615) (by unfold FitsInteger; omega)

def ofUInt64 (n : UInt64) : Number :=
  .integer n.toNat (by have := n.toNat_lt; unfold FitsInteger; omega)

def toUInt64? : Number → Option UInt64
  | .integer i _ => if 0 ≤ i then some (UInt64.ofNat i.toNat) else none
  | .real _ => none

/-- The number as a binary64 number, rounded if need be; no integer of 64 bits is out of range. -/
def toBinary64? : Number → Option Binary64
  | .integer i _ => Binary64.ofRatio? (i < 0) i.natAbs 1
  | .real x => some x

end Number

/-- A JSON value. -/
inductive Json where
  | null
  | bool (value : Bool)
  | number (value : Number)
  | string (value : Text)
  | array (items : List Json)
  | object (members : List (Text × Json))

namespace Json

instance : Inhabited Json := ⟨null⟩

/-- Puts a member into members in key order; a member of the same key gives way. -/
def putMember (key : Text) (value : Json) : List (Text × Json) → List (Text × Json)
  | [] => [(key, value)]
  | (k, v) :: rest =>
    if key = k then (key, value) :: rest
    else if Text.before key k then (key, value) :: (k, v) :: rest
    else (k, v) :: putMember key value rest

/-- The map that the members describe when the last one of a key counts. -/
def sortMembers (members : List (Text × Json)) : List (Text × Json) :=
  members.foldl (fun sorted m => putMember m.1 m.2 sorted) []

def ofMembers (members : List (Text × Json)) : Json := object (sortMembers members)

mutual

def sorted : Json → Json
  | array items => array (sortedItems items)
  | object members => ofMembers (sortedMembers members)
  | v => v

def sortedItems : List Json → List Json
  | [] => []
  | v :: vs => sorted v :: sortedItems vs

def sortedMembers : List (Text × Json) → List (Text × Json)
  | [] => []
  | (k, v) :: ms => (k, sorted v) :: sortedMembers ms

end

def members? : Json → Option (List (Text × Json))
  | object ms => some ms
  | _ => none

def items? : Json → Option (List Json)
  | array vs => some vs
  | _ => none

def text? : Json → Option Text
  | string s => some s
  | _ => none

def isNull : Json → Bool
  | null => true
  | _ => false

def get? (key : Text) : Json → Option Json
  | object ms => ms.lookup key
  | _ => none

def textAt? (key : Text) (v : Json) : Option Text := (get? key v).bind text?

def itemsAt? (key : Text) (v : Json) : Option (List Json) := (get? key v).bind items?

def firstText? (keys : List Text) (v : Json) : Option Text := keys.findSome? (textAt? · v)

def toUInt64? : Json → Option UInt64
  | number n => n.toUInt64?
  | _ => none

def ofOption (encode : α → Json) : Option α → Json
  | none => null
  | some a => encode a

end Json
end TestBench
