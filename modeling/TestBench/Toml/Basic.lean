import TestBench.Decimal.Binary64
import TestBench.Text.Basic

/-! TOML documents as trees of tables. How a table came to be is kept while a document is built,
since it decides what may still be added: a table has one header at most, and what stands in braces
is closed. -/
namespace TestBench

/-- What made a table: its own header, a longer header, a dotted key, or braces. -/
inductive TableOrigin where
  | header
  | implied
  | dotted
  | braces
deriving DecidableEq, Repr

/-- A TOML value; a real number is none if it is infinite or no number at all. -/
inductive Toml where
  | string (value : Text)
  | integer (value : Int)
  | real (value : Option Binary64)
  | bool (value : Bool)
  | moment (written : Text)
  | array (items : List Toml)
  | tables (items : List (List (Text × Toml)))
  | table (origin : TableOrigin) (members : List (Text × Toml))

namespace Toml

abbrev Members := List (Text × Toml)

/-- A member in place of the one of the same key, or at the end. -/
def putMember (key : Text) (value : Toml) : Members → Members
  | [] => [(key, value)]
  | (k, v) :: ms => if k = key then (k, value) :: ms else (k, v) :: putMember key value ms

def changeLast (f : Members → Option Members) : List Members → Option (List Members)
  | [] => none
  | [ms] => (f ms).map fun ms => [ms]
  | ms :: rest => (changeLast f rest).map fun rest => ms :: rest

/-- A value under a dotted key. Tables that are missing on the way are made; the value itself may
only be added to the table in which the key is written, or to one that dotted keys made. -/
def insert (mayEnd : Bool) : (keys : List Text) → Toml → Members → Option Members
  | [], _, _ => none
  | [key], v, ms =>
    if mayEnd && (ms.lookup key).isNone then some (ms ++ [(key, v)]) else none
  | key :: keys, v, ms => do
    let value ← match ms.lookup key with
      | none => (insert true keys v []).map (.table .dotted)
      | some (.table .dotted sub) => (insert true keys v sub).map (.table .dotted)
      | some (.table .implied sub) => (insert false keys v sub).map (.table .implied)
      | some (.tables items) => (changeLast (insert false keys v) items).map .tables
      | some _ => none
    return putMember key value ms

/-- The change of what stands under the keys of a header; tables that are missing on the way are
implied, and of several tables the last one is meant. -/
def atHeader (f : Option Toml → Option Toml) : (keys : List Text) → Members → Option Members
  | [], _ => none
  | [key], ms => (f (ms.lookup key)).map fun v => putMember key v ms
  | key :: keys, ms => do
    let value ← match ms.lookup key with
      | none => (atHeader f keys []).map (.table .implied)
      | some (.table .braces _) => none
      | some (.table origin sub) => (atHeader f keys sub).map (.table origin)
      | some (.tables items) => (changeLast (atHeader f keys) items).map .tables
      | some _ => none
    return putMember key value ms

/-- The lines under one header: a table, or one more of several tables. -/
structure Section where
  repeated : Bool
  keys : List Text
  pairs : List (List Text × Toml)

def insertAll (pairs : List (List Text × Toml)) (ms : Members) : Option Members :=
  pairs.foldlM (fun ms p => insert true p.1 p.2 ms) ms

def Section.extend (s : Section) (v : Option Toml) : Option Toml :=
  match s.repeated, v with
  | false, none => (insertAll s.pairs []).map (.table .header)
  | false, some (.table .implied ms) => (insertAll s.pairs ms).map (.table .header)
  | true, none => (insertAll s.pairs []).map fun ms => .tables [ms]
  | true, some (.tables items) => (insertAll s.pairs []).map fun ms => .tables (items ++ [ms])
  | _, some _ => none

/-- The root table of a document: the pairs before the first header, then the sections. -/
def build (pairs : List (List Text × Toml)) (sections : List Section) : Option Members := do
  sections.foldlM (fun ms s => atHeader s.extend s.keys ms) (← insertAll pairs [])

/-- The fields of a record: a table, whose unknown members do not matter, or an array of the values
in declared order. A moment stands for a table without any of the fields. -/
def fields? (names : List Text) : Toml → Option Members
  | table _ ms => some ms
  | array vs => some (names.zip vs)
  | tables items => some (names.zip (items.map (.table .header)))
  | moment _ => some []
  | _ => none

/-- A field of a record, or a default for its absence. -/
def field (ms : Members) (key : String) (default : α) (decode : Toml → Option α) : Option α :=
  match ms.lookup key.toList with
  | none => some default
  | some v => decode v

def text? : Toml → Option Text
  | string s => some s
  | _ => none

def bool? : Toml → Option Bool
  | bool b => some b
  | _ => none

def natUpTo? (limit : Nat) : Toml → Option Nat
  | integer i => if 0 ≤ i ∧ i ≤ limit then some i.toNat else none
  | _ => none

def texts? : Toml → Option (List Text)
  | array vs => vs.mapM text?
  | _ => none

/-- A table with nothing but texts. -/
def textMembers? : Toml → Option (List (Text × Text))
  | table _ ms => ms.mapM fun (k, v) => (text? v).map (k, ·)
  | _ => none

end Toml
end TestBench
