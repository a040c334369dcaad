import TestBench.Proofs.Json.NumberText
import TestBench.Proofs.Program.Literals

/-! JSON values as expressions of a program: their literals are their keys and strings, in order. -/
namespace TestBench
namespace Json

mutual

/-- The keys and strings of a value, in the order in which they are written. -/
def texts : Json → List Text
  | null | bool _ | number _ => []
  | string s => [s]
  | array items => textsOfItems items
  | object members => textsOfMembers members

def textsOfItems : List Json → List Text
  | [] => []
  | v :: vs => texts v ++ textsOfItems vs

def textsOfMembers : List (Text × Json) → List Text
  | [] => []
  | (k, v) :: ms => k :: texts v ++ textsOfMembers ms

end

mutual

def blanked : Json → Json
  | null => null
  | bool b => bool b
  | number n => number n
  | string _ => string []
  | array items => array (blankedItems items)
  | object members => object (blankedMembers members)

def blankedItems : List Json → List Json
  | [] => []
  | v :: vs => blanked v :: blankedItems vs

def blankedMembers : List (Text × Json) → List (Text × Json)
  | [] => []
  | (_, v) :: ms => ([], blanked v) :: blankedMembers ms

end

theorem length_compactItems_blanked (vs : List Json) :
    (compactItems vs).length = (compactItems (blankedItems vs)).length := by
  induction vs with
  | nil => rfl
  | cons v vs ih => simp [compactItems, blankedItems, ih]

theorem length_compactMembers_blanked (ms : List (Text × Json)) :
    (compactMembers ms).length = (compactMembers (blankedMembers ms)).length := by
  induction ms with
  | nil => rfl
  | cons m ms ih => simp [compactMembers, blankedMembers, ih]

end Json

namespace Literals

theorem reads_numberText (n : Number) : Reads (Json.numberText n) (Json.numberText n) [] :=
  reads_of_no_quote (Json.not_mem_numberText rfl (by simp) n)

mutual

theorem reads_compact : ∀ v : Json, Reads v.compact v.blanked.compact (v.texts.map escaped)
  | .null => reads_of_no_quote (by decide)
  | .bool true => reads_of_no_quote (by decide)
  | .bool false => reads_of_no_quote (by decide)
  | .number n => reads_numberText n
  | .string s => reads_quoted s
  | .array items => ((reads_compactItems items).cons (by decide)).concat (by decide)
  | .object members => ((reads_compactMembers members).cons (by decide)).concat (by decide)

theorem reads_compactItems : ∀ vs : List Json,
    Reads (Text.joinWith [','] (Json.compactItems vs))
      (Text.joinWith [','] (Json.compactItems (Json.blankedItems vs)))
      ((Json.textsOfItems vs).map escaped)
  | [] => reads_of_no_quote (by decide)
  | v :: vs => by
    rw [Json.textsOfItems, List.map_append]
    exact reads_joinWith_cons (reads_compact v) (reads_compactItems vs)
      (Json.length_compactItems_blanked vs)

theorem reads_compactMembers : ∀ ms : List (Text × Json),
    Reads (Text.joinWith [','] (Json.compactMembers ms))
      (Text.joinWith [','] (Json.compactMembers (Json.blankedMembers ms)))
      ((Json.textsOfMembers ms).map escaped)
  | [] => reads_of_no_quote (by decide)
  | (k, v) :: ms => by
    have hmember := (reads_quoted k).append ((reads_compact v).cons (c := ':') (by decide))
    rw [Json.textsOfMembers, List.map_append, List.map_cons]
    exact reads_joinWith_cons hmember (reads_compactMembers ms)
      (Json.length_compactMembers_blanked ms)

end

end Literals
end TestBench
