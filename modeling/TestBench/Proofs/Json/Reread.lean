import TestBench.Proofs.Json.ReadBack
import TestBench.Proofs.Json.ReadReal
import TestBench.Proofs.Text.Lines

/-! Values that are printed and read again. All of a value comes back but its binary64 numbers: each
of them is read as some number, which is the same one or not. -/
namespace TestBench

namespace Number

/-- The number that is read from the text of a number. -/
def reread (n : Number) : Number :=
  match Json.readNumber (Json.numberText n) with
  | .ok (m, _) => m
  | .error _ => n

@[simp] theorem readNumber_numberText (n : Number) :
    Json.readNumber (Json.numberText n) = .ok (n.reread, []) := by
  have hread : ∃ m, Json.readNumber (Json.numberText n) = .ok (m, []) := by
    cases n with
    | integer i h => exact ⟨_, Json.readNumber_ofInt i h⟩
    | real x => exact (Json.exists_readNumber_toText x).imp' Number.real fun _ => id
  obtain ⟨m, hm⟩ := hread
  rw [reread, hm]

@[simp] theorem reread_integer (i : Int) (h : FitsInteger i) :
    reread (.integer i h) = .integer i h := by
  rw [reread, Json.numberText, Json.readNumber_ofInt]

end Number

namespace Json

@[simp] theorem mapNumbersOfItems_eq (f : Number → Number) (vs : List Json) :
    mapNumbersOfItems f vs = vs.map (mapNumbers f) := by
  induction vs with
  | nil => rfl
  | cons v vs ih => rw [mapNumbersOfItems, ih, List.map_cons]

@[simp] theorem mapNumbersOfMembers_eq (f : Number → Number) (ms : List (Text × Json)) :
    mapNumbersOfMembers f ms = ms.map fun m => (m.1, m.2.mapNumbers f) := by
  induction ms with
  | nil => rfl
  | cons m ms ih => rw [mapNumbersOfMembers, ih, List.map_cons]

mutual

/-- All numbers of a value, in the order in which they are written. -/
def numbers : Json → List Number
  | number n => [n]
  | array items => numbersOfItems items
  | object members => numbersOfMembers members
  | _ => []

def numbersOfItems : List Json → List Number
  | [] => []
  | v :: vs => numbers v ++ numbersOfItems vs

def numbersOfMembers : List (Text × Json) → List Number
  | [] => []
  | (_, v) :: ms => numbers v ++ numbersOfMembers ms

end

@[simp] theorem numbersOfItems_eq (vs : List Json) : numbersOfItems vs = vs.flatMap numbers := by
  induction vs with
  | nil => rfl
  | cons v vs ih => rw [numbersOfItems, ih, List.flatMap_cons]

@[simp] theorem numbersOfMembers_eq (ms : List (Text × Json)) :
    numbersOfMembers ms = ms.flatMap fun m => m.2.numbers := by
  induction ms with
  | nil => rfl
  | cons m ms ih => rw [numbersOfMembers, ih, List.flatMap_cons]

@[simp] theorem forall_numbers_array {p : Number → Prop} {vs : List Json} :
    (∀ n ∈ (array vs).numbers, p n) ↔ ∀ v ∈ vs, ∀ n ∈ v.numbers, p n := by
  rw [numbers, numbersOfItems_eq]
  simp only [List.mem_flatMap]
  exact ⟨fun h v hv n hn => h n ⟨v, hv, hn⟩, fun h n ⟨v, hv, hn⟩ => h v hv n hn⟩

@[simp] theorem forall_numbers_object {p : Number → Prop} {ms : List (Text × Json)} :
    (∀ n ∈ (object ms).numbers, p n) ↔ ∀ m ∈ ms, ∀ n ∈ m.2.numbers, p n := by
  rw [numbers, numbersOfMembers_eq]
  simp only [List.mem_flatMap]
  exact ⟨fun h m hm n hn => h n ⟨m, hm, hn⟩, fun h n ⟨m, hm, hn⟩ => h m hm n hn⟩

theorem forall_numbers_ofMembers {p : Number → Prop} {ms : List (Text × Json)}
    (h : ∀ m ∈ ms, ∀ n ∈ m.2.numbers, p n) :
    ∀ n ∈ (ofMembers ms).numbers, p n :=
  forall_numbers_object.mpr (forall_mem_sortMembers (p := fun v => ∀ n ∈ v.numbers, p n) h)

/-- A value is left as it is if all of its numbers are. -/
theorem mapNumbers_eq_self {f : Number → Number} {depth : Nat} {v : Json} (hv : Within depth v)
    (h : ∀ n ∈ v.numbers, f n = n) : v.mapNumbers f = v := by
  induction hv with
  | null | bool | string => rfl
  | number _ n => rw [mapNumbers, h n List.mem_cons_self]
  | array _ ih =>
    rw [forall_numbers_array] at h
    rw [mapNumbers, mapNumbersOfItems_eq, List.map_congr_left fun v hv => ih v hv (h v hv),
      List.map_id']
  | @object depth ms _ _ ih =>
    rw [forall_numbers_object] at h
    have hsame : ms.map (fun m => (m.1, m.2.mapNumbers f)) = ms :=
      (List.map_congr_left fun m hm => by rw [ih m hm (h m hm), id]).trans (List.map_id ms)
    rw [mapNumbers, mapNumbersOfMembers_eq, hsame]

/-- No number of a value changes when its text is read. -/
def Stable (v : Json) : Prop := ∀ n ∈ v.numbers, n.reread = n

theorem stable_of_reals {v : Json}
    (h : ∀ x, .real x ∈ v.numbers → (Number.real x).reread = .real x) : Stable v := by
  intro n hn
  cases n with
  | integer i hi => exact Number.reread_integer i hi
  | real x => exact h x hn

theorem within_mapNumbers (f : Number → Number) {depth : Nat} {v : Json} (h : Within depth v) :
    Within depth (v.mapNumbers f) := by
  induction h with
  | null | bool | number | string => constructor
  | array _ ih =>
    rw [mapNumbers, mapNumbersOfItems_eq]
    exact .array (List.forall_mem_map.mpr ih)
  | @object depth ms hkeys _ ih =>
    rw [mapNumbers, mapNumbersOfMembers_eq]
    refine .object ?_ (List.forall_mem_map.mpr ih)
    rw [keys, List.map_map]
    exact hkeys

/-- The indented text of a value is the text of a value that differs in its numbers only. -/
theorem parse_indented {v : Json} (h : Within depthLimit v) (k : Nat) :
    parse (indented k v) = .ok (v.mapNumbers Number.reread) := by
  have hvalue : readValue (2 * (indented k v).length + 2) depthLimit (indented k v) =
      .ok (v.mapNumbers Number.reread, []) := by
    have hread : readValue (2 * (indented k v).length + 2) depthLimit (indented k v ++ []) =
        .ok (v.mapNumbers Number.reread, []) :=
      readValue_indented Number.readNumber_numberText v h (fun _ hc => nomatch hc) (by omega)
    rwa [List.append_nil] at hread
  have hread : read depthLimit (indented k v) = .ok (v.mapNumbers Number.reread) := by
    rw [read, hvalue]
    rfl
  rw [parse, hread, Except.map, sorted_eq_self (within_mapNumbers _ h)]

theorem isInfix_bracketed (opening closing : Char) (depth : Nat) {t : Text} {parts : List Text}
    (h : t ∈ parts) :
    t <:+: bracketed opening closing depth parts := by
  have hform := bracketed_append opening closing depth (List.ne_nil_of_mem h) []
  rw [List.append_nil] at hform
  rw [hform, ← List.cons_append, ← List.append_assoc]
  exact (Text.isInfix_joinWith h).trans (List.infix_append _ _ _)

theorem indentedMembers_eq (depth : Nat) (ms : List (Text × Json)) :
    indentedMembers depth ms = ms.map fun m => quoted m.1 ++ ": ".toList ++ indented depth m.2 := by
  induction ms with
  | nil => rfl
  | cons m ms ih => rw [indentedMembers, ih, List.map_cons]

theorem isInfix_indented {ms : List (Text × Json)} {k : Text} {v : Json} (h : (k, v) ∈ ms)
    (depth : Nat) :
    quoted k ++ ": ".toList ++ indented (depth + 1) v <:+: indented depth (.object ms) := by
  rw [indented, indentedMembers_eq]
  exact isInfix_bracketed _ _ _ (List.mem_map_of_mem h)

end Json
end TestBench
