import TestBench.Json.Reader
import TestBench.Proofs.Except
import TestBench.Proofs.Json.Lookup

/-! What a text can stand for: values whose objects are maps and whose arrays and objects are nested
up to a limit. -/
namespace TestBench
namespace Json

/-- All objects are maps, and arrays and objects are nested up to a depth. -/
inductive Within : Nat → Json → Prop
  | null (depth : Nat) : Within depth .null
  | bool (depth : Nat) (b : Bool) : Within depth (.bool b)
  | number (depth : Nat) (n : Number) : Within depth (.number n)
  | string (depth : Nat) (s : Text) : Within depth (.string s)
  | array {depth : Nat} {vs : List Json} (items : ∀ v ∈ vs, Within depth v) :
      Within (depth + 1) (.array vs)
  | object {depth : Nat} {ms : List (Text × Json)} (keys : (keys ms).Pairwise (· < ·))
      (values : ∀ m ∈ ms, Within depth m.2) : Within (depth + 1) (.object ms)

theorem Within.ofMembers {depth : Nat} {ms : List (Text × Json)} (h : ∀ m ∈ ms, Within depth m.2) :
    Within (depth + 1) (.ofMembers ms) :=
  .object (sorted_sortMembers ms) (forall_mem_sortMembers h)

@[simp] theorem sortedItems_eq (vs : List Json) : sortedItems vs = vs.map sorted := by
  induction vs with
  | nil => rfl
  | cons v vs ih => rw [sortedItems, ih, List.map_cons]

@[simp] theorem sortedMembers_eq (ms : List (Text × Json)) :
    sortedMembers ms = ms.map fun m => (m.1, m.2.sorted) := by
  induction ms with
  | nil => rfl
  | cons m ms ih => rw [sortedMembers, ih, List.map_cons]

theorem sorted_eq_self {depth : Nat} {v : Json} (h : Within depth v) : v.sorted = v := by
  induction h with
  | null | bool | number | string => rfl
  | array _ ih =>
    rw [sorted, sortedItems_eq, List.map_congr_left ih, List.map_id']
  | @object depth ms hkeys _ ih =>
    have hsame : ms.map (fun m => (m.1, m.2.sorted)) = ms :=
      (List.map_congr_left fun m hm => by rw [ih m hm, id]).trans (List.map_id ms)
    rw [sorted, sortedMembers_eq, hsame, ofMembers, sortMembers_eq_self hkeys]

theorem within_sorted_array {depth : Nat} {vs : List Json} (h : ∀ v ∈ vs, Within depth v.sorted) :
    Within (depth + 1) (sorted (.array vs)) := by
  rw [sorted, sortedItems_eq]
  exact .array (List.forall_mem_map.mpr h)

theorem within_sorted_object {depth : Nat} {ms : List (Text × Json)}
    (h : ∀ m ∈ ms, Within depth m.2.sorted) :
    Within (depth + 1) (sorted (.object ms)) := by
  rw [sorted, sortedMembers_eq]
  exact .ofMembers (List.forall_mem_map.mpr h)

/-- What is read with some fuel stays within the depth that is allowed. -/
structure ReadsWithin (fuel : Nat) : Prop where
  value : ∀ depth t v r, readValue fuel depth t = .ok (v, r) → Within depth v.sorted
  items : ∀ depth t vs r, readItems fuel depth t = .ok (vs, r) → ∀ v ∈ vs, Within depth v.sorted
  members : ∀ depth t ms r, readMembers fuel depth t = .ok (ms, r) →
    ∀ m ∈ ms, Within depth m.2.sorted

section
variable {fuel depth : Nat} {t r : Text} (ih : ReadsWithin fuel)
include ih

theorem within_of_readValue {v : Json} (h : readValue (fuel + 1) depth t = .ok (v, r)) :
    Within depth v.sorted := by
  rw [readValue] at h
  split at h
  · cases h
  · obtain ⟨p, -, hp⟩ := eq_ok_of_map h
    cases hp
    exact .string ..
  · split at h
    · cases h
    · split at h
      · cases h
        exact within_sorted_array (by simp)
      · obtain ⟨p, hread, hp⟩ := eq_ok_of_map h
        cases hp
        exact within_sorted_array (ih.items _ _ _ _ hread)
  · split at h
    · cases h
    · split at h
      · cases h
        exact within_sorted_object (by simp)
      · obtain ⟨p, hread, hp⟩ := eq_ok_of_map h
        cases hp
        exact within_sorted_object (ih.members _ _ _ _ hread)
  · obtain ⟨p, -, hp⟩ := eq_ok_of_map h
    cases hp
    exact .null _
  · obtain ⟨p, -, hp⟩ := eq_ok_of_map h
    cases hp
    exact .bool ..
  · obtain ⟨p, -, hp⟩ := eq_ok_of_map h
    cases hp
    exact .bool ..
  · obtain ⟨p, -, hp⟩ := eq_ok_of_map h
    cases hp
    exact .number ..

theorem within_of_readItems {vs : List Json} (h : readItems (fuel + 1) depth t = .ok (vs, r)) :
    ∀ v ∈ vs, Within depth v.sorted := by
  rw [readItems] at h
  obtain ⟨⟨v, t'⟩, hread, h⟩ := eq_ok_of_bind h
  have hv := ih.value _ _ _ _ hread
  dsimp only at h
  split at h
  · cases h
    simpa using hv
  · obtain ⟨⟨vs', r'⟩, hrest, h⟩ := eq_ok_of_bind h
    cases h
    exact List.forall_mem_cons.mpr ⟨hv, ih.items _ _ _ _ hrest⟩
  · cases h

theorem within_of_readMembers {ms : List (Text × Json)}
    (h : readMembers (fuel + 1) depth t = .ok (ms, r)) :
    ∀ m ∈ ms, Within depth m.2.sorted := by
  rw [readMembers] at h
  split at h
  · obtain ⟨⟨k, t'⟩, -, h⟩ := eq_ok_of_bind h
    dsimp only at h
    split at h
    · obtain ⟨⟨v, t''⟩, hread, h⟩ := eq_ok_of_bind h
      have hv := ih.value _ _ _ _ hread
      dsimp only at h
      split at h
      · cases h
        simpa using hv
      · obtain ⟨⟨ms', r'⟩, hrest, h⟩ := eq_ok_of_bind h
        cases h
        exact List.forall_mem_cons.mpr ⟨hv, ih.members _ _ _ _ hrest⟩
      · cases h
    · cases h
  · cases h

end

theorem readsWithin (fuel : Nat) : ReadsWithin fuel := by
  induction fuel with
  | zero =>
    exact ⟨fun _ _ _ _ h => (nomatch h), fun _ _ _ _ h => (nomatch h), fun _ _ _ _ h => nomatch h⟩
  | succ fuel ih =>
    exact ⟨fun _ _ _ _ => within_of_readValue ih, fun _ _ _ _ => within_of_readItems ih,
      fun _ _ _ _ => within_of_readMembers ih⟩

theorem within_of_parse {t : Text} {v : Json} (h : parse t = .ok v) : Within depthLimit v := by
  obtain ⟨w, hread, rfl⟩ := eq_ok_of_map h
  obtain ⟨⟨u, r⟩, hvalue, hend⟩ := eq_ok_of_bind hread
  dsimp only at hend
  split at hend
  · cases hend
    exact (readsWithin _).value _ _ _ _ hvalue
  · cases hend

end Json
end TestBench
