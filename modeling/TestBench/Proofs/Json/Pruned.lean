import TestBench.Proofs.Json.Nesting

/-! Values without the members that are null. What is left is looked up as before, and a member that
was null is no longer there. -/
namespace TestBench
namespace Json

mutual

/-- The value without the members that are null, at every depth; items of arrays stay. -/
def pruned : Json → Json
  | array items => array (prunedItems items)
  | object members => object (prunedMembers members)
  | v => v

def prunedItems : List Json → List Json
  | [] => []
  | v :: vs => pruned v :: prunedItems vs

def prunedMembers : List (Text × Json) → List (Text × Json)
  | [] => []
  | (k, v) :: ms => if v.isNull then prunedMembers ms else (k, pruned v) :: prunedMembers ms

end

@[simp] theorem prunedItems_eq (vs : List Json) : prunedItems vs = vs.map pruned := by
  induction vs with
  | nil => rfl
  | cons v vs ih => rw [prunedItems, ih, List.map_cons]

@[simp] theorem prunedMembers_eq (ms : List (Text × Json)) :
    prunedMembers ms = (ms.filter fun m => !m.2.isNull).map fun m => (m.1, m.2.pruned) := by
  induction ms with
  | nil => rfl
  | cons m ms ih =>
    obtain ⟨k, v⟩ := m
    rw [prunedMembers, ih]
    cases hv : v.isNull <;> simp [hv]

@[simp] theorem isNull_pruned (v : Json) : v.pruned.isNull = v.isNull := by cases v <;> rfl

@[simp] theorem text?_pruned (v : Json) : v.pruned.text? = v.text? := by cases v <;> rfl

@[simp] theorem toUInt64?_pruned (v : Json) : v.pruned.toUInt64? = v.toUInt64? := by cases v <;> rfl

@[simp] theorem items?_pruned (v : Json) : v.pruned.items? = v.items?.map (List.map pruned) := by
  cases v with
  | array vs => rw [pruned, prunedItems_eq]; rfl
  | _ => rfl

/-- All objects of a value are maps: each key stands there once, in order. -/
def Mapped (v : Json) : Prop := ∃ depth, Within depth v

theorem inherited_mapped : Inherited Mapped where
  item := by
    rintro vs w ⟨_, h⟩ hw
    cases h with
    | array hitems => exact ⟨_, hitems w hw⟩
  member := by
    rintro ms m ⟨_, h⟩ hm
    cases h with
    | object _ hvalues => exact ⟨_, hvalues m hm⟩

theorem Mapped.keys_nodup {ms : List (Text × Json)} (h : (object ms).Mapped) : (keys ms).Nodup := by
  obtain ⟨_, h⟩ := h
  cases h with
  | object hkeys _ => exact hkeys.imp ne_of_lt

/-- In a map no second member comes up when the first one of a key is left out. -/
theorem lookup_filter_null {ms : List (Text × Json)} (h : (keys ms).Nodup) (k : Text) :
    (ms.filter fun m => !m.2.isNull).lookup k = (ms.lookup k).filter fun v => !v.isNull := by
  induction ms with
  | nil => rfl
  | cons m ms ih =>
    obtain ⟨hfirst, hrest⟩ := List.nodup_cons.mp h
    rw [lookup_cons_eq]
    cases hnull : m.2.isNull with
    | false =>
      rw [List.filter_cons_of_pos (by simp [hnull]), lookup_cons_eq, ih hrest]
      split
      · simp [Option.filter, hnull]
      · rfl
    | true =>
      rw [List.filter_cons_of_neg (by simp [hnull]), ih hrest]
      split
      · next hk =>
        have hnone : ms.lookup k = none := by
          rw [List.lookup_eq_none_iff]
          intro m' hm'
          have hne : k ≠ m'.1 := fun heq => hfirst (hk ▸ heq ▸ List.mem_map_of_mem hm')
          simpa using hne
        simp [hnone, Option.filter, hnull]
      · rfl

def prunedMember (o : Option Json) : Option Json := (o.filter fun v => !v.isNull).map pruned

theorem get?_pruned {v : Json} (h : v.Mapped) (k : Text) :
    v.pruned.get? k = prunedMember (v.get? k) := by
  cases v with
  | object ms =>
    rw [pruned, get?, prunedMembers_eq, lookup_map_values, lookup_filter_null h.keys_nodup]
    rfl
  | _ => rfl

@[simp] theorem prunedMember_none : prunedMember none = none := rfl

@[simp] theorem prunedMember_null : prunedMember (some .null) = none := rfl

@[simp] theorem prunedMember_some {v : Json} (h : v.isNull = false) :
    prunedMember (some v) = some v.pruned := by
  simp [prunedMember, h]

/-- What makes nothing of null and does not look for null inside of a value does not see that
members are left out. -/
theorem bind_prunedMember {f g : Json → Option α} (hnull : f .null = none)
    (h : ∀ v, g v.pruned = f v) (o : Option Json) : (prunedMember o).bind g = o.bind f := by
  cases o with
  | none => rfl
  | some v =>
    cases hv : v.isNull with
    | false => rw [prunedMember_some hv, Option.bind_some, Option.bind_some, h]
    | true =>
      cases v with
      | null => rw [prunedMember_null, Option.bind_none, Option.bind_some, hnull]
      | _ => cases hv

theorem textAt?_pruned {v : Json} (h : v.Mapped) (k : Text) : v.pruned.textAt? k = v.textAt? k := by
  rw [textAt?, get?_pruned h, bind_prunedMember rfl text?_pruned]
  rfl

theorem firstText?_pruned {v : Json} (h : v.Mapped) (keys : List Text) :
    v.pruned.firstText? keys = v.firstText? keys := by
  rw [firstText?, funext (textAt?_pruned h)]
  rfl

theorem itemsAt?_pruned {v : Json} (h : v.Mapped) (k : Text) :
    v.pruned.itemsAt? k = (v.itemsAt? k).map (List.map pruned) := by
  rw [itemsAt?, get?_pruned h,
    bind_prunedMember (f := fun v => v.items?.map (List.map pruned)) rfl items?_pruned, itemsAt?,
    Option.map_bind]
  rfl

end Json
end TestBench
