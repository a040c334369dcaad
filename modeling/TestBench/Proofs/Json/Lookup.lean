import TestBench.Proofs.Json.Order

/-! Looking members up. In a map the last member written for a key counts, and a map is known when
all that can be looked up in it is known. -/
namespace TestBench
namespace Json

variable {ms ms' : List (Text × Json)}

theorem lookup_cons_eq (m : Text × Json) (ms : List (Text × Json)) (k : Text) :
    (m :: ms).lookup k = if k = m.1 then some m.2 else ms.lookup k := by
  rw [List.lookup_cons]
  by_cases hk : k = m.1
  · simp [hk]
  · rw [beq_false_of_ne hk, if_neg hk]

theorem mem_of_lookup {k : Text} {v : Json} (h : ms.lookup k = some v) :
    ∃ m ∈ ms, m.2 = v := by
  induction ms with
  | nil => cases h
  | cons m ms ih =>
    rw [lookup_cons_eq] at h
    split at h
    · exact ⟨m, List.mem_cons_self, Option.some.inj h⟩
    · obtain ⟨m', hm', hv⟩ := ih h
      exact ⟨m', List.mem_cons_of_mem _ hm', hv⟩

/-- What holds of a value holds of its items and of its members. -/
structure Inherited (p : Json → Prop) : Prop where
  item : ∀ {vs : List Json} {w : Json}, p (.array vs) → w ∈ vs → p w
  member : ∀ {ms : List (Text × Json)} {m : Text × Json}, p (.object ms) → m ∈ ms → p m.2

namespace Inherited

variable {p : Json → Prop} {v : Json} {k : Text}

theorem get? (hp : Inherited p) (h : p v) : ∀ w ∈ v.get? k, p w := by
  intro w hw
  cases v with
  | object ms =>
    obtain ⟨m, hm, rfl⟩ := mem_of_lookup hw
    exact hp.member h hm
  | _ => cases hw

theorem items? (hp : Inherited p) (h : p v) : ∀ vs ∈ v.items?, ∀ w ∈ vs, p w := by
  intro vs hvs w hw
  cases v with
  | array items =>
    obtain rfl : items = vs := Option.some.inj hvs
    exact hp.item h hw
  | _ => cases hvs

theorem itemsAt? (hp : Inherited p) (h : p v) : ∀ vs ∈ v.itemsAt? k, ∀ w ∈ vs, p w := by
  intro vs hvs
  obtain ⟨a, ha, hitems⟩ := Option.bind_eq_some_iff.mp hvs
  exact hp.items? (hp.get? h a ha) vs hitems

end Inherited

@[simp] theorem lookup_map_values (f : Json → Json) (ms : List (Text × Json)) (k : Text) :
    (ms.map fun m => (m.1, f m.2)).lookup k = (ms.lookup k).map f := by
  induction ms with
  | nil => rfl
  | cons m ms ih =>
    rw [List.map_cons, lookup_cons_eq, lookup_cons_eq, ih]
    split <;> rfl

theorem lookup_putMember (key : Text) (value : Json) (ms : List (Text × Json)) (k : Text) :
    (putMember key value ms).lookup k = if k = key then some value else ms.lookup k := by
  induction ms with
  | nil => rw [putMember, lookup_cons_eq]
  | cons m ms ih =>
    rw [putMember]
    split
    · next h =>
      rw [lookup_cons_eq, lookup_cons_eq, h]
      by_cases hk : k = m.1 <;> simp [hk]
    · split
      · rw [lookup_cons_eq]
      · next h _ =>
        rw [lookup_cons_eq, lookup_cons_eq, ih]
        by_cases hk : k = key
        · simp [hk, h]
        · simp [hk]

@[simp] theorem lookup_sortMembers (ms : List (Text × Json)) (k : Text) :
    (sortMembers ms).lookup k = ms.reverse.lookup k := by
  induction ms using List.reverseRecOn with
  | nil => rfl
  | append_singleton ms m ih =>
    simp [sortMembers_concat, lookup_putMember, lookup_cons_eq, ih]

theorem lookup_eq_none_of_lt {k : Text} (h : ∀ a ∈ keys ms, k < a) : ms.lookup k = none := by
  rw [List.lookup_eq_none_iff]
  intro m hm
  have hlt := h m.1 (List.mem_map_of_mem hm)
  simpa using ne_of_lt hlt

theorem eq_of_lookup_eq (h : (keys ms).Pairwise (· < ·)) (h' : (keys ms').Pairwise (· < ·))
    (hlookup : ∀ k, ms.lookup k = ms'.lookup k) : ms = ms' := by
  induction ms generalizing ms' with
  | nil =>
    cases ms' with
    | nil => rfl
    | cons m' ms' => simpa [lookup_cons_eq] using hlookup m'.1
  | cons m ms ih =>
    cases ms' with
    | nil => simpa [lookup_cons_eq] using hlookup m.1
    | cons m' ms' =>
      obtain ⟨k, v⟩ := m
      obtain ⟨k', v'⟩ := m'
      obtain ⟨hfirst, hrest⟩ := List.pairwise_cons.mp h
      obtain ⟨hfirst', hrest'⟩ := List.pairwise_cons.mp h'
      -- The least key of either map is a key of the other one.
      have hk : k = k' := by
        rcases lt_trichotomy k k' with hlt | heq | hgt
        · have hnone : ((k', v') :: ms').lookup k = none :=
            lookup_eq_none_of_lt (List.forall_mem_cons.mpr
              ⟨hlt, fun a ha => hlt.trans (hfirst' a ha)⟩)
          simpa [hnone] using hlookup k
        · exact heq
        · have hnone : ((k, v) :: ms).lookup k' = none :=
            lookup_eq_none_of_lt (List.forall_mem_cons.mpr
              ⟨hgt, fun a ha => hgt.trans (hfirst a ha)⟩)
          simpa [hnone] using (hlookup k').symm
      subst hk
      have hv : v = v' := by simpa using hlookup k
      have hms : ms = ms' := by
        refine ih hrest hrest' fun a => ?_
        by_cases ha : a = k
        · rw [ha, lookup_eq_none_of_lt hfirst, lookup_eq_none_of_lt hfirst']
        · simpa [lookup_cons_eq, ha] using hlookup a
      rw [hv, hms]

theorem sortMembers_eq_iff : sortMembers ms = sortMembers ms' ↔
    ∀ k, ms.reverse.lookup k = ms'.reverse.lookup k := by
  constructor
  · intro h k
    rw [← lookup_sortMembers, h, lookup_sortMembers]
  · intro h
    refine eq_of_lookup_eq (sorted_sortMembers ms) (sorted_sortMembers ms') fun k => ?_
    simp [h]

theorem putMember_of_lt {key : Text} (h : ∀ a ∈ keys ms, a < key) (value : Json) :
    putMember key value ms = ms ++ [(key, value)] := by
  induction ms with
  | nil => rfl
  | cons m ms ih =>
    obtain ⟨hm, hms⟩ := List.forall_mem_cons.mp h
    have hbefore : ¬ Text.before key m.1 = true := by
      rw [Text.before_iff]
      exact not_lt.mpr hm.le
    rw [putMember, if_neg (ne_of_gt hm), if_neg hbefore, ih hms, List.cons_append]

theorem sortMembers_eq_self (h : (keys ms).Pairwise (· < ·)) : sortMembers ms = ms := by
  induction ms using List.reverseRecOn with
  | nil => rfl
  | append_singleton ms m ih =>
    rw [keys, List.map_append, List.pairwise_append] at h
    obtain ⟨hms, -, hlast⟩ := h
    rw [sortMembers_concat, ih hms, putMember_of_lt fun a ha => hlast a ha m.1 (by simp)]

end Json
end TestBench
