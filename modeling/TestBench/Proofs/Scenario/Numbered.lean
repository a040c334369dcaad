import Mathlib.Data.List.Forall2
import TestBench.Proofs.Except
import TestBench.Scenario.Validate

/-! Elements checked one by one. All of them pass, or the first one that does not is reported under
its number. -/
namespace TestBench

variable {α β ε : Type} {f : Nat → α → Except ε β}

theorem mapNumbered_cons_of_ok {n : Nat} {a : α} {b : β} (h : f n a = .ok b) (as : List α) :
    mapNumbered f n (a :: as) = (mapNumbered f (n + 1) as).map (b :: ·) := by
  rw [mapNumbered, h]
  cases mapNumbered f (n + 1) as <;> rfl

@[simp] theorem mapNumbered_cons_of_error {n : Nat} {a : α} {e : ε} (h : f n a = .error e)
    (as : List α) :
    mapNumbered f n (a :: as) = .error e := by
  rw [mapNumbered, h]
  rfl

/-- If every element passes or is complained about, the list is turned as a whole, or the first
element that does not pass is complained about. -/
theorem mapNumbered_cases {p : α → Prop} {q : α → β → Prop} {r : Nat → α → ε → Prop}
    (h : ∀ n a, (p a ∧ ∃ b, f n a = .ok b ∧ q a b) ∨ (¬ p a ∧ ∃ e, f n a = .error e ∧ r n a e))
    (n : Nat) (as : List α) :
    ((∀ a ∈ as, p a) ∧ ∃ bs, mapNumbered f n as = .ok bs ∧ List.Forall₂ q as bs) ∨
      ∃ before a after e, as = before ++ a :: after ∧ (∀ x ∈ before, p x) ∧ ¬ p a ∧
        mapNumbered f n as = .error e ∧ r (n + before.length) a e := by
  induction as generalizing n with
  | nil => exact .inl ⟨by simp, [], rfl, .nil⟩
  | cons a as ih =>
    rcases h n a with ⟨ha, b, hb, hq⟩ | ⟨ha, e, he, hr⟩
    · rw [mapNumbered_cons_of_ok hb]
      rcases ih (n + 1) with ⟨has, bs, hbs, hqs⟩ | ⟨before, x, after, e, rfl, hbefore, hx, he, hr⟩
      · exact .inl ⟨List.forall_mem_cons.mpr ⟨ha, has⟩, b :: bs, by rw [hbs]; rfl, .cons hq hqs⟩
      · refine .inr ⟨a :: before, x, after, e, rfl, List.forall_mem_cons.mpr ⟨ha, hbefore⟩,
          hx, by rw [he]; rfl, ?_⟩
        rwa [List.length_cons, Nat.add_comm before.length 1, ← Nat.add_assoc]
    · exact .inr ⟨[], a, as, e, rfl, by simp, ha, mapNumbered_cons_of_error he as, hr⟩

theorem mapNumbered_cons_eq_ok_iff {n : Nat} {a : α} {as : List α} {bs : List β} :
    mapNumbered f n (a :: as) = .ok bs ↔
      ∃ b bs', f n a = .ok b ∧ mapNumbered f (n + 1) as = .ok bs' ∧ bs = b :: bs' := by
  cases hb : f n a with
  | error e => simp [mapNumbered_cons_of_error hb]
  | ok b =>
    rw [mapNumbered_cons_of_ok hb]
    cases mapNumbered f (n + 1) as with
    | error e => simp [Except.map]
    | ok bs' => simp [Except.map, eq_comm]

theorem ne_nil_of_mapNumbered_cons {n : Nat} {a : α} {as : List α} {bs : List β}
    (h : mapNumbered f n (a :: as) = .ok bs) : bs ≠ [] := by
  obtain ⟨b, bs', -, -, rfl⟩ := mapNumbered_cons_eq_ok_iff.mp h
  exact List.cons_ne_nil b bs'

/-- Every result comes from one of the elements, under some number. -/
theorem exists_of_mem_mapNumbered {n : Nat} {as : List α} {bs : List β}
    (h : mapNumbered f n as = .ok bs) :
    ∀ b ∈ bs, ∃ i, ∃ a ∈ as, f i a = .ok b := by
  induction as generalizing n bs with
  | nil =>
    cases h
    simp
  | cons a as ih =>
    obtain ⟨b, bs', hb, hbs, rfl⟩ := mapNumbered_cons_eq_ok_iff.mp h
    refine List.forall_mem_cons.mpr ⟨⟨n, a, List.mem_cons_self, hb⟩, fun c hc => ?_⟩
    obtain ⟨i, x, hx, hi⟩ := ih hbs c hc
    exact ⟨i, x, List.mem_cons_of_mem a hx, hi⟩

theorem mapNumbered_map_map {γ : Type} {g : γ → α} {r : γ → β} {cs : List γ}
    (h : ∀ i, ∀ c ∈ cs, f i (g c) = .ok (r c)) (n : Nat) :
    mapNumbered f n (cs.map g) = .ok (cs.map r) := by
  induction cs generalizing n with
  | nil => rfl
  | cons c cs ih =>
    rw [List.map_cons, mapNumbered_cons_of_ok (h n c List.mem_cons_self),
      ih (fun i d hd => h i d (List.mem_cons_of_mem c hd))]
    rfl

theorem mapNumbered_map {g : β → α} {bs : List β} (h : ∀ i, ∀ b ∈ bs, f i (g b) = .ok b) (n : Nat) :
    mapNumbered f n (bs.map g) = .ok bs := by
  rw [mapNumbered_map_map h, List.map_id']

end TestBench
