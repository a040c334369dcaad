import Mathlib.Data.List.Nodup
import Mathlib.Data.List.Perm.Subperm
import TestBench.Program.Titles
import TestBench.Proofs.Text.Basic

/-! Titles made distinct are distinct: the search for a free number ends before the titles that are
taken run out, and it takes the least one. -/
namespace TestBench
namespace Titles

variable {taken : List Text} {title : Text}

theorem numbered_injective (title : Text) : Function.Injective (numbered title) := by
  intro m n h
  simp only [numbered, List.append_cancel_left_eq, List.append_cancel_right_eq] at h
  exact Text.ofNat_injective h

theorem numbered_ne (title : Text) (n : Nat) : numbered title n ≠ title := fun h => by
  have hlen := congrArg List.length h
  simp [numbered] at hlen

theorem firstFree_eq (taken : List Text) (title : Text) (fuel n : Nat) :
    ∃ m, n ≤ m ∧ m ≤ n + fuel ∧ firstFree taken title fuel n = numbered title m ∧
      (∀ k, n ≤ k → k < m → numbered title k ∈ taken) ∧
      (m < n + fuel → numbered title m ∉ taken) := by
  induction fuel generalizing n with
  | zero =>
    exact ⟨n, Nat.le_refl n, Nat.le_refl n, rfl, fun k hk hkn => by omega, fun h => by omega⟩
  | succ fuel ih =>
    rw [firstFree]
    split
    · next htaken =>
      rw [List.contains_iff_mem] at htaken
      obtain ⟨m, hnm, hm, heq, hpassed, hfree⟩ := ih (n + 1)
      refine ⟨m, by omega, by omega, heq, fun k hk hkm => ?_, fun h => hfree (by omega)⟩
      rcases Nat.eq_or_lt_of_le hk with rfl | hk
      · exact htaken
      · exact hpassed k hk hkm
    · next hfree =>
      rw [List.contains_iff_mem] at hfree
      exact ⟨n, Nat.le_refl n, by omega, rfl, fun k hk hkn => by omega, fun _ => hfree⟩

theorem le_length_of_passed {m : Nat} (htitle : title ∈ taken)
    (hpassed : ∀ k, 2 ≤ k → k < m → numbered title k ∈ taken) : m ≤ taken.length + 1 := by
  let found := title :: (List.range' 2 (m - 2)).map (numbered title)
  have hnodup : found.Nodup := by
    refine List.nodup_cons.mpr ⟨fun h => ?_,
      List.Nodup.map (numbered_injective title) List.nodup_range'⟩
    obtain ⟨k, -, hk⟩ := List.mem_map.mp h
    exact numbered_ne title k hk
  have hsubset : found ⊆ taken := by
    refine List.cons_subset.mpr ⟨htitle, fun t ht => ?_⟩
    obtain ⟨k, hk, rfl⟩ := List.mem_map.mp ht
    rw [List.mem_range'_1] at hk
    exact hpassed k hk.1 (by omega)
  have hlen := (List.subperm_of_subset hnodup hsubset).length_le
  simp only [found, List.length_cons, List.length_map, List.length_range'] at hlen
  omega

/-- A title stays as it is if it is free, otherwise it gets the least free number from two on. -/
theorem free_cases (taken : List Text) (title : Text) :
    (title ∉ taken ∧ free taken title = title) ∨
    (title ∈ taken ∧ ∃ m, 2 ≤ m ∧ m ≤ taken.length + 1 ∧ free taken title = numbered title m ∧
      numbered title m ∉ taken ∧ ∀ k, 2 ≤ k → k < m → numbered title k ∈ taken) := by
  rw [free]
  split
  · next htaken =>
    rw [List.contains_iff_mem] at htaken
    obtain ⟨m, hm, -, heq, hpassed, hfree⟩ := firstFree_eq taken title taken.length 2
    have hle := le_length_of_passed htaken hpassed
    exact .inr ⟨htaken, m, hm, hle, heq, hfree (by omega), hpassed⟩
  · next hfree =>
    rw [List.contains_iff_mem] at hfree
    exact .inl ⟨hfree, rfl⟩

theorem free_not_mem (taken : List Text) (title : Text) : free taken title ∉ taken := by
  rcases free_cases taken title with ⟨hfree, heq⟩ | ⟨-, m, -, -, heq, hfree, -⟩ <;> rwa [heq]

theorem not_mem_of_mem_distinctFrom {ts : List Text} {t : Text} (h : t ∈ distinctFrom taken ts) :
    t ∉ taken := by
  induction ts generalizing taken with
  | nil => simp [distinctFrom] at h
  | cons title ts ih =>
    rcases List.mem_cons.mp h with rfl | h
    · exact free_not_mem taken title
    · exact fun ht => ih h (List.mem_cons_of_mem _ ht)

theorem nodup_distinctFrom (taken ts : List Text) : (distinctFrom taken ts).Nodup := by
  induction ts generalizing taken with
  | nil => exact List.nodup_nil
  | cons title ts ih =>
    exact List.nodup_cons.mpr ⟨fun h => not_mem_of_mem_distinctFrom h List.mem_cons_self, ih _⟩

theorem nodup_distinct (ts : List Text) : (distinct ts).Nodup := nodup_distinctFrom [] ts

/-- A text is a form of a title if it is the title, or the title with a number from two on. -/
def IsForm (t title : Text) : Prop := t = title ∨ ∃ n, 2 ≤ n ∧ t = numbered title n

theorem isForm_free (taken : List Text) (title : Text) : IsForm (free taken title) title := by
  rcases free_cases taken title with ⟨-, heq⟩ | ⟨-, m, hm, -, heq, -⟩
  · exact .inl heq
  · exact .inr ⟨m, hm, heq⟩

theorem forall₂_isForm_distinctFrom (taken ts : List Text) :
    List.Forall₂ IsForm (distinctFrom taken ts) ts := by
  induction ts generalizing taken with
  | nil => exact .nil
  | cons title ts ih => exact .cons (isForm_free taken title) (ih _)

end Titles
end TestBench
