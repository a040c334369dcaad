import Mathlib.Data.List.DropRight
import Mathlib.Data.List.TakeWhile
import TestBench.Text.Basic

/-! Trimming. A trimmed text neither begins nor ends with white space, and such texts are those that
trimming leaves alone. -/
namespace TestBench
namespace Text

/-- No white space at either end. -/
def Trimmed (t : Text) : Prop := ∀ c, t.head? = some c ∨ t.getLast? = some c → isBlank c = false

theorem trimEnd_eq (t : Text) : trimEnd t = t.rdropWhile isBlank := rfl

theorem trim_isInfix (t : Text) : trim t <:+: t :=
  (List.rdropWhile_prefix isBlank (trimStart t)).isInfix.trans
    (List.dropWhile_suffix isBlank).isInfix

theorem trim_eq_nil_iff (t : Text) : trim t = [] ↔ ∀ c ∈ t, isBlank c = true := by
  rw [trim, trimEnd_eq, List.rdropWhile_eq_nil_iff, trimStart]
  constructor
  · intro h
    -- The first character that is left would be one that is not dropped.
    have hnil : t.dropWhile isBlank = [] := by
      by_contra hne
      obtain ⟨c, s, hs⟩ := List.exists_cons_of_ne_nil hne
      have hfirst := List.head?_dropWhile_not isBlank t
      rw [hs] at hfirst h
      exact absurd (h c List.mem_cons_self) (by simpa using hfirst)
    exact List.dropWhile_eq_nil_iff.mp hnil
  · intro h
    rw [List.dropWhile_eq_nil_iff.mpr h]
    simp

theorem trimmed_trim (t : Text) : Trimmed (trim t) := by
  rintro c (hc | hc)
  · have hprefix : trim t <+: trimStart t := List.rdropWhile_prefix isBlank _
    have hfirst : (trimStart t).head? = some c := by
      obtain ⟨s, hs⟩ := hprefix
      rw [← hs, List.head?_append, hc]
      rfl
    have hnot := List.head?_dropWhile_not isBlank t
    rw [trimStart] at hfirst
    rw [hfirst] at hnot
    simpa using hnot
  · have hne : trim t ≠ [] := by
      intro hnil
      simp [hnil] at hc
    have hlast := List.rdropWhile_last_not isBlank (trimStart t) hne
    rw [List.getLast?_eq_some_getLast hne, Option.some_inj] at hc
    have hlast' : ¬ isBlank ((trim t).getLast hne) = true := hlast
    rw [hc] at hlast'
    simpa using hlast'

theorem trim_eq_self {t : Text} (h : Trimmed t) : trim t = t := by
  have hstart : trimStart t = t := by
    cases t with
    | nil => rfl
    | cons c s => exact List.dropWhile_cons_of_neg (by simpa using h c (.inl rfl))
  rw [trim, hstart, trimEnd_eq, List.rdropWhile_eq_self_iff]
  intro hne
  have hlast := h _ (.inr (List.getLast?_eq_some_getLast hne))
  simpa using hlast

@[simp] theorem trim_trim (t : Text) : trim (trim t) = trim t := trim_eq_self (trimmed_trim t)

theorem trim_ne_nil_iff (t : Text) : trim t ≠ [] ↔ isBlankText t = false := by
  rw [Ne, trim_eq_nil_iff, isBlankText, ← Bool.not_eq_true, List.all_eq_true]

theorem trimmed?_eq_some_iff {s t : Text} : trimmed? s = some t ↔ isBlankText s = false ∧
    t = trim s := by
  rw [← trim_ne_nil_iff, trimmed?]
  split
  · next h => simp [h]
  · next h =>
    rw [Option.some_inj]
    constructor
    · rintro rfl
      exact ⟨h, rfl⟩
    · rintro ⟨-, rfl⟩
      rfl

@[simp] theorem trimmed?_eq_none_iff {s : Text} : trimmed? s = none ↔ isBlankText s = true := by
  rw [← Bool.not_eq_false, ← trim_ne_nil_iff, trimmed?]
  split
  · next h => simp [h]
  · next h => simpa using h

theorem trimmed?_of_trimmed? {s t : Text} (h : trimmed? s = some t) : trimmed? t = some t := by
  obtain ⟨hs, rfl⟩ := trimmed?_eq_some_iff.mp h
  refine trimmed?_eq_some_iff.mpr ⟨?_, (trim_trim s).symm⟩
  rwa [← trim_ne_nil_iff, trim_trim, trim_ne_nil_iff]

end Text
end TestBench
