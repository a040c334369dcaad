/-! Ascending tables of code point ranges, as character properties are given. -/
namespace TestBench
namespace Text

/-- Whether a code point lies in one of the ascending ranges. -/
def inRanges : List (Nat × Nat) → Nat → Bool
  | [], _ => false
  | (first, last) :: rest, n => if n < first then false else n ≤ last || inRanges rest n

theorem inRanges_sound {rs : List (Nat × Nat)} {n : Nat} (h : inRanges rs n = true) :
    ∃ r ∈ rs, r.1 ≤ n ∧ n ≤ r.2 := by
  induction rs with
  | nil => simp [inRanges] at h
  | cons r rs ih =>
    obtain ⟨a, b⟩ := r
    rw [inRanges] at h
    split at h
    · simp at h
    · rename_i hn
      rcases (Bool.or_eq_true _ _).mp h with hb | hr
      · exact ⟨(a, b), by simp, by simp at hb ⊢; omega⟩
      · obtain ⟨r, hr, hle⟩ := ih hr
        exact ⟨r, by simp [hr], hle⟩

end Text
end TestBench
