import TestBench.Proofs.Text.Lines
import TestBench.Text.Ansi

/-! Texts without control sequences. Parts of such texts have none either, and texts that are put
together with a blank or a line break between them have no more than they had before. -/
namespace TestBench
namespace Text

namespace Ansi

variable {r s t u : Text} {c : Char}

theorem afterFinal?_append (h : afterFinal? t = some r) (u : Text) :
    afterFinal? (t ++ u) = some (r ++ u) := by
  induction t with
  | nil => cases h
  | cons c t ih =>
    rw [afterFinal?] at h
    rw [List.cons_append, afterFinal?]
    split at h
    · next hc => rw [if_pos hc, Option.some.inj h]
    · next hc =>
      split at h
      · next hp => rw [if_neg hc, if_pos hp, ih h]
      · cases h

theorem isSome_afterSequence?_append (h : (afterSequence? t).isSome) (u : Text) :
    (afterSequence? (t ++ u)).isSome := by
  rcases t with _ | ⟨e, _ | ⟨b, t⟩⟩
  · cases h
  · cases h
  · rw [afterSequence?] at h
    rw [List.cons_append, List.cons_append, afterSequence?]
    split at h
    · next hstart =>
      obtain ⟨r, hr⟩ := Option.isSome_iff_exists.mp h
      rw [if_pos hstart, afterFinal?_append hr]
      rfl
    · cases h

theorem HasSequence.of_isInfix (h : HasSequence s) (hs : s <:+: t) : HasSequence t := by
  obtain ⟨a, b, rfl, hb⟩ := h
  obtain ⟨x, y, rfl⟩ := hs
  exact ⟨x ++ a, b ++ y, by simp, isSome_afterSequence?_append hb y⟩

theorem head?_of_isSome_afterSequence? (h : (afterSequence? t).isSome) : t.head? = some escape := by
  rcases t with _ | ⟨e, _ | ⟨b, t⟩⟩
  · cases h
  · cases h
  · rw [afterSequence?] at h
    split at h
    · next hstart => rw [hstart.1]; rfl
    · cases h

theorem not_hasSequence_of_not_mem (h : escape ∉ t) : ¬HasSequence t := by
  rintro ⟨a, b, rfl, hb⟩
  have hhead := List.mem_of_mem_head? (head?_of_isSome_afterSequence? hb)
  exact h (List.mem_append_right a hhead)

/-- A character that can be no part of a sequence. -/
def Outside (c : Char) : Prop := c ≠ escape ∧ c ≠ '[' ∧ isLetter c = false ∧ isParameter c = false

instance (c : Char) : Decidable (Outside c) := inferInstanceAs (Decidable (_ ∧ _ ∧ _ ∧ _))

/-- A character that is never found inside of a sequence, though one may begin with it. -/
def Halts (c : Char) : Prop := c ≠ '[' ∧ isLetter c = false ∧ isParameter c = false

instance (c : Char) : Decidable (Halts c) := inferInstanceAs (Decidable (_ ∧ _ ∧ _))

theorem Outside.halts (hc : Outside c) : Halts c := hc.2

theorem afterFinal?_append_of_halts (hc : Halts c) (s t : Text) :
    afterFinal? (s ++ c :: t) = (afterFinal? s).map (· ++ c :: t) := by
  induction s with
  | nil => simp [afterFinal?, hc.2.1, hc.2.2]
  | cons d s ih =>
    rw [List.cons_append, afterFinal?, afterFinal?, ih]
    split
    · rfl
    · split <;> rfl

theorem afterSequence?_append_of_halts (hc : Halts c) (hs : s ≠ []) (t : Text) :
    afterSequence? (s ++ c :: t) = (afterSequence? s).map (· ++ c :: t) := by
  rcases s with _ | ⟨e, _ | ⟨b, s⟩⟩
  · exact absurd rfl hs
  · simp [afterSequence?, hc.1]
  · rw [List.cons_append, List.cons_append, afterSequence?, afterSequence?,
      afterFinal?_append_of_halts hc]
    split <;> rfl

theorem isSome_afterSequence?_of_outside (hc : Outside c)
    (h : (afterSequence? (s ++ c :: t)).isSome) : (afterSequence? s).isSome := by
  by_cases hs : s = []
  · subst hs
    have hhead := head?_of_isSome_afterSequence? h
    exact absurd (Option.some.inj hhead) hc.1
  · simpa [afterSequence?_append_of_halts hc.halts hs] using h

theorem hasSequence_append_cons (hc : Outside c) (h : HasSequence (s ++ c :: t)) :
    HasSequence s ∨ HasSequence t := by
  obtain ⟨a, b, heq, hb⟩ := h
  rcases List.append_eq_append_iff.mp heq with ⟨m, rfl, hm⟩ | ⟨m, rfl, rfl⟩
  · -- The sequence begins behind the first text.
    cases m with
    | nil =>
      rw [List.nil_append] at hm
      have hhead := head?_of_isSome_afterSequence? hb
      rw [← hm] at hhead
      exact absurd (Option.some.inj hhead) hc.1
    | cons d m =>
      obtain ⟨-, rfl⟩ := List.cons.inj hm
      exact .inr ⟨m, b, rfl, hb⟩
  · exact .inl ⟨a, m, rfl, isSome_afterSequence?_of_outside hc hb⟩

theorem not_hasSequence_joinWith (hc : Outside c) {ts : List Text} (h : ∀ t ∈ ts, ¬HasSequence t) :
    ¬HasSequence (joinWith [c] ts) := by
  induction ts with
  | nil => exact not_hasSequence_of_not_mem (by simp [joinWith, List.intercalate])
  | cons t ts ih =>
    obtain ⟨ht, hts⟩ := List.forall_mem_cons.mp h
    cases ts with
    | nil => rwa [joinWith_singleton]
    | cons u us =>
      rw [joinWith_cons_cons, List.append_assoc, List.singleton_append]
      intro hseq
      rcases hasSequence_append_cons hc hseq with hseq | hseq
      · exact ht hseq
      · exact ih hts hseq

@[simp] theorem strip_nil : strip [] = [] := by rw [strip]

theorem strip_of_afterSequence? (h : afterSequence? t = some r) : strip t = strip r := by
  cases t with
  | nil => cases h
  | cons c t =>
    rw [strip]
    split
    · next r' hr' => rw [Option.some.inj (h.symm.trans hr')]
    · next hnone =>
      rw [h] at hnone
      cases hnone

@[simp] theorem strip_cons_of_none (h : afterSequence? (c :: t) = none) :
    strip (c :: t) = c :: strip t := by
  rw [strip]
  split
  · next r hr =>
    rw [h] at hr
    cases hr
  · rfl

@[simp] theorem afterSequence?_cons_of_ne (hc : c ≠ escape) (t : Text) :
    afterSequence? (c :: t) = none := by
  by_contra h
  have hhead := head?_of_isSome_afterSequence? (Option.isSome_iff_ne_none.mpr h)
  exact hc (Option.some.inj hhead)

/-- Every escape character begins a sequence. -/
def Complete (t : Text) : Prop := ∀ b, escape :: b <:+ t → (afterSequence? (escape :: b)).isSome

theorem suffix_of_afterFinal? (h : afterFinal? t = some r) : r <:+ t := by
  induction t with
  | nil => cases h
  | cons c t ih =>
    rw [afterFinal?] at h
    split at h
    · exact Option.some.inj h ▸ List.suffix_cons c t
    · split at h
      · exact (ih h).trans (List.suffix_cons c t)
      · cases h

theorem suffix_of_afterSequence? (h : afterSequence? t = some r) : r <:+ t := by
  rcases t with _ | ⟨e, _ | ⟨b, t⟩⟩
  · cases h
  · cases h
  · rw [afterSequence?] at h
    split at h
    · exact (suffix_of_afterFinal? h).trans ((List.suffix_cons b t).trans (List.suffix_cons e _))
    · cases h

theorem escape_not_mem_strip (h : Complete t) : escape ∉ strip t := by
  induction t using strip.induct with
  | case1 => simp
  | case2 c t r hr ih =>
    rw [strip_of_afterSequence? hr]
    exact ih fun b hb => h b (hb.trans (suffix_of_afterSequence? hr))
  | case3 c t hnone ih =>
    rw [strip_cons_of_none hnone, List.mem_cons, not_or]
    refine ⟨?_, ih fun b hb => h b (hb.trans (List.suffix_cons c t))⟩
    rintro rfl
    have hsome := h t (List.suffix_refl _)
    rw [hnone] at hsome
    cases hsome

/-- Texts whose escape characters all begin sequences can be put together. -/
theorem Complete.append_cons (hs : Complete s) (ht : Complete t) (hc : c ≠ escape) :
    Complete (s ++ c :: t) := by
  rintro b ⟨a, heq⟩
  rcases List.append_eq_append_iff.mp heq with ⟨m, rfl, hm⟩ | ⟨m, rfl, hm⟩
  · cases m with
    | nil => exact absurd (List.cons.inj hm).1.symm hc
    | cons d m =>
      obtain ⟨rfl, rfl⟩ := List.cons.inj hm
      exact isSome_afterSequence?_append (hs m (List.suffix_append a _)) (c :: t)
  · cases m with
    | nil => exact absurd (List.cons.inj hm).1 hc
    | cons d m =>
      obtain ⟨rfl, rfl⟩ := List.cons.inj hm
      exact ht b (List.suffix_append m _)

theorem not_hasSequence_strip (h : Complete t) : ¬HasSequence (strip t) :=
  not_hasSequence_of_not_mem (escape_not_mem_strip h)

end Ansi
end Text
end TestBench
