import TestBench.Proofs.Text.Lines
import TestBench.Proofs.Text.Shape

/-! First lines. White space around a text does not count for its first line, and neither do line
breaks in front of it. -/
namespace TestBench
namespace Text

variable {s t b : Text} {c : Char}

/-- A text is the first line of another one that is not blank, without the white space around it. -/
def IsFirstLine (t s : Text) : Prop :=
  ∃ earlier l later, lines t = earlier ++ l :: later ∧ (∀ e ∈ earlier, isBlankText e = true) ∧
    isBlankText l = false ∧ s = trim l

@[simp] theorem firstLine?_eq_some_iff : firstLine? t = some s ↔ IsFirstLine t s := by
  rw [firstLine?, List.findSome?_eq_some_iff]
  constructor
  · rintro ⟨earlier, l, later, hlines, hl, hearlier⟩
    obtain ⟨hshown, rfl⟩ := trimmed?_eq_some_iff.mp hl
    exact ⟨earlier, l, later, hlines, fun e he => trimmed?_eq_none_iff.mp (hearlier e he),
      hshown, rfl⟩
  · rintro ⟨earlier, l, later, hlines, hearlier, hshown, rfl⟩
    exact ⟨earlier, l, later, hlines, trimmed?_eq_some_iff.mpr ⟨hshown, rfl⟩,
      fun e he => trimmed?_eq_none_iff.mpr (hearlier e he)⟩

theorem IsFirstLine.not_blank (h : IsFirstLine t s) : isBlankText s = false :=
  not_blank_of_firstLine? (firstLine?_eq_some_iff.mpr h)

theorem IsFirstLine.trimmed (h : IsFirstLine t s) : Trimmed s := by
  obtain ⟨-, l, -, -, -, -, rfl⟩ := h
  exact trimmed_trim l

theorem IsFirstLine.break_not_mem (h : IsFirstLine t s) : '\n' ∉ s := by
  obtain ⟨earlier, l, later, hlines, -, -, rfl⟩ := h
  have hl : l ∈ lines t := by simp [hlines]
  exact fun hmem => not_mem_of_mem_lines hl ((trim_isInfix l).subset hmem)

theorem trim_append_of_blank (hb : b ∈ Shape.run isBlank) (t : Text) : trim (t ++ b) = trim t := by
  by_cases ht : t ∈ Shape.run isBlank
  · have hboth : t ++ b ∈ Shape.run isBlank :=
      fun c hc => (List.mem_append.mp hc).elim (ht c) (hb c)
    rw [Shape.trim_eq_nil_of_run hboth, Shape.trim_eq_nil_of_run ht]
  · have hne : t.dropWhile isBlank ≠ [] := fun hnil => ht (List.dropWhile_eq_nil_iff.mp hnil)
    have hreverse : b.reverse ∈ Shape.run isBlank := fun c hc => hb c (List.mem_reverse.mp hc)
    have hstart : trimStart (t ++ b) = trimStart t ++ b := by
      rw [trimStart, List.dropWhile_append, if_neg (by simpa using hne), trimStart]
    rw [trim, trim, hstart, trimEnd, trimEnd, List.reverse_append,
      List.dropWhile_append_of_pos hreverse]

@[simp] theorem trim_cons_of_blank (hc : isBlank c = true) (t : Text) : trim (c :: t) = trim t := by
  rw [trim, trim, trimStart, List.dropWhile_cons_of_pos hc, trimStart]

@[simp] theorem trim_dropReturn (l : Text) : trim (dropReturn l) = trim l := by
  rw [dropReturn]
  split
  · next hlast =>
    obtain ⟨a, rfl⟩ := List.getLast?_eq_some_iff.mp hlast
    have hreturn : ['\r'] ∈ Shape.run isBlank := by simp [isBlank]
    rw [List.dropLast_concat, trim_append_of_blank hreturn]
  · rfl

theorem findSome?_lines (t : Text) :
    (lines t).findSome? trimmed? = (pieces '\n' t).findSome? trimmed? := by
  obtain ⟨ps, p, hps⟩ := (List.eq_nil_or_concat _).resolve_left (pieces_ne_nil '\n' t)
  have hreturn : trimmed? ∘ dropReturn = trimmed? :=
    funext fun l => trimmed?_eq_iff.mpr (trim_dropReturn l)
  -- A last line that is empty is not counted, but it is blank.
  have hlast : ((some p).toList.filter fun l => !l.isEmpty).findSome? trimmed? =
      [p].findSome? trimmed? := by
    cases p <;> rfl
  rw [lines, hps]
  simp only [List.concat_eq_append, List.dropLast_concat, List.getLast?_concat,
    List.findSome?_append, List.findSome?_map, hreturn, hlast]

theorem exists_pieces_eq_cons (sep : Char) (t : Text) :
    ∃ ps, pieces sep t = t.takeWhile (· ≠ sep) :: ps := by
  induction t with
  | nil => exact ⟨[], rfl⟩
  | cons c t ih =>
    obtain ⟨ps, hps⟩ := ih
    rw [pieces, hps]
    by_cases hc : c = sep
    · rw [if_pos hc, List.takeWhile_cons_of_neg (by simpa using hc)]
      exact ⟨_, rfl⟩
    · rw [if_neg hc, List.takeWhile_cons_of_pos (by simpa using hc)]
      exact ⟨ps, rfl⟩

theorem firstLine?_eq (t : Text) :
    firstLine? t = trimmed? ((trimStart t).takeWhile (· ≠ '\n')) := by
  rw [firstLine?, findSome?_lines]
  induction t with
  | nil => rfl
  | cons c t ih =>
    obtain ⟨ps, hps⟩ := exists_pieces_eq_cons '\n' t
    by_cases hc : isBlank c = true
    · have hstart : trimStart (c :: t) = trimStart t := List.dropWhile_cons_of_pos hc
      rw [hstart, ← ih, pieces, hps]
      split
      · rfl
      · rw [List.findSome?_cons, List.findSome?_cons, trimmed?_eq_iff.mpr (trim_cons_of_blank hc _)]
    · have hbreak : c ≠ '\n' := by
        rintro rfl
        exact hc rfl
      have hstart : trimStart (c :: t) = c :: t := List.dropWhile_cons_of_neg hc
      have hshown : isBlankText (c :: t.takeWhile (· ≠ '\n')) = false := by simp [isBlankText, hc]
      rw [hstart, pieces, if_neg hbreak, hps, List.takeWhile_cons_of_pos (by simpa using hbreak),
        trimmed?_eq_some_iff.mpr ⟨hshown, rfl⟩, List.findSome?_cons,
        trimmed?_eq_some_iff.mpr ⟨hshown, rfl⟩]

@[simp] theorem firstLine?_trim (t : Text) : firstLine? (trim t) = firstLine? t := by
  obtain ⟨b, hb, hstart⟩ := Shape.trimEnd_append_blanks (trimStart t)
  have htrim : trimStart (trim t) = trim t := by
    cases h : trim t with
    | nil => rfl
    | cons c u =>
      exact List.dropWhile_cons_of_neg (by simp [trimmed_trim t c (.inl (by rw [h]; rfl))])
  rw [firstLine?_eq, firstLine?_eq, htrim, ← hstart, ← trim, List.takeWhile_append, trimmed?_eq_iff]
  split
  · next hlength =>
    have hall : (trim t).takeWhile (· ≠ '\n') = trim t :=
      (List.takeWhile_prefix _).eq_of_length hlength
    rw [hall, trim_append_of_blank fun c hc => hb c (List.takeWhile_subset _ hc)]
  · rfl

end Text
end TestBench
