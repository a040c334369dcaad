import Mathlib.Data.List.Infix
import TestBench.Proofs.Text.Basic
import TestBench.Proofs.Text.Trim

/-! Lines and other parts of texts. A line has no break in it, and lines that are trimmed before
they are joined make a trimmed text whose first line is the first of them. -/
namespace TestBench
namespace Text

theorem isInfix_of_mem_pieces {sep : Char} {s t : Text} (h : s ∈ pieces sep t) : s <:+: t := by
  -- The first piece is at the beginning, and any other one is a piece of the rest.
  suffices hpieces : ∀ t, (∀ p, (pieces sep t).head? = some p → p <+: t) ∧
    ∀ p ∈ pieces sep t, p <:+: t from
    (hpieces t).2 s h
  intro t
  induction t with
  | nil => simp [pieces]
  | cons c t ih =>
    obtain ⟨ihfirst, ih⟩ := ih
    obtain ⟨p, ps, hp⟩ := List.exists_cons_of_ne_nil (pieces_ne_nil sep t)
    rw [hp] at ih ihfirst
    rw [pieces, hp]
    split
    · refine ⟨fun q hq => ?_, fun q hq => ?_⟩
      · obtain rfl : [] = q := Option.some.inj hq
        exact List.nil_prefix
      · rcases List.mem_cons.mp hq with rfl | hq
        · exact List.nil_infix
        · exact (ih q hq).trans (List.suffix_cons c t).isInfix
    · have hfirst : c :: p <+: c :: t := List.cons_prefix_cons.mpr ⟨rfl, ihfirst p rfl⟩
      refine ⟨fun q hq => ?_, fun q hq => ?_⟩
      · obtain rfl : c :: p = q := Option.some.inj hq
        exact hfirst
      · rcases List.mem_cons.mp hq with rfl | hq
        · exact hfirst.isInfix
        · exact (ih q (List.mem_cons_of_mem _ hq)).trans (List.suffix_cons c t).isInfix

theorem dropReturn_isInfix (l : Text) : dropReturn l <:+: l := by
  rw [dropReturn]
  split
  · exact (List.dropLast_prefix l).isInfix
  · exact List.infix_refl l

theorem exists_piece_of_mem_lines {l t : Text} (h : l ∈ lines t) :
    ∃ p ∈ pieces '\n' t, l <:+: p := by
  rw [lines] at h
  rcases List.mem_append.mp h with h | h
  · obtain ⟨p, hp, rfl⟩ := List.mem_map.mp h
    exact ⟨p, List.mem_of_mem_dropLast hp, dropReturn_isInfix p⟩
  · have hlast := Option.mem_toList.mp (List.mem_filter.mp h).1
    exact ⟨l, List.mem_of_getLast? hlast, List.infix_rfl⟩

theorem isInfix_of_mem_lines {s t : Text} (h : s ∈ lines t) : s <:+: t := by
  obtain ⟨p, hp, hs⟩ := exists_piece_of_mem_lines h
  exact hs.trans (isInfix_of_mem_pieces hp)

theorem not_mem_of_mem_lines {l t : Text} (h : l ∈ lines t) : '\n' ∉ l := by
  obtain ⟨p, hp, hl⟩ := exists_piece_of_mem_lines h
  exact fun hmem => not_mem_of_mem_pieces hp (hl.subset hmem)

theorem isInfix_of_trimmed? {s t : Text} (h : trimmed? t = some s) : s <:+: t := by
  obtain ⟨-, rfl⟩ := trimmed?_eq_some_iff.mp h
  exact trim_isInfix t

theorem isInfix_of_firstLine? {s t : Text} (h : firstLine? t = some s) : s <:+: t := by
  obtain ⟨l, hl, hs⟩ := List.exists_of_findSome?_eq_some h
  exact (isInfix_of_trimmed? hs).trans (isInfix_of_mem_lines hl)

theorem isBlankText_of_isInfix {s t : Text} (h : s <:+: t) (ht : isBlankText t = true) :
    isBlankText s = true := by
  rw [isBlankText, List.all_eq_true] at ht ⊢
  exact fun c hc => ht c (h.subset hc)

@[simp] theorem isBlankText_trim (t : Text) : isBlankText (trim t) = isBlankText t := by
  rw [Bool.eq_iff_iff, ← not_iff_not, Bool.not_eq_true, Bool.not_eq_true, ← trim_ne_nil_iff,
    ← trim_ne_nil_iff, trim_trim]

theorem trimmed?_eq_iff {s t : Text} : trimmed? s = trimmed? t ↔ trim s = trim t := by
  rw [trimmed?, trimmed?]
  cases trim s <;> cases trim t <;> simp

theorem exists_piece_of_mem {sep c : Char} {t : Text} (h : c ∈ t) (hc : c ≠ sep) :
    ∃ p ∈ pieces sep t, c ∈ p := by
  induction t with
  | nil => cases h
  | cons d t ih =>
    obtain ⟨p, ps, hp⟩ := List.exists_cons_of_ne_nil (pieces_ne_nil sep t)
    rw [hp] at ih
    rw [pieces, hp]
    rcases List.mem_cons.mp h with rfl | h
    · rw [if_neg hc]
      exact ⟨c :: p, List.mem_cons_self, List.mem_cons_self⟩
    · obtain ⟨q, hq, hmem⟩ := ih h
      split
      · exact ⟨q, List.mem_cons_of_mem _ hq, hmem⟩
      · rcases List.mem_cons.mp hq with rfl | hq
        · exact ⟨d :: q, List.mem_cons_self, List.mem_cons_of_mem _ hmem⟩
        · exact ⟨q, List.mem_cons_of_mem _ hq, hmem⟩

theorem mem_dropReturn {c : Char} {l : Text} (h : c ∈ l) (hc : isBlank c = false) :
    c ∈ dropReturn l := by
  rw [dropReturn]
  split
  · next hlast =>
    obtain ⟨a, rfl⟩ := List.getLast?_eq_some_iff.mp hlast
    have hreturn : c ≠ '\r' := by
      rintro rfl
      cases hc
    rw [List.dropLast_concat]
    exact (List.mem_append.mp h).resolve_right fun hmem => hreturn (List.mem_singleton.mp hmem)
  · exact h

theorem exists_line_of_mem {c : Char} {t : Text} (h : c ∈ t) (hc : isBlank c = false) :
    ∃ l ∈ lines t, c ∈ l := by
  have hbreak : c ≠ '\n' := by
    rintro rfl
    cases hc
  obtain ⟨p, hp, hmem⟩ := exists_piece_of_mem h hbreak
  obtain ⟨ps, q, hps⟩ := (List.eq_nil_or_concat _).resolve_left (pieces_ne_nil '\n' t)
  rw [lines, hps]
  rw [hps, List.concat_eq_append, List.mem_append, List.mem_singleton] at hp
  rcases hp with hp | rfl
  · exact ⟨dropReturn p, by simpa using .inl ⟨p, hp, rfl⟩, mem_dropReturn hmem hc⟩
  · exact ⟨p, by simp [List.ne_nil_of_mem hmem], hmem⟩

theorem not_blank_of_firstLine? {s t : Text} (h : firstLine? t = some s) :
    isBlankText s = false := by
  obtain ⟨l, -, hs⟩ := List.exists_of_findSome?_eq_some h
  obtain ⟨hl, rfl⟩ := trimmed?_eq_some_iff.mp hs
  rwa [isBlankText_trim]

theorem exists_firstLine? {t : Text} (h : isBlankText t = false) : ∃ s, firstLine? t = some s := by
  obtain ⟨c, hmem, hc⟩ := List.all_eq_false.mp h
  rw [Bool.not_eq_true] at hc
  obtain ⟨l, hl, hcl⟩ := exists_line_of_mem hmem hc
  rw [← Option.isSome_iff_exists, firstLine?, List.findSome?_isSome_iff]
  refine ⟨l, hl, ?_⟩
  rw [Option.isSome_iff_ne_none, Ne, trimmed?_eq_none_iff, isBlankText, List.all_eq_true]
  intro hall
  rw [hall c hcl] at hc
  cases hc

theorem dropReturn_eq_self {l : Text} (h : Trimmed l) : dropReturn l = l := by
  rw [dropReturn, if_neg]
  intro hlast
  exact absurd (h _ (.inr hlast)) (by decide)

theorem isInfix_joinWith {sep t : Text} {ts : List Text} (h : t ∈ ts) : t <:+: joinWith sep ts := by
  induction ts with
  | nil => cases h
  | cons u ts ih =>
    cases ts with
    | nil =>
      rw [joinWith_singleton, List.mem_singleton.mp h]
    | cons v vs =>
      rw [joinWith_cons_cons]
      rcases List.mem_cons.mp h with rfl | h
      · rw [List.append_assoc]
        exact (List.prefix_append t _).isInfix
      · exact (ih h).trans (List.suffix_append _ _).isInfix

theorem isBlankText_joinWith {sep : Text} {ts : List Text} (hsep : isBlankText sep = true)
    (h : ∀ t ∈ ts, isBlankText t = true) : isBlankText (joinWith sep ts) = true := by
  induction ts with
  | nil => rfl
  | cons t ts ih =>
    obtain ⟨ht, hts⟩ := List.forall_mem_cons.mp h
    cases ts with
    | nil => rwa [joinWith_singleton]
    | cons u us =>
      have hrest := ih hts
      rw [isBlankText] at ht hsep hrest ⊢
      rw [joinWith_cons_cons, List.all_append, List.all_append, ht, hsep, hrest]
      rfl

theorem joinWith_not_blank {sep t : Text} {ts : List Text} (ht : t ∈ ts)
    (h : isBlankText t = false) :
    isBlankText (joinWith sep ts) = false := by
  rw [← Bool.not_eq_true] at h ⊢
  exact fun hblank => h (isBlankText_of_isInfix (isInfix_joinWith ht) hblank)

theorem joinWith_ne_nil {sep : Text} {ts : List Text} (hne : ts ≠ []) (h : ∀ t ∈ ts, t ≠ []) :
    joinWith sep ts ≠ [] := by
  obtain ⟨t, ts, rfl⟩ := List.exists_cons_of_ne_nil hne
  have ht : t ≠ [] := h t List.mem_cons_self
  cases ts with
  | nil => rwa [joinWith_singleton]
  | cons u us => simp [ht]

/-- The ends of a joined text are the ends of its first and of its last part. -/
theorem trimmed_joinWith {sep : Text} {ts : List Text} (h : ∀ t ∈ ts, t ≠ [] ∧ Trimmed t) :
    Trimmed (joinWith sep ts) := by
  induction ts with
  | nil => simp [joinWith, Trimmed]
  | cons t ts ih =>
    obtain ⟨⟨hne, ht⟩, hts⟩ := List.forall_mem_cons.mp h
    cases ts with
    | nil => rwa [joinWith_singleton]
    | cons u us =>
      have hrest : joinWith sep (u :: us) ≠ [] := joinWith_ne_nil (by simp) fun v hv => (hts v hv).1
      rintro c (hc | hc)
      · rw [joinWith_cons_cons, List.append_assoc, List.head?_append_of_ne_nil _ hne] at hc
        exact ht c (.inl hc)
      · rw [joinWith_cons_cons, List.getLast?_append_of_ne_nil _ hrest] at hc
        exact ih hts c (.inr hc)

theorem lines_unlines_cons {t : Text} {ts : List Text} (hbreak : ∀ s ∈ t :: ts, '\n' ∉ s)
    (hne : t ≠ []) (ht : Trimmed t) : ∃ rest, lines (unlines (t :: ts)) = t :: rest := by
  rw [lines, unlines, pieces_joinWith (by simp) hbreak]
  cases ts with
  | nil => exact ⟨[], by simp [hne]⟩
  | cons u us =>
    exact ⟨_, by
      rw [List.dropLast_cons_cons, List.map_cons, dropReturn_eq_self ht, List.cons_append]⟩

theorem firstLine?_unlines_cons {t : Text} {ts : List Text} (hbreak : ∀ s ∈ t :: ts, '\n' ∉ s)
    (hne : t ≠ []) (ht : Trimmed t) : firstLine? (unlines (t :: ts)) = some t := by
  obtain ⟨rest, hlines⟩ := lines_unlines_cons hbreak hne ht
  have hself : trim t = t := trim_eq_self ht
  have htrim : trimmed? t = some t :=
    trimmed?_eq_some_iff.mpr ⟨(trim_ne_nil_iff t).mp (by rwa [hself]), hself.symm⟩
  rw [firstLine?, hlines, List.findSome?_cons_of_isSome (by simp [htrim]), htrim]

end Text
end TestBench
