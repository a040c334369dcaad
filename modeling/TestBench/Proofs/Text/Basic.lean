import TestBench.Text.Basic

/-! Texts put together and taken apart again: parts with a separator, lines with their breaks, and
decimal digits. -/
namespace TestBench
namespace Text

@[simp] theorem joinWith_singleton (sep t : Text) : joinWith sep [t] = t := by
  simp [joinWith, List.intercalate]

@[simp] theorem joinWith_cons_cons (sep s t : Text) (ts : List Text) :
    joinWith sep (s :: t :: ts) = s ++ sep ++ joinWith sep (t :: ts) := by
  simp [joinWith, List.intercalate]

theorem not_mem_joinWith_cons {c : Char} {sep s : Text} {ts : List Text} (hsep : c ∉ sep)
    (hs : c ∉ s) (hts : c ∉ joinWith sep ts) : c ∉ joinWith sep (s :: ts) := by
  cases ts with
  | nil => rwa [joinWith_singleton]
  | cons t ts =>
    rw [joinWith_cons_cons, List.mem_append, List.mem_append, not_or, not_or]
    exact ⟨⟨hs, hsep⟩, hts⟩

theorem not_mem_joinWith {c : Char} {sep : Text} {ts : List Text} (hsep : c ∉ sep)
    (h : ∀ t ∈ ts, c ∉ t) :
    c ∉ joinWith sep ts := by
  induction ts with
  | nil => simp [joinWith]
  | cons t ts ih =>
    obtain ⟨ht, hts⟩ := List.forall_mem_cons.mp h
    exact not_mem_joinWith_cons hsep ht (ih hts)

@[simp] theorem pieces_append_break {sep : Char} {l : Text} (h : sep ∉ l) (t : Text) :
    pieces sep (l ++ sep :: t) = l :: pieces sep t := by
  induction l with
  | nil => rw [List.nil_append, pieces, if_pos rfl]
  | cons c l ih =>
    rw [List.mem_cons, not_or] at h
    rw [List.cons_append, pieces, if_neg (Ne.symm h.1), ih h.2]

@[simp] theorem pieces_append (sep : Char) (s t : Text) :
    pieces sep (s ++ sep :: t) = pieces sep s ++ pieces sep t := by
  induction s with
  | nil => simp [pieces]
  | cons c s ih =>
    rw [List.cons_append, pieces, pieces, ih]
    split
    · rfl
    · obtain ⟨p, ps, hp⟩ := List.exists_cons_of_ne_nil (pieces_ne_nil sep s)
      simp [hp]

theorem pieces_of_not_mem {sep : Char} {t : Text} (h : sep ∉ t) : pieces sep t = [t] := by
  induction t with
  | nil => rfl
  | cons c t ih =>
    rw [List.mem_cons, not_or] at h
    rw [pieces, if_neg (Ne.symm h.1), ih h.2]

theorem not_mem_of_mem_pieces {sep : Char} {s t : Text} (h : s ∈ pieces sep t) : sep ∉ s := by
  induction t generalizing s with
  | nil => simp_all [pieces]
  | cons c t ih =>
    rw [pieces] at h
    split at h
    · rcases List.mem_cons.mp h with rfl | h
      · exact List.not_mem_nil
      · exact ih h
    · next hc =>
      obtain ⟨p, ps, hp⟩ := List.exists_cons_of_ne_nil (pieces_ne_nil sep t)
      rw [hp] at h
      rcases List.mem_cons.mp h with rfl | h
      · rw [List.mem_cons, not_or]
        exact ⟨Ne.symm hc, ih (by simp [hp])⟩
      · exact ih (by simp [hp, h])

theorem pieces_joinWith {sep : Char} {ts : List Text} (hne : ts ≠ []) (h : ∀ t ∈ ts, sep ∉ t) :
    pieces sep (joinWith [sep] ts) = ts := by
  induction ts with
  | nil => exact absurd rfl hne
  | cons t ts ih =>
    obtain ⟨ht, hts⟩ := List.forall_mem_cons.mp h
    cases ts with
    | nil => rw [joinWith_singleton, pieces_of_not_mem ht]
    | cons t' ts =>
      rw [joinWith_cons_cons, List.append_assoc, List.singleton_append, pieces_append_break ht,
        ih (by simp) hts]

@[simp] theorem joinWith_pieces (sep : Char) (t : Text) : joinWith [sep] (pieces sep t) = t := by
  induction t with
  | nil => rfl
  | cons c t ih =>
    obtain ⟨s, ss, hs⟩ := List.exists_cons_of_ne_nil (pieces_ne_nil sep t)
    rw [pieces]
    by_cases hc : c = sep
    · rw [if_pos hc, hs, joinWith_cons_cons, ← hs, ih, hc]
      rfl
    · rw [if_neg hc, hs]
      rw [hs] at ih
      cases ss with
      | nil =>
        rw [joinWith_singleton] at ih
        simp [ih]
      | cons u us =>
        rw [joinWith_cons_cons] at ih
        simp [← ih]

@[simp] theorem length_pieces (sep : Char) (t : Text) :
    (pieces sep t).length = t.count sep + 1 := by
  induction t with
  | nil => rfl
  | cons c t ih =>
    obtain ⟨p, ps, hp⟩ := List.exists_cons_of_ne_nil (pieces_ne_nil sep t)
    rw [pieces]
    by_cases hc : c = sep
    · simp [hc, ih]
    · rw [if_neg hc, List.count_cons_of_ne hc, ← ih, hp]
      rfl

@[simp] theorem pieces_lines {ls : List Text} (h : ∀ l ∈ ls, '\n' ∉ l) :
    pieces '\n' (ls.flatMap fun l => l ++ ['\n']) = ls ++ [[]] := by
  induction ls with
  | nil => rfl
  | cons l ls ih =>
    obtain ⟨hl, hls⟩ := List.forall_mem_cons.mp h
    simp [hl, ih hls]

theorem splitOnce?_eq_some_iff {sep : Char} {t a b : Text} :
    splitOnce? sep t = some (a, b) ↔ t = a ++ sep :: b ∧ sep ∉ a := by
  induction t generalizing a with
  | nil => simp [splitOnce?]
  | cons c t ih =>
    rw [splitOnce?]
    split
    · next hc =>
      cases a with
      | nil => simp [hc]
      | cons d a =>
        simp only [Option.some.injEq, Prod.mk.injEq, List.cons_append, List.cons.injEq,
          List.mem_cons, not_or]
        constructor
        · rintro ⟨h, -⟩
          simp at h
        · rintro ⟨⟨rfl, -⟩, hne, -⟩
          exact absurd hc.symm hne
    · next hc =>
      rw [Option.map_eq_some_iff]
      constructor
      · rintro ⟨⟨d, e⟩, h, heq⟩
        obtain ⟨rfl, rfl⟩ := Prod.mk.inj heq
        obtain ⟨rfl, hd⟩ := ih.mp h
        rw [List.mem_cons, not_or]
        exact ⟨rfl, Ne.symm hc, hd⟩
      · rintro ⟨h, ha⟩
        cases a with
        | nil => exact absurd (List.cons.inj h).1 hc
        | cons d a =>
          obtain ⟨rfl, rfl⟩ := List.cons.inj h
          exact ⟨(a, b), ih.mpr ⟨rfl, fun hmem => ha (List.mem_cons_of_mem _ hmem)⟩, rfl⟩

@[simp] theorem startsWith_iff {p t : Text} : startsWith p t = true ↔ p <+: t := by
  rw [startsWith, Option.isSome_iff_exists]
  exact ⟨fun ⟨r, h⟩ => ⟨r, (dropPrefix?_eq_some_iff.mp h).symm⟩,
    fun ⟨r, h⟩ => ⟨r, dropPrefix?_eq_some_iff.mpr h.symm⟩⟩

section
variable {p : Char → Prop} (hdigit : ∀ c : Char, c.isDigit = true → p c)
include hdigit

theorem forall_mem_ofNat (n : Nat) : ∀ c ∈ ofNat n, p c := fun c hc =>
  hdigit c (Nat.isDigit_of_mem_toDigits (by decide) (by decide) hc)

theorem forall_mem_ofInt (hsign : p '-') (i : Int) : ∀ c ∈ ofInt i, p c := by
  rw [ofInt]
  split
  · exact List.forall_mem_cons.mpr ⟨hsign, forall_mem_ofNat hdigit _⟩
  · exact forall_mem_ofNat hdigit _

theorem forall_mem_zeros (n : Nat) : ∀ c ∈ List.replicate n '0', p c := fun c hc => by
  rw [List.eq_of_mem_replicate hc]
  exact hdigit '0' rfl

end

theorem not_mem_ofNat {c : Char} (hc : c.isDigit = false) (n : Nat) : c ∉ ofNat n := by
  intro h
  have hdigit : c.isDigit = true := forall_mem_ofNat (fun _ hd => hd) n c h
  rw [hc] at hdigit
  exact Bool.noConfusion hdigit

theorem toNat_of_isDigit {c : Char} (h : c.isDigit = true) : 48 ≤ c.toNat ∧ c.toNat ≤ 57 := by
  simp only [Char.isDigit, Bool.and_eq_true, decide_eq_true_eq, ge_iff_le,
    UInt32.le_iff_toNat_le] at h
  exact h

theorem isBlank_of_isDigit {c : Char} (h : c.isDigit = true) : isBlank c = false := by
  have hc := toNat_of_isDigit h
  simp only [isBlank, Bool.or_eq_false_iff, Bool.and_eq_false_iff, beq_eq_false_iff_ne,
    decide_eq_false_iff_not]
  omega

theorem isDigit_eq (c : Char) : isDigit c = c.isDigit := by
  simp [isDigit, Char.isDigit, Char.le_def]

theorem ofNat_injective : Function.Injective ofNat := by
  intro m n h
  have hvalue := congrArg (fun t => Nat.ofDigitChars 10 t 0) h
  simpa [ofNat] using hvalue

end Text
end TestBench
