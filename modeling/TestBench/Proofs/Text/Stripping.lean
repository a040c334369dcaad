import Mathlib.Computability.Language
import TestBench.Proofs.Text.Ansi
import TestBench.Proofs.Text.Shape

/-! What stripping takes away. It goes over a text once, so that a sequence with other sequences
inside of it comes together again; these are the only sequences that are left. -/
namespace TestBench
namespace Text
namespace Ansi

open Computability

variable {r s t u v : Text} {c : Char} {p : Char → Bool}

/-- Control sequences: the escape character and a bracket, any parameters, a letter. -/
def sequence : Language Char :=
  {t | ∃ ps ∈ Shape.run isParameter, ∃ c, isLetter c = true ∧ t = escape :: '[' :: (ps ++ [c])}

theorem isLetter_of_isParameter (h : isParameter c = true) : isLetter c = false := by
  simp only [isParameter, isDigit, isLetter, Bool.or_eq_true, Bool.and_eq_true, decide_eq_true_eq,
    Bool.or_eq_false_iff, Bool.and_eq_false_iff, decide_eq_false_iff_not, Char.le_def,
    UInt32.le_iff_toNat_le] at h ⊢
  rcases h with h | rfl
  · have hdigit : c.val.toNat ≤ 57 := h.2
    exact ⟨.inl fun hc => absurd (le_trans hc hdigit) (by decide),
      .inl fun hc => absurd (le_trans hc hdigit) (by decide)⟩
  · exact ⟨.inl (by decide), .inl (by decide)⟩

theorem afterFinal?_append_of_run (hs : s ∈ Shape.run isParameter) (t : Text) :
    afterFinal? (s ++ t) = afterFinal? t := by
  induction s with
  | nil => rfl
  | cons c s ih =>
    obtain ⟨hc, hs⟩ := List.forall_mem_cons.mp hs
    rw [List.cons_append, afterFinal?, isLetter_of_isParameter hc, if_neg Bool.false_ne_true,
      if_pos hc]
    exact ih hs

theorem afterFinal?_eq_some_iff :
    afterFinal? t = some r ↔ ∃ ps ∈ Shape.run isParameter, ∃ c, isLetter c = true ∧
    t = ps ++ c :: r := by
  constructor
  · intro h
    induction t with
    | nil => cases h
    | cons c t ih =>
      rw [afterFinal?] at h
      split at h
      · next hc => exact ⟨[], by simp, c, hc, by rw [Option.some.inj h]; rfl⟩
      · split at h
        · next hc =>
          obtain ⟨ps, hps, d, hd, rfl⟩ := ih h
          exact ⟨c :: ps, List.forall_mem_cons.mpr ⟨hc, hps⟩, d, hd, rfl⟩
        · cases h
  · rintro ⟨ps, hps, c, hc, rfl⟩
    rw [afterFinal?_append_of_run hps, afterFinal?, if_pos hc]

@[simp] theorem afterSequence?_escape (t : Text) :
    afterSequence? (escape :: '[' :: t) = afterFinal? t := by
  rw [afterSequence?, if_pos ⟨rfl, rfl⟩]

theorem afterSequence?_eq_some_iff : afterSequence? t = some r ↔ ∃ s ∈ sequence, t = s ++ r := by
  constructor
  · intro h
    rcases t with _ | ⟨e, _ | ⟨b, t⟩⟩
    · cases h
    · cases h
    · rw [afterSequence?] at h
      split at h
      · next hstart =>
        obtain ⟨rfl, rfl⟩ := hstart
        obtain ⟨ps, hps, c, hc, rfl⟩ := afterFinal?_eq_some_iff.mp h
        exact ⟨_, ⟨ps, hps, c, hc, rfl⟩, by simp⟩
      · cases h
  · rintro ⟨_, ⟨ps, hps, c, hc, rfl⟩, rfl⟩
    rw [List.cons_append, List.cons_append, afterSequence?_escape, afterFinal?_eq_some_iff]
    exact ⟨ps, hps, c, hc, by simp⟩

theorem hasSequence_iff : HasSequence t ↔ ∃ s ∈ sequence, s <:+: t := by
  constructor
  · rintro ⟨a, b, rfl, hb⟩
    obtain ⟨r, hr⟩ := Option.isSome_iff_exists.mp hb
    obtain ⟨s, hs, rfl⟩ := afterSequence?_eq_some_iff.mp hr
    exact ⟨s, hs, a, r, by simp⟩
  · rintro ⟨s, hs, a, b, rfl⟩
    exact ⟨a, s ++ b, by simp,
      Option.isSome_iff_exists.mpr ⟨b, afterSequence?_eq_some_iff.mpr ⟨s, hs, rfl⟩⟩⟩

@[simp] theorem strip_append_of_sequence (hs : s ∈ sequence) (t : Text) :
    strip (s ++ t) = strip t :=
  strip_of_afterSequence? (afterSequence?_eq_some_iff.mpr ⟨s, hs, rfl⟩)

theorem strip_cons_of_ne (hc : c ≠ escape) (t : Text) : strip (c :: t) = c :: strip t :=
  strip_cons_of_none (afterSequence?_cons_of_ne hc t)

/-- Texts are stripped apart if the second one begins with a character that is never inside of a
sequence. -/
theorem strip_append_of_halts (hc : Halts c) (s t : Text) :
    strip (s ++ c :: t) = strip s ++ strip (c :: t) := by
  induction s using strip.induct with
  | case1 => simp
  | case2 d s r hr ih =>
    have happend := afterSequence?_append_of_halts hc (List.cons_ne_nil d s) t
    rw [hr] at happend
    rw [strip_of_afterSequence? happend, strip_of_afterSequence? hr, ih]
  | case3 d s hnone ih =>
    have happend := afterSequence?_append_of_halts hc (List.cons_ne_nil d s) t
    rw [hnone] at happend
    rw [List.cons_append] at happend ⊢
    rw [strip_cons_of_none happend, strip_cons_of_none hnone, ih, List.cons_append]

theorem strip_sublist (t : Text) : (strip t).Sublist t := by
  induction t using strip.induct with
  | case1 => simp
  | case2 c t r hr ih =>
    rw [strip_of_afterSequence? hr]
    exact ih.trans (suffix_of_afterSequence? hr).sublist
  | case3 c t hnone ih =>
    rw [strip_cons_of_none hnone]
    exact ih.cons_cons c

@[simp] theorem strip_eq_self_iff : strip t = t ↔ ¬HasSequence t := by
  constructor
  · rintro h ⟨a, b, rfl, hb⟩
    obtain ⟨r, hr⟩ := Option.isSome_iff_exists.mp hb
    obtain ⟨b, rfl⟩ : ∃ b', b = escape :: b' :=
      List.head?_eq_some_iff.mp (head?_of_isSome_afterSequence? hb)
    have hlength := congrArg List.length h
    rw [strip_append_of_halts (by decide), strip_of_afterSequence? hr, List.length_append,
      List.length_append] at hlength
    have hshort := afterSequence?_length hr
    have ha := (strip_sublist a).length_le
    have hr' := (strip_sublist r).length_le
    omega
  · intro h
    induction t with
    | nil => simp
    | cons c t ih =>
      have hnone : afterSequence? (c :: t) = none := by
        by_contra hsome
        exact h ⟨[], _, rfl, Option.isSome_iff_ne_none.mpr hsome⟩
      rw [strip_cons_of_none hnone,
        ih fun hseq => h (hseq.of_isInfix (List.suffix_cons c t).isInfix)]

theorem append_mem_kstar {L : Language Char} (hs : s ∈ L) (hu : u ∈ L∗) : s ++ u ∈ L∗ :=
  (mul_kstar_le_kstar : L * L∗ ≤ L∗) (Language.append_mem_mul hs hu)

theorem kstar_induction {L : Language Char} {motive : (u : Text) → u ∈ L∗ → Prop}
    (nil : motive [] (Language.nil_mem_kstar L))
    (append : ∀ s (hs : s ∈ L) u (hu : u ∈ L∗), motive u hu →
      motive (s ++ u) (append_mem_kstar hs hu)) {u : Text}
    (hu : u ∈ L∗) : motive u hu := by
  obtain ⟨ss, rfl, hss⟩ := Language.mem_kstar.mp hu
  induction ss with
  | nil => exact nil
  | cons s ss ih =>
    obtain ⟨hs, hss⟩ := List.forall_mem_cons.mp hss
    exact append s hs _ _ (ih hss (Language.join_mem_kstar hss))

/-- A character of a kind, behind any number of sequences. -/
def behind (p : Char → Bool) : Language Char :=
  {t | ∃ u ∈ sequence∗, ∃ c, p c = true ∧ t = u ++ [c]}

/-- The form of a sequence, but with any number of sequences between its characters. -/
def nested : Language Char :=
  {t | ∃ b ∈ behind (· = '['), ∃ ps ∈ (behind isParameter)∗, ∃ f ∈ behind isLetter,
    t = escape :: (b ++ ps ++ f)}

theorem strip_append_of_mem_kstar (hu : u ∈ sequence∗) (t : Text) : strip (u ++ t) = strip t := by
  induction hu using kstar_induction with
  | nil => rfl
  | append s hs u _ ih => rw [List.append_assoc, strip_append_of_sequence hs, ih]

theorem exists_of_strip_eq_cons (h : strip t = c :: v) :
    ∃ u ∈ sequence∗, ∃ r, t = u ++ c :: r ∧ v = strip r := by
  induction t using strip.induct with
  | case1 => simp at h
  | case2 d t r hr ih =>
    rw [strip_of_afterSequence? hr] at h
    obtain ⟨s, hs, hst⟩ := afterSequence?_eq_some_iff.mp hr
    obtain ⟨u, hu, r', rfl, hv⟩ := ih h
    exact ⟨s ++ u, append_mem_kstar hs hu, r', by rw [hst, List.append_assoc], hv⟩
  | case3 d t hnone ih =>
    rw [strip_cons_of_none hnone, List.cons.injEq] at h
    obtain ⟨rfl, rfl⟩ := h
    exact ⟨[], Language.nil_mem_kstar _, t, rfl, rfl⟩

theorem exists_behind_of_strip_eq_cons (h : strip t = c :: v) (hc : p c = true) :
    ∃ m ∈ behind p, ∃ r, t = m ++ r ∧ v = strip r := by
  obtain ⟨u, hu, r, rfl, hv⟩ := exists_of_strip_eq_cons h
  exact ⟨u ++ [c], ⟨u, hu, c, hc, rfl⟩, r, by simp, hv⟩

theorem strip_behind (hm : s ∈ behind p) (hp : p escape = false) :
    ∃ c, p c = true ∧ ∀ t, strip (s ++ t) = c :: strip t := by
  obtain ⟨u, hu, c, hc, rfl⟩ := hm
  have hne : c ≠ escape := by
    rintro rfl
    rw [hc] at hp
    cases hp
  refine ⟨c, hc, fun t => ?_⟩
  rw [List.append_assoc, strip_append_of_mem_kstar hu]
  exact strip_cons_of_ne hne t

theorem strip_behind_kstar (hs : s ∈ (behind p)∗) (hp : p escape = false) :
    ∃ ps ∈ Shape.run p, ∀ t, strip (s ++ t) = ps ++ strip t := by
  induction hs using kstar_induction with
  | nil => exact ⟨[], by simp, fun _ => rfl⟩
  | append m hm u _ ih =>
    obtain ⟨c, hc, hfirst⟩ := strip_behind hm hp
    obtain ⟨ps, hps, hrest⟩ := ih
    refine ⟨c :: ps, List.forall_mem_cons.mpr ⟨hc, hps⟩, fun t => ?_⟩
    rw [List.append_assoc, hfirst, hrest, List.cons_append]

theorem isSome_afterFinal?_strip (h : (afterFinal? (strip t)).isSome) :
    ∃ ps ∈ (behind isParameter)∗, ∃ f ∈ behind isLetter, ∃ r, t = ps ++ f ++ r := by
  generalize hv : strip t = v at h
  induction v generalizing t with
  | nil => cases h
  | cons c v ih =>
    rw [afterFinal?] at h
    split at h
    · next hc =>
      obtain ⟨f, hf, r, rfl, -⟩ := exists_behind_of_strip_eq_cons hv hc
      exact ⟨[], Language.nil_mem_kstar _, f, hf, r, rfl⟩
    · split at h
      · next hc =>
        obtain ⟨m, hm, r, rfl, hrest⟩ := exists_behind_of_strip_eq_cons hv hc
        obtain ⟨ps, hps, f, hf, r', rfl⟩ := ih hrest.symm h
        exact ⟨m ++ ps, append_mem_kstar hm hps, f, hf, r', by simp⟩
      · cases h

/-- An escape character begins a sequence of what is left exactly where it begins a nested one. -/
theorem isSome_afterSequence?_escape_strip :
    (afterSequence? (escape :: strip t)).isSome ↔ ∃ m r, escape :: m ∈ nested ∧ t = m ++ r := by
  constructor
  · intro h
    cases hv : strip t with
    | nil =>
      rw [hv] at h
      cases h
    | cons c v =>
      rw [hv, afterSequence?] at h
      split at h
      · next hstart =>
        obtain ⟨b, hb, r, rfl, rfl⟩ :=
          exists_behind_of_strip_eq_cons (p := (· = '[')) hv (by simpa using hstart.2)
        obtain ⟨ps, hps, f, hf, r', rfl⟩ := isSome_afterFinal?_strip h
        exact ⟨b ++ ps ++ f, r', ⟨b, hb, ps, hps, f, hf, rfl⟩, by simp⟩
      · cases h
  · rintro ⟨m, r, ⟨b, hb, ps, hps, f, hf, heq⟩, rfl⟩
    obtain rfl := (List.cons.inj heq).2
    obtain ⟨c, hc, hbracket⟩ := strip_behind hb (by decide)
    obtain ⟨qs, hqs, hparameters⟩ := strip_behind_kstar hps (by decide)
    obtain ⟨d, hd, hfinal⟩ := strip_behind hf (by decide)
    rw [List.append_assoc, List.append_assoc, hbracket, hparameters, hfinal, of_decide_eq_true hc,
      afterSequence?_escape, afterFinal?_append_of_run hqs, afterFinal?, if_pos hd]
    rfl

theorem exists_of_strip_eq_append (h : strip t = u ++ escape :: v) :
    ∃ a b, t = a ++ escape :: b ∧ afterSequence? (escape :: b) = none ∧ v = strip b := by
  induction t using strip.induct generalizing u with
  | case1 => simp at h
  | case2 c t r hr ih =>
    rw [strip_of_afterSequence? hr] at h
    obtain ⟨s, -, hst⟩ := afterSequence?_eq_some_iff.mp hr
    obtain ⟨a, b, rfl, hb⟩ := ih h
    exact ⟨s ++ a, b, by rw [hst, List.append_assoc], hb⟩
  | case3 c t hnone ih =>
    rw [strip_cons_of_none hnone] at h
    cases u with
    | nil =>
      obtain ⟨rfl, rfl⟩ := List.cons.inj h
      exact ⟨[], t, rfl, hnone, rfl⟩
    | cons d u =>
      obtain ⟨a, b, rfl, hb⟩ := ih (List.cons.inj h).2
      exact ⟨c :: a, b, rfl, hb⟩

theorem hasSequence_strip_iff : HasSequence (strip t) ↔
    ∃ a b, t = a ++ escape :: b ∧ afterSequence? (escape :: b) = none ∧
    (afterSequence? (escape :: strip b)).isSome := by
  constructor
  · rintro ⟨x, y, hxy, hy⟩
    obtain ⟨y, rfl⟩ : ∃ y', y = escape :: y' :=
      List.head?_eq_some_iff.mp (head?_of_isSome_afterSequence? hy)
    obtain ⟨a, b, rfl, hnone, rfl⟩ := exists_of_strip_eq_append hxy
    exact ⟨a, b, rfl, hnone, hy⟩
  · rintro ⟨a, b, rfl, hnone, hb⟩
    rw [strip_append_of_halts (by decide), strip_cons_of_none hnone]
    exact ⟨strip a, _, rfl, hb⟩

theorem eq_nil_of_mem_kstar (hu : u ∈ sequence∗) (h : (u ++ t).head? ≠ some escape) : u = [] := by
  induction hu using kstar_induction with
  | nil => rfl
  | append s hs u _ _ =>
    obtain ⟨ps, -, c, -, rfl⟩ := hs
    exact absurd rfl h

theorem head?_ne_of_isSome_afterFinal? (h : (afterFinal? t).isSome) : t.head? ≠ some escape := by
  intro hhead
  obtain ⟨t, rfl⟩ := List.head?_eq_some_iff.mp hhead
  cases h

theorem mem_run_of_isSome_afterFinal? (hs : s ∈ (behind isParameter)∗)
    (h : (afterFinal? (s ++ t)).isSome) :
    s ∈ Shape.run isParameter := by
  induction hs using kstar_induction with
  | nil => simp
  | append m hm u _ ih =>
    obtain ⟨w, hw, c, hc, rfl⟩ := hm
    simp only [List.append_assoc] at h
    obtain rfl := eq_nil_of_mem_kstar hw (head?_ne_of_isSome_afterFinal? h)
    have hrun : [c] ∈ Shape.run isParameter := by simpa using hc
    rw [List.nil_append, afterFinal?_append_of_run hrun] at h
    exact List.forall_mem_cons.mpr ⟨hc, ih h⟩

theorem mem_sequence_of_nested (hs : s ∈ nested) (h : (afterSequence? (s ++ r)).isSome) :
    s ∈ sequence := by
  obtain ⟨_, ⟨u, hu, b, hb, rfl⟩, ps, hps, _, ⟨w, hw, f, hf, rfl⟩, rfl⟩ := hs
  obtain rfl : b = '[' := of_decide_eq_true hb
  simp only [List.append_assoc, List.cons_append, List.nil_append] at h
  obtain rfl : u = [] := by
    refine eq_nil_of_mem_kstar (t := '[' :: (ps ++ (w ++ f :: r))) hu fun hhead => ?_
    obtain ⟨x, hx⟩ := List.head?_eq_some_iff.mp hhead
    rw [hx, afterSequence?, if_neg fun hstart => absurd hstart.2 (by decide)] at h
    cases h
  rw [List.nil_append, afterSequence?_escape] at h
  have hrun := mem_run_of_isSome_afterFinal? hps h
  rw [afterFinal?_append_of_run hrun] at h
  obtain rfl := eq_nil_of_mem_kstar hw (head?_ne_of_isSome_afterFinal? h)
  exact ⟨ps, hrun, f, hf, by simp⟩

/-- The sequences that are left come from nested ones: a sequence is left exactly where the text has
one with others inside of it, and then stripping again changes the text again. -/
theorem sequence_left_iff (t : Text) :
    ((∃ s ∈ sequence, s <:+: strip t) ↔ ∃ m ∈ nested, m ∉ sequence ∧ m <:+: t) ∧
    (strip (strip t) = strip t ↔ ¬∃ m ∈ nested, m ∉ sequence ∧ m <:+: t) := by
  have hleft : HasSequence (strip t) ↔ ∃ m ∈ nested, m ∉ sequence ∧ m <:+: t := by
    rw [hasSequence_strip_iff]
    constructor
    · rintro ⟨a, b, rfl, hnone, hb⟩
      obtain ⟨m, r, hm, rfl⟩ := isSome_afterSequence?_escape_strip.mp hb
      refine ⟨escape :: m, hm, fun hseq => ?_, a, r, by simp⟩
      have hsome :=
        afterSequence?_eq_some_iff.mpr ⟨_, hseq, (List.cons_append : (escape :: m) ++ r = _).symm⟩
      rw [hnone] at hsome
      cases hsome
    · rintro ⟨m, hm, hseq, a, r, rfl⟩
      have hnone : afterSequence? (m ++ r) = none := by
        by_contra hsome
        exact hseq (mem_sequence_of_nested hm (Option.isSome_iff_ne_none.mpr hsome))
      obtain ⟨b, rfl⟩ : ∃ b, m = escape :: b := by
        obtain ⟨_, -, _, -, _, -, rfl⟩ := hm
        exact ⟨_, rfl⟩
      exact ⟨a, b ++ r, by simp, hnone, isSome_afterSequence?_escape_strip.mpr ⟨b, r, hm, rfl⟩⟩
  exact ⟨hasSequence_iff.symm.trans hleft, strip_eq_self_iff.trans (not_congr hleft)⟩

/-- A sequence right behind the escape character of another one, which comes together when it
goes. -/
theorem sequence_comes_together :
    strip (escape :: escape :: "[m[m".toList) = escape :: "[m".toList ∧
    (∃ s ∈ sequence, s <:+: strip (escape :: escape :: "[m[m".toList)) ∧
    strip (strip (escape :: escape :: "[m[m".toList)) ≠
      strip (escape :: escape :: "[m[m".toList) := by
  have hstrip : strip (escape :: escape :: "[m[m".toList) = escape :: "[m".toList := by
    decide +kernel
  have hsequence : escape :: "[m".toList ∈ sequence := ⟨[], by simp, 'm', rfl, rfl⟩
  rw [hstrip]
  exact ⟨rfl, ⟨_, hsequence, List.infix_rfl⟩, by decide +kernel⟩

end Ansi
end Text
end TestBench
