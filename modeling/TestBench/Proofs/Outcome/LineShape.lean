import TestBench.Outcome.ConsoleLine
import TestBench.Proofs.Text.Shape

/-! The shapes that console reading looks for, as languages, and what the reading functions find of
them: the notice of a failed collection and the header of a failure block. -/
namespace TestBench
namespace LineShape

open Shape

/-- `collected 0 items / 2 errors`, with any white space and any positive number of digits. -/
def collectionNotice : Language Char :=
  word "collected" * (someRun Text.isBlank * (word "0" * (someRun Text.isBlank * (word "items" *
    (run Text.isBlank * (word "/" * (run Text.isBlank * (someRun Text.isAnyDigit *
      (someRun Text.isBlank * (word "error" * (1 + word "s")))))))))))

/-- `_____ name _____`: something between two rules and white space, and nothing after it. -/
def blockHeader : Language Char :=
  rule '_' * (someRun
    Text.isBlank * (something * (someRun Text.isBlank * (rule '_' * run Text.isBlank))))

theorem inRanges_eq_false {rs : List (Nat × Nat)} {low high n : Nat}
    (h : ∀ r ∈ rs, r.2 < low ∨ high < r.1) (hl : low ≤ n) (hh : n ≤ high) :
    Text.inRanges rs n = false := by
  by_contra hn
  rw [Bool.not_eq_false] at hn
  obtain ⟨r, hr, h₁, h₂⟩ := Text.inRanges_sound hn
  have := h r hr
  omega

theorem isAnyDigit_of_isBlank {c : Char} (h : Text.isBlank c = true) :
    Text.isAnyDigit c = false := by
  simp only [Text.isBlank, Bool.or_eq_true, Bool.and_eq_true, decide_eq_true_eq, beq_iff_eq] at h
  rw [Text.isAnyDigit]
  split
  · rename_i hc
    have : c.toNat < 48 := by omega
    simp only [Text.isDigit, Bool.and_eq_false_iff, decide_eq_false_iff_not, Char.not_le]
    exact .inl this
  · have between : ∀ low high, (∀ r ∈ Text.digitRanges, r.2 < low ∨ high < r.1) → low ≤ c.toNat →
        c.toNat ≤ high → Text.inRanges Text.digitRanges c.toNat = false :=
      fun _ _ => inRanges_eq_false
    rcases h with ((((((((((h | h) | h) | h) | h) | h) | h) | h) | h) | h) | h)
    · omega
    · omega
    · exact between 0x85 0xa0 (by decide) (by omega) (by omega)
    · exact between 0x85 0xa0 (by decide) (by omega) (by omega)
    · exact between 0x1680 0x1680 (by decide) (by omega) (by omega)
    all_goals exact between 0x2000 0x3000 (by decide) (by omega) (by omega)

theorem afterBlanks?_eq_some_iff {t r : Text} :
    ConsoleLine.afterBlanks? t = some r ↔
      t.head?.any Text.isBlank = true ∧ t.dropWhile Text.isBlank = r := by
  cases t with
  | nil => simp [ConsoleLine.afterBlanks?]
  | cons c t =>
    by_cases hc : Text.isBlank c = true <;> simp [ConsoleLine.afterBlanks?, hc, Text.trimStart]

theorem isSome_bind_iff {α β : Type} {o : Option α} {f : α → Option β} :
    (o.bind f).isSome = true ↔ ∃ a, o = some a ∧ (f a).isSome = true := by
  cases o <;> simp

theorem begins_word_blanks {L : Language Char} {t : Text} (w : String)
    (hL : Avoids Text.isBlank L) :
    Begins (word w * (someRun Text.isBlank * L)) t ↔
      ∃ r, (Text.dropPrefix? w.toList t).bind ConsoleLine.afterBlanks? = some r ∧ Begins L r := by
  simp only [begins_word_mul, begins_someRun_mul hL, Option.bind_eq_some_iff,
    afterBlanks?_eq_some_iff]
  constructor
  · rintro ⟨r, hr, hb, hr'⟩
    exact ⟨_, ⟨r, hr, hb, rfl⟩, hr'⟩
  · rintro ⟨_, ⟨r, hr, hb, rfl⟩, hr'⟩
    exact ⟨r, hr, hb, hr'⟩

theorem begins_word_mul_optional (w : String) (L : Language Char) (t : Text) :
    Begins (word w * (1 + L)) t ↔ (Text.dropPrefix? w.toList t).isSome = true := by
  rw [begins_word_mul, Option.isSome_iff_exists]
  refine exists_congr fun r => and_iff_left_of_imp fun _ => ?_
  exact ⟨[], (Language.mem_add _ _ _).mpr (.inl Language.nil_mem_one), r, rfl⟩

theorem begins_errorCount (t : Text) :
    Begins (someRun Text.isAnyDigit * (someRun Text.isBlank * (word "error" * (1 + word "s")))) t ↔
      Option.isSome (match t.span Text.isAnyDigit with
        | ([], _) => none
        | (_, r) =>
          (ConsoleLine.afterBlanks? r).bind (Text.dropPrefix? "error".toList)) = true := by
  have hblank : Avoids Text.isAnyDigit (someRun Text.isBlank * (word "error" * (1 + word "s"))) :=
    avoids_someRun_mul fun c hc => isAnyDigit_of_isBlank hc
  have hword : Avoids Text.isBlank (word "error" * (1 + word "s")) :=
    avoids_word_mul 'e' "error" "rror".toList rfl rfl
  rw [begins_someRun_mul hblank, begins_someRun_mul hword, begins_word_mul_optional,
    List.span_eq_takeWhile_dropWhile]
  cases t with
  | nil => simp
  | cons c t =>
    by_cases hc : Text.isAnyDigit c = true
    · simp only [List.takeWhile_cons_of_pos hc, List.head?_cons, Option.any_some, hc, true_and,
        isSome_bind_iff, afterBlanks?_eq_some_iff]
      exact ⟨fun ⟨hb, he⟩ => ⟨_, ⟨hb, rfl⟩, he⟩, fun ⟨_, ⟨hb, h⟩, he⟩ => ⟨hb, h ▸ he⟩⟩
    · simp [hc]

@[simp] theorem collectionErrorAt_iff (t : Text) :
    ConsoleLine.collectionErrorAt t = true ↔ Begins collectionNotice t := by
  have hnumber : Avoids Text.isBlank (someRun Text.isAnyDigit *
      (someRun Text.isBlank * (word "error" * (1 + word "s")))) := by
    refine avoids_someRun_mul fun c hc => Bool.eq_false_iff.mpr fun hb => ?_
    rw [isAnyDigit_of_isBlank hb] at hc
    exact Bool.false_ne_true hc
  rw [collectionNotice, begins_word_blanks _ (avoids_word_mul '0' "0" [] rfl rfl)]
  refine isSome_bind_iff.trans (exists_congr fun r₁ => and_congr_right fun _ => ?_)
  rw [begins_word_blanks _ (avoids_word_mul 'i' "items" "tems".toList rfl rfl)]
  refine isSome_bind_iff.trans (exists_congr fun r₂ => and_congr_right fun _ => ?_)
  rw [begins_word_mul]
  refine isSome_bind_iff.trans (exists_congr fun r₃ => and_congr_right fun _ => ?_)
  rw [begins_run_mul (avoids_word_mul '/' "/" [] rfl rfl), begins_word_mul]
  refine isSome_bind_iff.trans (exists_congr fun r₄ => and_congr_right fun _ => ?_)
  rw [begins_run_mul hnumber, begins_errorCount]
  rfl

theorem not_begins_nil : ¬Begins collectionNotice [] := by
  rw [← collectionErrorAt_iff]
  decide

@[simp] theorem hasCollectionError_iff (t : Text) :
    ConsoleLine.hasCollectionError t = true ↔ Contains collectionNotice t := by
  induction t with
  | nil =>
    refine iff_of_false (by decide) ?_
    rintro ⟨a, b, h, hb⟩
    obtain ⟨rfl, rfl⟩ := List.append_eq_nil_iff.mp h.symm
    exact not_begins_nil hb
  | cons c t ih =>
    rw [ConsoleLine.hasCollectionError, Bool.or_eq_true, collectionErrorAt_iff, ih, contains_cons]

theorem isSome_name_iff {before : Text} (hlast : before.head?.any Text.isBlank = true)
    (hfirst : before.getLast?.any Text.isBlank = true) :
    Option.isSome (match Text.trim before.reverse with
      | [] => if 3 ≤ before.length then (before.drop 1).head?.map fun c => [c] else none
      | name => some name) = true ↔ 3 ≤ before.length := by
  constructor
  · intro h
    by_contra hshort
    have hrun : before.reverse ∈ run Text.isBlank := by
      rcases before with _ | ⟨x, _ | ⟨y, _ | ⟨z, t⟩⟩⟩
      · simp at hlast
      · simpa using hlast
      · simpa [and_comm] using ⟨hlast, hfirst⟩
      · simp at hshort
    simp [trim_eq_nil_of_run hrun, hshort] at h
  · intro h
    split
    · rcases before with _ | ⟨x, _ | ⟨y, t⟩⟩ <;> simp_all
    · rfl

theorem exists_blanks_something_blanks {t : Text} (hfirst : t.head?.any Text.isBlank = true)
    (hlast : t.getLast?.any Text.isBlank = true) (hlen : 3 ≤ t.length) :
    ∃ a ∈ someRun Text.isBlank, ∃ m ∈ something, ∃ b ∈ someRun Text.isBlank, t = a ++ (m ++ b) := by
  rcases t with _ | ⟨x, t⟩
  · simp at hlen
  · rcases List.eq_nil_or_concat t with rfl | ⟨m, y, rfl⟩
    · simp at hlen
    · rw [List.concat_eq_append, ← List.cons_append, List.getLast?_concat] at hlast
      refine ⟨[x], by simpa using hfirst, m, ?_, [y], by simpa using hlast, by simp⟩
      rintro rfl
      simp at hlen

theorem isSome_blockHeader?_of_span {line left rest right before : Text}
    (hleft : line.span (· = '_') = (left, rest))
    (hright : (Text.trimEnd rest).reverse.span (· = '_') = (right, before))
    (hfirst : before ≠ [] → before.getLast? = rest.head?) :
    (ConsoleLine.blockHeader? line).isSome = true ↔
      5 ≤ left.length ∧ 5 ≤ right.length ∧ rest.head?.any Text.isBlank = true ∧
        before.head?.any Text.isBlank = true ∧ 3 ≤ before.length := by
  simp only [ConsoleLine.blockHeader?, hleft, hright]
  by_cases hl : left.length < 5 ∨ right.length < 5
  · simp only [if_pos hl, Option.isSome_none, Bool.false_eq_true, false_iff]
    omega
  · by_cases hb : (rest.head?.any Text.isBlank && before.head?.any Text.isBlank) = true
    · rw [if_neg hl, if_neg (by simp [hb])]
      rw [Bool.and_eq_true] at hb
      have hne : before ≠ [] := by
        rintro rfl
        simp at hb
      refine (isSome_name_iff hb.2 (by rw [hfirst hne]; exact hb.1)).trans ?_
      simp only [hb, true_and]
      omega
    · rw [Bool.not_eq_true] at hb
      rw [if_neg hl, if_pos (by rw [hb, Bool.not_false])]
      rw [← Bool.not_eq_true, Bool.and_eq_true] at hb
      simp only [Option.isSome_none, Bool.false_eq_true, false_iff]
      tauto

/-- A line is read as the header of a block exactly if it has the shape of one. -/
@[simp] theorem isSome_blockHeader?_iff (line : Text) :
    (ConsoleLine.blockHeader? line).isSome = true ↔ line ∈ blockHeader := by
  constructor
  · intro h
    obtain ⟨n, rest, hline, hleft⟩ := exists_span_rule '_' line
    obtain ⟨tail, htail, hrest⟩ := trimEnd_append_blanks rest
    obtain ⟨m, before, hback, hright⟩ := exists_span_rule '_' (Text.trimEnd rest).reverse
    rw [List.reverse_eq_iff, List.reverse_append, List.reverse_replicate] at hback
    rw [hback, List.append_assoc] at hrest
    have hfirst : before ≠ [] → before.getLast? = rest.head? := by
      intro hne
      rw [← hrest, List.head?_append_of_ne_nil _ (by simpa using hne), List.head?_reverse]
    rw [isSome_blockHeader?_of_span hleft hright hfirst, List.length_replicate,
      List.length_replicate] at h
    obtain ⟨hn, hm, hblank, hblank', hlen⟩ := h
    have hne : before ≠ [] := List.ne_nil_of_length_pos (by omega)
    obtain ⟨s₁, hs₁, name, hname, s₂, hs₂, hmid⟩ :=
      exists_blanks_something_blanks (t := before.reverse)
      (by rwa [List.head?_reverse, hfirst hne]) (by rwa [List.getLast?_reverse])
        (by simpa using hlen)
    rw [hmid, List.append_assoc, List.append_assoc] at hrest
    rw [hline, ← hrest]
    exact Language.append_mem_mul ⟨n, hn, rfl⟩
      (Language.append_mem_mul hs₁ (Language.append_mem_mul hname
      (Language.append_mem_mul hs₂ (Language.append_mem_mul ⟨m, hm, rfl⟩ htail))))
  · rintro ⟨_, ⟨n, hn, rfl⟩, _,
      ⟨s₁, hs₁, _, ⟨name, hname, _, ⟨s₂, hs₂, _, ⟨_, ⟨m, hm, rfl⟩, b, hb, rfl⟩, rfl⟩,
      rfl⟩, rfl⟩, rfl⟩
    obtain ⟨x, s₁, rfl⟩ := List.exists_cons_of_ne_nil hs₁.1
    obtain ⟨s₂, y, rfl⟩ : ∃ s y, s₂ = s ++ [y] := by
      rcases List.eq_nil_or_concat s₂ with h | ⟨s, y, h⟩
      · exact absurd h hs₂.1
      · exact ⟨s, y, by rw [h, List.concat_eq_append]⟩
    have hx : Text.isBlank x = true := hs₁.2 x (by simp)
    have hy : Text.isBlank y = true := hs₂.2 y (by simp)
    have hne : ∀ c, Text.isBlank c = true → c ≠ '_' := by
      rintro _ hc rfl
      exact absurd hc (by decide)
    let before := (x :: s₁ ++ (name ++ (s₂ ++ [y]))).reverse
    have hleft :
        (List.replicate n '_' ++
        (x :: s₁ ++ (name ++ (s₂ ++ [y] ++ (List.replicate m '_' ++ b))))).span
          (· = '_') = (List.replicate n '_', before.reverse ++ (List.replicate m '_' ++ b)) := by
      rw [span_rule (by simpa using hne x hx)]
      simp [before]
    have hright :
        (Text.trimEnd (before.reverse ++ (List.replicate m '_' ++ b))).reverse.span (· = '_') =
          (List.replicate m '_', before) := by
      rw [← List.append_assoc, trimEnd_append (fun c hc => ?_) hb, List.reverse_append,
        List.reverse_replicate, List.reverse_reverse, span_rule (by simpa [before] using hne y hy)]
      rw [List.getLast?_append_of_ne_nil _ (List.ne_nil_of_length_pos (by simp; omega))] at hc
      rw [List.eq_of_mem_replicate (List.mem_of_getLast? hc)]
      decide
    rw [isSome_blockHeader?_of_span hleft hright (fun _ => by
        simp only [before, List.getLast?_reverse, List.reverse_reverse, List.cons_append,
          List.head?_cons]),
      List.length_replicate, List.length_replicate]
    have hlen : 0 < name.length := List.length_pos_of_ne_nil hname
    refine ⟨hn, hm, by simpa [before] using hx, by simpa [before] using hy, ?_⟩
    simp only [before, List.length_reverse, List.length_append, List.length_cons]
    omega

end LineShape
end TestBench
