import TestBench.Outcome.Console
import TestBench.Proofs.Outcome.LineShape

/-! What a text states by number. A line counts passed or failed tests if it has a number before
such a word; its first number for the word is the one that is taken, and the last line with a number
is the summary of the text. -/
namespace TestBench
namespace LineShape

open Shape

def caseless (word : Text) : Language Char :=
  {t | List.Forall₂ (fun a c => ConsoleLine.standsFor a c = true) word t}

/-- A number, in digits of any script, and white space before a fixed word. -/
def count (word : Text) : Language Char :=
  someRun Text.isAnyDigit * (someRun Text.isBlank * caseless word)

/-- The number in the first count on a line, as it is written: no count begins before it. -/
def FirstCount (word line digits : Text) : Prop :=
  ∃ before after, line = before ++ (digits ++ after) ∧ digits ∈ someRun Text.isAnyDigit ∧
    Begins (someRun Text.isBlank * caseless word) after ∧
    ∀ a b, line = a ++ b → Begins (count word) b → before.length ≤ a.length

theorem toLower_of_isBlank {c : Char} (h : Text.isBlank c = true) : c.toLower = c := by
  simp only [Text.isBlank, Bool.or_eq_true, Bool.and_eq_true, decide_eq_true_eq, beq_iff_eq] at h
  refine dif_neg ?_
  rintro ⟨hl, hu⟩
  have hl' : 65 ≤ c.toNat := UInt32.le_iff_toNat_le.mp hl
  have hu' : c.toNat ≤ 90 := UInt32.le_iff_toNat_le.mp hu
  omega

theorem isBlank_of_standsFor {a c : Char} (h : ConsoleLine.standsFor a c = true)
    (ha : Text.isBlank a = false) :
    Text.isBlank c = false := by
  rw [ConsoleLine.standsFor, Bool.or_eq_true, Bool.and_eq_true, decide_eq_true_eq,
    decide_eq_true_eq, decide_eq_true_eq] at h
  rw [← Bool.not_eq_true]
  intro hc
  rcases h with h | ⟨-, h⟩
  · rw [toLower_of_isBlank hc] at h
    rw [h, ha] at hc
    cases hc
  · simp [Text.isBlank, h] at hc

theorem isSome_wordAt?_iff {word t : Text} : (ConsoleLine.wordAt? word t).isSome = true ↔
    Begins (caseless word) t := by
  induction word generalizing t with
  | nil => exact iff_of_true rfl ⟨[], .nil, t, rfl⟩
  | cons a word ih =>
    cases t with
    | nil =>
      refine iff_of_false (by simp [ConsoleLine.wordAt?]) ?_
      rintro ⟨m, hm, r, h⟩
      obtain ⟨rfl, -⟩ := List.append_eq_nil_iff.mp h.symm
      cases hm
    | cons c t =>
      have hstep : Begins (caseless (a :: word)) (c :: t) ↔
          ConsoleLine.standsFor a c = true ∧ Begins (caseless word) t := by
        constructor
        · rintro ⟨m, hm, r, h⟩
          cases hm with
          | cons hc hm =>
            obtain ⟨rfl, rfl⟩ := List.cons.inj h
            exact ⟨hc, _, hm, r, rfl⟩
        · rintro ⟨hc, m, hm, r, rfl⟩
          exact ⟨c :: m, .cons hc hm, r, rfl⟩
      rw [hstep, ← ih, ConsoleLine.wordAt?]
      split <;> simp [*]

def Solid (word : Text) : Prop := ∃ a w, word = a :: w ∧ Text.isBlank a = false

variable {word line digits : Text}

theorem Solid.avoids (h : Solid word) : Avoids Text.isBlank (caseless word) := by
  obtain ⟨a, w, rfl, ha⟩ := h
  rintro _ (_ | ⟨hc, _⟩)
  exact ⟨_, _, rfl, isBlank_of_standsFor hc ha⟩

theorem begins_blanks_word (h : Solid word) (t : Text) :
    Begins (someRun Text.isBlank * caseless word) t ↔
      ((ConsoleLine.afterBlanks? t).bind (ConsoleLine.wordAt? word)).isSome = true := by
  rw [begins_someRun_mul h.avoids, isSome_bind_iff]
  simp only [afterBlanks?_eq_some_iff, isSome_wordAt?_iff]
  exact ⟨fun ⟨hb, hw⟩ => ⟨_, ⟨hb, rfl⟩, hw⟩, fun ⟨_, ⟨hb, hr⟩, hw⟩ => ⟨hb, hr ▸ hw⟩⟩

theorem begins_count_iff {t : Text} : Begins (count word) t ↔ t.head?.any Text.isAnyDigit = true ∧
    Begins (someRun Text.isBlank * caseless word) (t.dropWhile Text.isAnyDigit) :=
  begins_someRun_mul (avoids_someRun_mul fun _ hc => isAnyDigit_of_isBlank hc)

theorem begins_count_of_digits {after : Text} (hdigits : digits ∈ someRun Text.isAnyDigit)
    (hafter : Begins (someRun Text.isBlank * caseless word) after) :
    Begins (count word) (digits ++ after) := by
  obtain ⟨m, hm, r, rfl⟩ := hafter
  exact ⟨_, Language.append_mem_mul hdigits hm, r, by rw [List.append_assoc]⟩

theorem takeWhile_count {after : Text} (hdigits : digits ∈ someRun Text.isAnyDigit)
    (hafter : Begins (someRun Text.isBlank * caseless word) after) :
    (digits ++ after).takeWhile Text.isAnyDigit = digits := by
  obtain ⟨_, ⟨b, hb, m, -, rfl⟩, r, rfl⟩ := hafter
  obtain ⟨c, b, rfl⟩ := List.exists_cons_of_ne_nil hb.1
  have hc : Text.isAnyDigit c = false := isAnyDigit_of_isBlank (hb.2 c List.mem_cons_self)
  have hspan :=
    span_append (p := Text.isAnyDigit) (b := (c :: b ++ m) ++ r) hdigits.2 (by simpa using hc)
  rw [List.span_eq_takeWhile_dropWhile] at hspan
  exact (Prod.ext_iff.mp hspan).1

theorem FirstCount.contains (h : FirstCount word line digits) : Contains (count word) line := by
  obtain ⟨before, after, rfl, hdigits, hafter, -⟩ := h
  exact ⟨before, _, rfl, begins_count_of_digits hdigits hafter⟩

theorem FirstCount.unique {digits' : Text} (h : FirstCount word line digits)
    (h' : FirstCount word line digits') :
    digits = digits' := by
  obtain ⟨before, after, hline, hdigits, hafter, hfirst⟩ := h
  obtain ⟨before', after', hline', hdigits', hafter', hfirst'⟩ := h'
  have hlen : before.length = before'.length := le_antisymm
    (hfirst _ _ hline' (begins_count_of_digits hdigits' hafter'))
      (hfirst' _ _ hline (begins_count_of_digits hdigits hafter))
  have hrest : digits ++ after = digits' ++ after' :=
    (List.append_inj (hline.symm.trans hline') hlen).2
  rw [← takeWhile_count hdigits hafter, hrest, takeWhile_count hdigits' hafter']

theorem counts_behind {run t : Text} {c : Char} (hrun : ∀ d ∈ run, Text.isAnyDigit d = true)
    (hc : Text.isAnyDigit c = false)
    (hno : ¬(run ≠ [] ∧ Begins (someRun Text.isBlank * caseless word) (c :: t))) {a b : Text}
    (h : run ++ c :: t = a ++ b) (hb : Begins (count word) b) :
    ∃ a', a = run ++ c :: a' ∧ t = a' ++ b := by
  rw [begins_count_iff] at hb
  rcases List.append_eq_append_iff.mp h with ⟨s, rfl, hs⟩ | ⟨s, rfl, rfl⟩
  · rcases s with _ | ⟨d, s⟩
    · rw [List.nil_append] at hs
      rw [← hs] at hb
      simp [hc] at hb
    · obtain ⟨rfl, rfl⟩ := List.cons.inj hs
      exact ⟨s, rfl, rfl⟩
  · have hs : s ∈ Shape.run Text.isAnyDigit := fun d hd => hrun d (List.mem_append_right _ hd)
    rw [dropWhile_append hs (by simpa using hc)] at hb
    refine absurd ⟨fun hnil => ?_, hb.2⟩ hno
    obtain ⟨-, rfl⟩ := List.append_eq_nil_iff.mp hnil
    simp [hc] at hb

/-- The reading of counts, with a run of digits just before the rest of the line. -/
theorem countFrom?_spec (hword : Solid word) {run : Text}
    (hrun : ∀ d ∈ run, Text.isAnyDigit d = true) (t : Text) :
    (∀ digits, ConsoleLine.countFrom? word run t = some digits →
      FirstCount word (run.reverse ++ t) digits) ∧
    (ConsoleLine.countFrom? word run t = none → ¬Contains (count word) (run.reverse ++ t)) := by
  induction t generalizing run with
  | nil =>
    refine ⟨by simp [ConsoleLine.countFrom?], fun _ => ?_⟩
    rintro ⟨a, b, h, hb⟩
    have hdigits : ∀ d ∈ b, Text.isAnyDigit d = true := by
      intro d hd
      refine hrun d (List.mem_reverse.mp ?_)
      rw [List.append_nil] at h
      rw [h]
      exact List.mem_append_right _ hd
    rw [begins_count_iff, List.dropWhile_eq_nil_iff.mpr hdigits, begins_blanks_word hword] at hb
    exact absurd hb.2 (by simp [ConsoleLine.afterBlanks?])
  | cons c t ih =>
    rw [ConsoleLine.countFrom?]
    by_cases hc : Text.isAnyDigit c = true
    · have hgrown := @ih (c :: run) (List.forall_mem_cons.mpr ⟨hc, hrun⟩)
      rw [if_pos hc]
      simpa using hgrown
    · rw [if_neg hc]
      rw [Bool.not_eq_true] at hc
      have hrun' : ∀ d ∈ run.reverse, Text.isAnyDigit d = true :=
        fun d hd => hrun d (List.mem_reverse.mp hd)
      split
      · next hhere =>
        rw [Bool.and_eq_true, ← begins_blanks_word hword] at hhere
        obtain ⟨hne, hword⟩ := hhere
        refine ⟨fun digits h => ?_, fun h => absurd h (Option.some_ne_none _)⟩
        obtain rfl := Option.some.inj h
        exact ⟨[], c :: t, rfl, ⟨by simpa using hne, hrun'⟩, hword, by simp⟩
      · next hhere =>
        rw [Bool.and_eq_true, ← begins_blanks_word hword] at hhere
        have hno : ¬(run.reverse ≠ [] ∧
            Begins (someRun Text.isBlank * caseless word) (c :: t)) := by
          simpa using hhere
        obtain ⟨hsome, hnone⟩ := @ih [] (by simp)
        constructor
        · intro digits h
          obtain ⟨before, after, rfl, hdigits, hafter, hfirst⟩ := hsome digits h
          refine ⟨run.reverse ++ c :: before, after, by simp, hdigits, hafter, fun a b hab hb => ?_⟩
          obtain ⟨a', rfl, ht⟩ := counts_behind hrun' hc hno hab hb
          have := hfirst a' b ht hb
          simp only [List.length_append, List.length_cons]
          omega
        · rintro h ⟨a, b, hab, hb⟩
          obtain ⟨a', -, ht⟩ := counts_behind hrun' hc hno hab hb
          exact hnone h ⟨a', b, ht, hb⟩

theorem countFrom?_eq_none_iff (hword : Solid word) :
    ConsoleLine.countFrom? word [] line = none ↔ ¬Contains (count word) line := by
  obtain ⟨hsome, hnone⟩ := countFrom?_spec hword (List.forall_mem_nil _) line
  refine ⟨hnone, fun h => ?_⟩
  cases hcount : ConsoleLine.countFrom? word [] line with
  | none => rfl
  | some digits => exact absurd (hsome digits hcount).contains h

theorem countFrom?_eq_some_iff (hword : Solid word) :
    ConsoleLine.countFrom? word [] line = some digits ↔ FirstCount word line digits := by
  obtain ⟨hsome, hnone⟩ := countFrom?_spec hword (List.forall_mem_nil _) line
  refine ⟨hsome digits, fun h => ?_⟩
  cases hcount : ConsoleLine.countFrom? word [] line with
  | none => exact absurd h.contains (hnone hcount)
  | some digits' => rw [(hsome digits' hcount).unique h]

def StatesCounts (line : Text) : Prop :=
  Contains (count "passed".toList) line ∨ Contains (count "failed".toList) line

/-- The number that a line states before a word, in ASCII digits; it is zero if the line states
none. -/
def States (word line : Text) (n : Nat) : Prop :=
  (¬Contains (count word) line ∧ n = 0) ∨ ∃ digits, FirstCount word line digits ∧
    Text.toNat? digits = some n

/-- The numbers on the last line of a text that states some. -/
def Summary (text : Text) (passed failed : Nat) : Prop :=
  ∃ before line after, Text.lines text = before ++ line :: after ∧ StatesCounts line ∧
    (∀ l ∈ after, ¬StatesCounts l) ∧
    States "passed".toList line passed ∧ States "failed".toList line failed

theorem solid_passed : Solid "passed".toList := ⟨'p', _, rfl, by decide⟩

theorem solid_failed : Solid "failed".toList := ⟨'f', _, rfl, by decide⟩

theorem summary_of_line {text p f : Text} {passed failed : Nat} (hlines : Text.lines text = [text])
    (hp : ConsoleLine.countFrom? "passed".toList [] text = some p)
    (hpassed : Text.toNat? p = some passed)
    (hf : ConsoleLine.countFrom? "failed".toList [] text = some f)
    (hfailed : Text.toNat? f = some failed) :
    Summary text passed failed := by
  have hfirst := (countFrom?_eq_some_iff solid_passed).mp hp
  have hfirst' := (countFrom?_eq_some_iff solid_failed).mp hf
  exact ⟨[], text, [], hlines, .inl hfirst.contains, List.forall_mem_nil _,
    .inr ⟨p, hfirst, hpassed⟩, .inr ⟨f, hfirst', hfailed⟩⟩

@[simp] theorem hasCounts_iff : Console.hasCounts line = true ↔ StatesCounts line := by
  have hcount : ∀ {word}, Solid word →
      ((ConsoleLine.countFrom? word [] line).isSome = true ↔ Contains (count word) line) := by
    intro word hword
    rw [← not_iff_not, ← countFrom?_eq_none_iff hword, Bool.not_eq_true, Option.isSome_eq_false_iff,
      Option.isNone_iff_eq_none]
  rw [Console.hasCounts, Bool.or_eq_true]
  exact or_congr (hcount solid_passed) (hcount solid_failed)

theorem countValue_of_states {n : Nat} (hword : Solid word) (h : States word line n)
    (hn : n < UInt64.size) :
    ConsoleLine.countValue (ConsoleLine.countFrom? word [] line) = n := by
  rcases h with ⟨hno, rfl⟩ | ⟨digits, hfirst, hvalue⟩
  · rw [(countFrom?_eq_none_iff hword).mpr hno]
    rfl
  · rw [(countFrom?_eq_some_iff hword).mpr hfirst]
    simp [ConsoleLine.countValue, hvalue, Option.filter, hn]

theorem find?_hasCounts {lines before after : List Text} (hlines : lines = before ++ line :: after)
    (hline : StatesCounts line) (hafter : ∀ l ∈ after, ¬StatesCounts l) :
    lines.reverse.find? Console.hasCounts = some line := by
  refine List.find?_eq_some_iff_append.mpr ⟨hasCounts_iff.mpr hline, after.reverse,
    before.reverse, by simp [hlines], ?_⟩
  intro l hl
  rw [Bool.not_eq_true', ← Bool.not_eq_true, hasCounts_iff]
  exact hafter l (List.mem_reverse.mp hl)

end LineShape
end TestBench
