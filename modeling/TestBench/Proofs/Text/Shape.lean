import Mathlib.Computability.Language
import Mathlib.Data.List.TakeWhile
import TestBench.Text.Word

/-! Shapes of texts as languages: fixed words, runs of characters of one kind, and their
concatenations. The reading functions take runs as long as they are; the lemmas below say when
that finds a member of a concatenation. -/
namespace TestBench
namespace Shape

variable {p : Char → Bool} {L : Language Char} {t : Text}

/-- A fixed word alone. -/
def word (s : String) : Language Char := {s.toList}

/-- Any number of characters of one kind. -/
def run (p : Char → Bool) : Language Char := {t | ∀ c ∈ t, p c = true}

/-- One character of a kind at least. -/
def someRun (p : Char → Bool) : Language Char := {t | t ≠ [] ∧ ∀ c ∈ t, p c = true}

/-- One character at least, of any kind. -/
def something : Language Char := {t | t ≠ []}

/-- A rule: five or more times the same character. -/
def rule (c : Char) : Language Char := {t | ∃ n, 5 ≤ n ∧ t = List.replicate n c}

@[simp] theorem mem_run : t ∈ run p ↔ ∀ c ∈ t, p c = true := Iff.rfl

@[simp] theorem mem_someRun : t ∈ someRun p ↔ t ≠ [] ∧ ∀ c ∈ t, p c = true := Iff.rfl

@[simp] theorem mem_something : t ∈ something ↔ t ≠ [] := Iff.rfl

/-- A text that begins with a member. -/
def Begins (L : Language Char) (t : Text) : Prop := ∃ m ∈ L, ∃ r, t = m ++ r

/-- A text in which a member stands somewhere. -/
def Contains (L : Language Char) (t : Text) : Prop := ∃ a b, t = a ++ b ∧ Begins L b

/-- All members begin with a character that is not of a kind. -/
def Avoids (p : Char → Bool) (L : Language Char) : Prop := ∀ m ∈ L, ∃ c r, m = c :: r ∧ p c = false

@[simp] theorem contains_cons (c : Char) :
    Contains L (c :: t) ↔ Begins L (c :: t) ∨ Contains L t := by
  constructor
  · rintro ⟨a, b, h, hb⟩
    cases a with
    | nil => exact .inl (by rwa [← List.nil_append b, ← h] at hb)
    | cons x a =>
      rw [List.cons_append, List.cons.injEq] at h
      exact .inr ⟨a, b, h.2, hb⟩
  · rintro (h | ⟨a, b, h, hb⟩)
    · exact ⟨[], c :: t, rfl, h⟩
    · exact ⟨c :: a, b, by rw [h, List.cons_append], hb⟩

theorem begins_word_mul (w : String) :
    Begins (word w * L) t ↔ ∃ r, Text.dropPrefix? w.toList t = some r ∧ Begins L r := by
  constructor
  · rintro ⟨_, ⟨_, rfl, m, hm, rfl⟩, r, rfl⟩
    refine ⟨m ++ r, ?_, m, hm, r, rfl⟩
    rw [List.append_assoc]
    exact Text.dropPrefix?_append _ _
  · rintro ⟨r, hr, m, hm, r', rfl⟩
    refine ⟨_, Language.append_mem_mul rfl hm, r', ?_⟩
    rw [Text.eq_append_of_dropPrefix? hr, List.append_assoc]

theorem dropWhile_append {a b : Text} (ha : a ∈ run p) (hb : ∀ c, b.head? = some c → p c = false) :
    (a ++ b).dropWhile p = b := by
  rw [List.dropWhile_append_of_pos ha]
  cases b with
  | nil => rfl
  | cons c b => rw [List.dropWhile_cons_of_neg (by simp [hb c rfl])]

theorem span_append {a b : Text} (ha : a ∈ run p) (hb : ∀ c, b.head? = some c → p c = false) :
    (a ++ b).span p = (a, b) := by
  have htake : b.takeWhile p = [] := by
    cases b with
    | nil => rfl
    | cons c b => rw [List.takeWhile_cons_of_neg (by simp [hb c rfl])]
  rw [List.span_eq_takeWhile_dropWhile, dropWhile_append ha hb, List.takeWhile_append_of_pos ha,
    htake, List.append_nil]

theorem takeWhile_mem_run (p : Char → Bool) (t : Text) : t.takeWhile p ∈ run p :=
  fun _ hc => List.mem_takeWhile_imp hc

theorem begins_run_mul (hL : Avoids p L) : Begins (run p * L) t ↔ Begins L (t.dropWhile p) := by
  constructor
  · rintro ⟨_, ⟨a, ha, m, hm, rfl⟩, r, rfl⟩
    obtain ⟨c, m', rfl, hc⟩ := hL m hm
    refine ⟨c :: m', hm, r, ?_⟩
    rw [List.append_assoc]
    exact dropWhile_append ha (by simpa using hc)
  · rintro ⟨m, hm, r, h⟩
    refine ⟨_, Language.append_mem_mul (takeWhile_mem_run p t) hm, r, ?_⟩
    rw [List.append_assoc, ← h, List.takeWhile_append_dropWhile]

/-- A run that has to be there is one that begins with a character of its kind. -/
theorem begins_someRun_mul (hL : Avoids p L) :
    Begins (someRun p * L) t ↔ t.head?.any p = true ∧ Begins L (t.dropWhile p) := by
  have hsub : ∀ m ∈ someRun p, m ∈ run p := fun m hm => hm.2
  constructor
  · rintro ⟨_, ⟨a, ha, m, hm, rfl⟩, r, rfl⟩
    refine ⟨?_, (begins_run_mul hL).mp ⟨_, Language.append_mem_mul (hsub a ha) hm, r, rfl⟩⟩
    obtain ⟨c, a', rfl⟩ := List.exists_cons_of_ne_nil ha.1
    simpa using ha.2 c (by simp)
  · rintro ⟨hh, m, hm, r, h⟩
    cases t with
    | nil => simp at hh
    | cons c t =>
      have hc : p c = true := by simpa using hh
      have ha : (c :: t).takeWhile p ∈ someRun p :=
        ⟨by simp [hc], takeWhile_mem_run p _⟩
      refine ⟨_, Language.append_mem_mul ha hm, r, ?_⟩
      rw [List.append_assoc, ← h, List.takeWhile_append_dropWhile]

theorem avoids_word_mul (c : Char) (w : String) (s : Text) (hw : w.toList = c :: s)
    (hc : p c = false) : Avoids p (word w * L) := by
  rintro _ ⟨_, rfl, m, _, rfl⟩
  exact ⟨c, s ++ m, by simp [hw], hc⟩

theorem avoids_someRun_mul {q : Char → Bool} (h : ∀ c, q c = true → p c = false) :
    Avoids p (someRun q * L) := by
  rintro _ ⟨a, ha, m, _, rfl⟩
  obtain ⟨c, a', rfl⟩ := List.exists_cons_of_ne_nil ha.1
  exact ⟨c, a' ++ m, rfl, h c (ha.2 c (by simp))⟩

theorem span_rule {c : Char} {n : Nat} {t : Text} (ht : ∀ d, t.head? = some d → d ≠ c) :
    (List.replicate n c ++ t).span (· = c) = (List.replicate n c, t) :=
  span_append (by simp) (by simpa using ht)

theorem exists_span_rule (c : Char) (t : Text) :
    ∃ n r, t = List.replicate n c ++ r ∧ t.span (· = c) = (List.replicate n c, r) := by
  obtain ⟨n, h⟩ : ∃ n, t.takeWhile (· = c) = List.replicate n c :=
    ⟨_, List.eq_replicate_of_mem fun _ hd => by simpa using List.mem_takeWhile_imp hd⟩
  refine ⟨n, t.dropWhile (· = c), ?_, ?_⟩
  · rw [← h, List.takeWhile_append_dropWhile]
  · rw [← h, List.span_eq_takeWhile_dropWhile]

theorem trimEnd_append_blanks (t : Text) : ∃ b ∈ run Text.isBlank, Text.trimEnd t ++ b = t := by
  refine ⟨(t.reverse.takeWhile Text.isBlank).reverse, ?_, ?_⟩
  · intro c hc
    exact List.mem_takeWhile_imp (List.mem_reverse.mp hc)
  · rw [Text.trimEnd, ← List.reverse_append, List.takeWhile_append_dropWhile, List.reverse_reverse]

theorem trimEnd_append {a b : Text} (ha : ∀ c, a.getLast? = some c → Text.isBlank c = false)
    (hb : b ∈ run Text.isBlank) : Text.trimEnd (a ++ b) = a := by
  have hr : b.reverse ∈ run Text.isBlank := fun x hx => hb x (List.mem_reverse.mp hx)
  rw [Text.trimEnd, List.reverse_append, dropWhile_append hr (by simpa using ha),
    List.reverse_reverse]

theorem trim_eq_nil_of_run {t : Text} (h : t ∈ run Text.isBlank) : Text.trim t = [] := by
  have hs : Text.trimStart t = [] := by
    rw [Text.trimStart, List.dropWhile_eq_nil_iff]
    exact h
  rw [Text.trim, hs, Text.trimEnd_nil]

end Shape
end TestBench
