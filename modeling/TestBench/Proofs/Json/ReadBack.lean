import Mathlib.Data.List.DropRight
import TestBench.Proofs.Json.Nesting
import TestBench.Proofs.Json.NumberText
import TestBench.Proofs.Json.ReadNumber
import TestBench.Proofs.Program.Literals

/-! Indented texts are read back. The value is the one that was written, apart from its numbers:
each of them is the number that is read from its text. -/
namespace TestBench
namespace Json

mutual

def mapNumbers (f : Number → Number) : Json → Json
  | number n => number (f n)
  | array items => array (mapNumbersOfItems f items)
  | object members => object (mapNumbersOfMembers f members)
  | v => v

def mapNumbersOfItems (f : Number → Number) : List Json → List Json
  | [] => []
  | v :: vs => mapNumbers f v :: mapNumbersOfItems f vs

def mapNumbersOfMembers (f : Number → Number) : List (Text × Json) → List (Text × Json)
  | [] => []
  | (k, v) :: ms => (k, mapNumbers f v) :: mapNumbersOfMembers f ms

end

def Spaces (t : Text) : Prop := ∀ c ∈ t, isSpace c = true

@[simp] theorem skipSpace_append {blanks : Text} (h : Spaces blanks) (t : Text) :
    skipSpace (blanks ++ t) = skipSpace t :=
  List.dropWhile_append_of_pos h

@[simp] theorem skipSpace_cons {c : Char} (h : isSpace c = false) (t : Text) :
    skipSpace (c :: t) = c :: t :=
  List.dropWhile_cons_of_neg (by simp [h])

@[simp] theorem skipSpace_skipSpace (t : Text) : skipSpace (skipSpace t) = skipSpace t :=
  List.dropWhile_idempotent ..

theorem spaces_indentation (depth : Nat) : Spaces ('\n' :: Text.indentation depth) := by
  intro c hc
  rcases List.mem_cons.mp hc with rfl | hc
  · rfl
  · rw [List.eq_of_mem_replicate hc]
    rfl

@[simp] theorem readValue_skipSpace (fuel depth : Nat) (t : Text) :
    readValue fuel depth (skipSpace t) = readValue fuel depth t := by
  cases fuel with
  | zero => rfl
  | succ fuel => rw [readValue, readValue, skipSpace_skipSpace]

section
variable {blanks : Text} (h : Spaces blanks) (fuel depth : Nat) (t : Text)
include h

theorem readValue_blanks : readValue fuel depth (blanks ++ t) = readValue fuel depth t := by
  rw [← readValue_skipSpace, skipSpace_append h, readValue_skipSpace]

theorem readItems_blanks : readItems fuel depth (blanks ++ t) = readItems fuel depth t := by
  cases fuel with
  | zero => rfl
  | succ fuel => rw [readItems, readItems, readValue_blanks h]

theorem readMembers_blanks : readMembers fuel depth (blanks ++ t) = readMembers fuel depth t := by
  cases fuel with
  | zero => rfl
  | succ fuel => rw [readMembers, readMembers, skipSpace_append h]

end

section
variable {fuel depth : Nat} {t u r rest : Text} {v : Json}

theorem readItems_last (hv : readValue fuel depth t = .ok (v, u)) (hu : skipSpace u = ']' :: rest) :
    readItems (fuel + 1) depth t = .ok ([v], rest) := by
  simp only [readItems, hv, bind, Except.bind, hu]
  rfl

theorem readItems_more {vs : List Json} (hv : readValue fuel depth t = .ok (v, u))
    (hu : skipSpace u = ',' :: r) (hvs : readItems fuel depth r = .ok (vs, rest)) :
    readItems (fuel + 1) depth t = .ok (v :: vs, rest) := by
  simp only [readItems, hv, bind, Except.bind, hu, hvs]
  rfl

theorem skipSpace_quoted (k t : Text) :
    skipSpace (quoted k ++ t) = '"' :: (Literals.escaped k ++ '"' :: t) := by
  rw [Literals.quoted_eq, List.append_assoc]
  exact skipSpace_cons (by decide) _

/-- The members of an object after the key and the value of the first one. -/
def readMoreMembers (fuel depth : Nat) (k : Text) :
    Json × Text → Except Fault (List (Text × Json) × Text)
  | (v, u) =>
    match skipSpace u with
    | '\x7d' :: r => return ([(k, v)], r)
    | ',' :: r => do
      let (ms, r) ← readMembers fuel depth r
      return ((k, v) :: ms, r)
    | u => .error (faultAt u)

theorem readMembers_key (fuel depth : Nat) (k t : Text) :
    readMembers (fuel + 1) depth (quoted k ++ ": ".toList ++ t) =
      (readValue fuel depth t).bind (readMoreMembers fuel depth k) := by
  have hspace : Spaces [' '] := by simp [Spaces, isSpace]
  have hblank : readValue fuel depth (' ' :: t) = readValue fuel depth t :=
    readValue_blanks hspace fuel depth t
  have hcolon : skipSpace (": ".toList ++ t) = ':' :: ' ' :: t := skipSpace_cons (by decide) _
  have hstart : skipSpace (quoted k ++ ": ".toList ++ t) =
      '"' :: (Literals.escaped k ++ '"' :: (": ".toList ++ t)) := by
    rw [List.append_assoc, skipSpace_quoted]
  rw [readMembers, hstart]
  simp only [Literals.readString_escaped, bind, Except.bind, hcolon, hblank]
  rfl

theorem readMembers_last {k : Text} (hv : readValue fuel depth t = .ok (v, u))
    (hu : skipSpace u = '\x7d' :: rest) :
    readMembers (fuel + 1) depth (quoted k ++ ": ".toList ++ t) = .ok ([(k, v)], rest) := by
  rw [readMembers_key, hv, Except.bind, readMoreMembers, hu]
  rfl

theorem readMembers_more {k : Text} {ms : List (Text × Json)}
    (hv : readValue fuel depth t = .ok (v, u)) (hu : skipSpace u = ',' :: r)
    (hms : readMembers fuel depth r = .ok (ms, rest)) :
    readMembers (fuel + 1) depth (quoted k ++ ": ".toList ++ t) = .ok ((k, v) :: ms, rest) := by
  rw [readMembers_key, hv, Except.bind, readMoreMembers, hu]
  change ((readMembers fuel depth r).bind fun p => .ok ((k, v) :: p.1, p.2)) = _
  rw [hms]
  rfl

end

theorem exists_joinWith_cons (sep t : Text) (ts : List Text) :
    ∃ s, Text.joinWith sep (t :: ts) = t ++ s := by
  cases ts with
  | nil => exact ⟨[], by rw [Text.joinWith_singleton, List.append_nil]⟩
  | cons u ts =>
    exact ⟨sep ++ Text.joinWith sep (u :: ts), by rw [Text.joinWith_cons_cons, List.append_assoc]⟩

/-- The break and the blanks before each part between brackets of a depth. -/
def partBlanks (depth : Nat) : Text := '\n' :: Text.indentation (depth + 1)

theorem spaces_partBlanks (depth : Nat) : Spaces (partBlanks depth) :=
  spaces_indentation (depth + 1)

theorem bracketed_append (opening closing : Char) (depth : Nat) {parts : List Text} (h : parts ≠ [])
    (rest : Text) :
    bracketed opening closing depth parts ++ rest =
      opening :: (partBlanks depth ++ (Text.joinWith (',' :: partBlanks depth) parts ++
        ('\n' :: Text.indentation depth ++ closing :: rest))) := by
  cases parts with
  | nil => exact absurd rfl h
  | cons part parts => simp [bracketed, partBlanks]

theorem length_joinWith_le_bracketed (opening closing : Char) (depth : Nat) (parts : List Text) :
    (Text.joinWith (',' :: partBlanks depth) parts).length + 2 ≤
      (bracketed opening closing depth parts).length := by
  cases parts with
  | nil => simp [bracketed, Text.joinWith]
  | cons part parts =>
    simp [bracketed, partBlanks]
    omega

theorem exists_bracketed (opening closing : Char) (depth : Nat) (parts : List Text) :
    ∃ t, bracketed opening closing depth parts = opening :: t := by
  cases parts with
  | nil => exact ⟨_, rfl⟩
  | cons part parts => exact ⟨_, rfl⟩

theorem skipSpace_closing (depth : Nat) {c : Char} (hc : isSpace c = false) (rest : Text) :
    skipSpace ('\n' :: Text.indentation depth ++ c :: rest) = c :: rest := by
  rw [skipSpace_append (spaces_indentation depth), skipSpace_cons hc]

section
variable {c : Char} {blanks : Text} (h : Spaces blanks) (hspace : isSpace c = false)
  (fuel depth : Nat) (t : Text)
include h hspace

theorem readValue_items (hc : c ≠ ']') :
    readValue (fuel + 1) (depth + 1) ('[' :: (blanks ++ c :: t)) =
    (readItems fuel depth (c :: t)).map fun p => (array p.1, p.2) := by
  have hstart : skipSpace ('[' :: (blanks ++ c :: t)) = '[' :: (blanks ++ c :: t) :=
    skipSpace_cons (by decide) _
  have hnext : skipSpace (blanks ++ c :: t) = c :: t := by
    rw [skipSpace_append h, skipSpace_cons hspace]
  simp only [readValue, hstart, hnext]
  split
  · next heq => exact absurd (List.cons.inj heq).1 hc
  · rfl

theorem readValue_members (hc : c ≠ '\x7d') :
    readValue (fuel + 1) (depth + 1) ('\x7b' :: (blanks ++ c :: t)) =
    (readMembers fuel depth (c :: t)).map fun p => (object p.1, p.2) := by
  have hstart : skipSpace ('\x7b' :: (blanks ++ c :: t)) = '\x7b' :: (blanks ++ c :: t) :=
    skipSpace_cons (by decide) _
  have hnext : skipSpace (blanks ++ c :: t) = c :: t := by
    rw [skipSpace_append h, skipSpace_cons hspace]
  simp only [readValue, hstart, hnext]
  split
  · next heq => exact absurd (List.cons.inj heq).1 hc
  · rfl

end

theorem stops_cons {c : Char} (hc : Text.isDigit c = false ∧ c ≠ '.' ∧ c ≠ 'e' ∧ c ≠ 'E')
    (t : Text) :
    Stops (c :: t) := by
  intro d hd
  cases hd
  exact hc

def NumberChar (c : Char) : Prop := c.isDigit = true ∨ c ∈ ['.', '-', '+', 'e']

theorem numberChar_of_mem {n : Number} {c : Char} (hc : c ∈ numberText n) : NumberChar c :=
  forall_mem_numberText (p := NumberChar) (fun _ => .inl) (fun _ => .inr) n c hc

theorem ne_of_numberChar {c : Char} (hc : NumberChar c) (d : Char)
    (hd : d.isDigit = false ∧ d ∉ ['.', '-', '+', 'e']) :
    c ≠ d := by
  rintro rfl
  rcases hc with hc | hc
  · rw [hd.1] at hc
    cases hc
  · exact hd.2 hc

theorem isSpace_of_numberChar {c : Char} (hc : NumberChar c) : isSpace c = false := by
  have hblank := ne_of_numberChar hc ' ' (by decide)
  have hbreak := ne_of_numberChar hc '\n' (by decide)
  have htab := ne_of_numberChar hc '\t' (by decide)
  have hreturn := ne_of_numberChar hc '\r' (by decide)
  simp [isSpace, hblank, hbreak, htab, hreturn]

theorem readValue_number {c : Char} {t : Text} (hc : NumberChar c) (fuel depth : Nat) :
    readValue (fuel + 1) depth (c :: t) = (readNumber (c :: t)).map fun p => (number p.1, p.2) := by
  rw [readValue, skipSpace_cons (isSpace_of_numberChar hc)]
  split
  · next h => cases h
  · next h => exact absurd (List.cons.inj h).1 (ne_of_numberChar hc _ (by decide))
  · next h => exact absurd (List.cons.inj h).1 (ne_of_numberChar hc _ (by decide))
  · next h => exact absurd (List.cons.inj h).1 (ne_of_numberChar hc _ (by decide))
  · next h => exact absurd (List.cons.inj h).1 (ne_of_numberChar hc _ (by decide))
  · next h => exact absurd (List.cons.inj h).1 (ne_of_numberChar hc _ (by decide))
  · next h => exact absurd (List.cons.inj h).1 (ne_of_numberChar hc _ (by decide))
  · rfl

def ReadsNumbers (f : Number → Number) : Prop := ∀ n, readNumber (numberText n) = .ok (f n, [])

section
variable {f : Number → Number}

theorem exists_numberText (hf : ReadsNumbers f) (n : Number) :
    ∃ c t, numberText n = c :: t ∧ NumberChar c := by
  cases h : numberText n with
  | nil =>
    have hread := hf n
    rw [h] at hread
    cases hread
  | cons c t => exact ⟨c, t, rfl, numberChar_of_mem (n := n) (by simp [h])⟩

theorem exists_indented (hf : ReadsNumbers f) (v : Json) (k : Nat) :
    ∃ c t, indented k v = c :: t ∧ isSpace c = false ∧ c ≠ ']' := by
  cases v with
  | null => exact ⟨_, _, rfl, by decide, by decide⟩
  | bool b => cases b <;> exact ⟨_, _, rfl, by decide, by decide⟩
  | number n =>
    obtain ⟨c, t, ht, hc⟩ := exists_numberText hf n
    exact ⟨c, t, ht, isSpace_of_numberChar hc, ne_of_numberChar hc _ (by decide)⟩
  | string s => exact ⟨_, _, rfl, by decide, by decide⟩
  | array vs =>
    obtain ⟨t, ht⟩ := exists_bracketed '[' ']' k (indentedItems (k + 1) vs)
    exact ⟨_, t, ht, by decide, by decide⟩
  | object ms =>
    obtain ⟨t, ht⟩ := exists_bracketed '\x7b' '\x7d' k (indentedMembers (k + 1) ms)
    exact ⟨_, t, ht, by decide, by decide⟩

mutual

/-- The indented text of a value is read back, and nothing after it. -/
theorem readValue_indented (hf : ReadsNumbers f) : ∀ (v : Json) {fuel depth k : Nat} {rest : Text},
    Within depth v → Stops rest → 2 * (indented k v).length ≤ fuel →
    readValue (fuel + 1) depth (indented k v ++ rest) = .ok (v.mapNumbers f, rest)
  | .null, fuel, depth, k, rest, _, _, _ => rfl
  | .bool b, fuel, depth, k, rest, _, _, _ => by cases b <;> rfl
  | .number n, fuel, depth, k, rest, _, hrest, _ => by
    obtain ⟨c, t, ht, hc⟩ := exists_numberText hf n
    have hread := readNumber_append hrest (hf n)
    rw [indented]
    rw [ht] at hread ⊢
    rw [List.cons_append] at hread ⊢
    rw [readValue_number hc, hread]
    rfl
  | .string s, fuel, depth, k, rest, _, _, _ => by
    simp only [indented, readValue, skipSpace_quoted, Literals.readString_escaped]
    rfl
  | .array [], fuel, _, k, rest, .array _, _, _ => rfl
  | .array (v :: vs), fuel, _, k, rest, @Within.array depth _ hv, _, hfuel => by
    have hlength := length_joinWith_le_bracketed '[' ']' k (indentedItems (k + 1) (v :: vs))
    rw [indented] at hfuel ⊢
    obtain ⟨fuel, rfl⟩ : ∃ n, fuel = n + 1 := ⟨fuel - 1, by omega⟩
    have hitems :
      readItems (fuel + 1) depth
      (Text.joinWith (',' :: partBlanks k) (indentedItems (k + 1) (v :: vs)) ++
        ('\n' :: Text.indentation k ++ ']' :: rest)) = .ok (mapNumbersOfItems f (v :: vs), rest) :=
      readItems_indented hf (v :: vs) (by simp) hv (spaces_partBlanks k)
        (skipSpace_closing k (by decide) rest) (stops_cons (by decide) _) (by omega)
    rw [bracketed_append _ _ _ (by simp [indentedItems])]
    obtain ⟨c, t, ht, hspace, hc⟩ := exists_indented hf v (k + 1)
    obtain ⟨s, hs⟩ :=
      exists_joinWith_cons (',' :: partBlanks k) (indented (k + 1) v) (indentedItems (k + 1) vs)
    rw [indentedItems, hs, ht, List.cons_append, List.cons_append] at hitems ⊢
    rw [readValue_items (spaces_partBlanks k) hspace _ _ _ hc, hitems]
    rfl
  | .object [], fuel, _, k, rest, .object .., _, _ => rfl
  | .object ((key, v) :: ms), fuel, _, k, rest, @Within.object depth _ _ hv, _, hfuel => by
    have hlength :=
      length_joinWith_le_bracketed '\x7b' '\x7d' k (indentedMembers (k + 1) ((key, v) :: ms))
    rw [indented] at hfuel ⊢
    obtain ⟨fuel, rfl⟩ : ∃ n, fuel = n + 1 := ⟨fuel - 1, by omega⟩
    have hmembers : readMembers (fuel + 1) depth (Text.joinWith (',' :: partBlanks k)
        (indentedMembers (k + 1) ((key, v) :: ms)) ++
          ('\n' :: Text.indentation k ++ '\x7d' :: rest)) =
        .ok (mapNumbersOfMembers f ((key, v) :: ms), rest) :=
      readMembers_indented hf ((key, v) :: ms) (by simp) hv (spaces_partBlanks k)
        (skipSpace_closing k (by decide) rest) (stops_cons (by decide) _) (by omega)
    rw [bracketed_append _ _ _ (by simp [indentedMembers])]
    obtain ⟨s, hs⟩ :=
      exists_joinWith_cons (',' :: partBlanks k) (quoted key ++ ": ".toList ++ indented (k + 1) v)
      (indentedMembers (k + 1) ms)
    rw [indentedMembers, hs, Literals.quoted_eq] at hmembers ⊢
    simp only [List.cons_append] at hmembers ⊢
    rw [readValue_members (spaces_partBlanks k) (by decide) _ _ _ (by decide), hmembers]
    rfl

theorem readItems_indented (hf : ReadsNumbers f) : ∀ (vs : List Json) {fuel depth k : Nat}
    {blanks tail rest : Text}, vs ≠ [] → (∀ v ∈ vs, Within depth v) → Spaces blanks →
    skipSpace tail = ']' :: rest → Stops tail →
    2 * (Text.joinWith (',' :: blanks) (indentedItems k vs)).length + 1 ≤ fuel →
    readItems (fuel + 1) depth (Text.joinWith (',' :: blanks) (indentedItems k vs) ++ tail) =
      .ok (mapNumbersOfItems f vs, rest)
  | [], _, _, _, _, _, _, hne, _, _, _, _, _ => absurd rfl hne
  | [v], fuel, depth, k, blanks, tail, rest, _, hv, _, htail, hstops, hfuel => by
    rw [indentedItems, indentedItems, Text.joinWith_singleton] at hfuel ⊢
    obtain ⟨fuel, rfl⟩ : ∃ n, fuel = n + 1 := ⟨fuel - 1, by omega⟩
    exact readItems_last (readValue_indented hf v (hv v List.mem_cons_self) hstops (by omega)) htail
  | v :: w :: vs, fuel, depth, k, blanks, tail, rest, _, hv, hblanks, htail, hstops, hfuel => by
    obtain ⟨hv, hvs⟩ := List.forall_mem_cons.mp hv
    rw [indentedItems, indentedItems, Text.joinWith_cons_cons] at hfuel ⊢
    simp only [List.length_append, List.length_cons] at hfuel
    obtain ⟨fuel, rfl⟩ : ∃ n, fuel = n + 1 := ⟨fuel - 1, by omega⟩
    have hrest :
        readItems (fuel + 1) depth
        (Text.joinWith (',' :: blanks) (indentedItems k (w :: vs)) ++ tail) =
          .ok (mapNumbersOfItems f (w :: vs), rest) :=
      readItems_indented hf (w :: vs) (by simp) hvs hblanks htail hstops
        (by rw [indentedItems]; omega)
    rw [List.append_assoc, List.append_assoc]
    refine readItems_more (readValue_indented hf v hv (stops_cons (by decide) _) (by omega))
      (skipSpace_cons (by decide) _) ?_
    exact (readItems_blanks hblanks _ _ _).trans hrest

theorem readMembers_indented (hf : ReadsNumbers f) :
    ∀ (ms : List (Text × Json)) {fuel depth k : Nat}
    {blanks tail rest : Text}, ms ≠ [] → (∀ m ∈ ms, Within depth m.2) → Spaces blanks →
    skipSpace tail = '\x7d' :: rest → Stops tail →
    2 * (Text.joinWith (',' :: blanks) (indentedMembers k ms)).length + 1 ≤ fuel →
    readMembers (fuel + 1) depth (Text.joinWith (',' :: blanks) (indentedMembers k ms) ++ tail) =
      .ok (mapNumbersOfMembers f ms, rest)
  | [], _, _, _, _, _, _, hne, _, _, _, _, _ => absurd rfl hne
  | [(key, v)], fuel, depth, k, blanks, tail, rest, _, hv, _, htail, hstops, hfuel => by
    rw [indentedMembers, indentedMembers, Text.joinWith_singleton] at hfuel ⊢
    simp only [List.length_append] at hfuel
    obtain ⟨fuel, rfl⟩ : ∃ n, fuel = n + 1 := ⟨fuel - 1, by omega⟩
    rw [List.append_assoc _ (indented k v)]
    exact readMembers_last (readValue_indented hf v (hv _ List.mem_cons_self) hstops (by omega))
      htail
  | (key, v) :: m :: ms, fuel, depth, k, blanks, tail, rest, _, hall, hblanks, htail, hstops,
      hfuel => by
    obtain ⟨hv, hms⟩ := List.forall_mem_cons.mp hall
    rw [indentedMembers, indentedMembers, Text.joinWith_cons_cons] at hfuel ⊢
    simp only [List.length_append, List.length_cons] at hfuel
    obtain ⟨fuel, rfl⟩ : ∃ n, fuel = n + 1 := ⟨fuel - 1, by omega⟩
    have hrest :
        readMembers (fuel + 1) depth
        (Text.joinWith (',' :: blanks) (indentedMembers k (m :: ms)) ++ tail) =
          .ok (mapNumbersOfMembers f (m :: ms), rest) :=
      readMembers_indented hf (m :: ms) (by simp) hms hblanks htail hstops
        (by rw [indentedMembers]; omega)
    rw [List.append_assoc, List.append_assoc, List.append_assoc _ (indented k v)]
    refine readMembers_more (readValue_indented hf v hv (stops_cons (by decide) _) (by omega))
      (skipSpace_cons (by decide) _) ?_
    exact (readMembers_blanks hblanks _ _ _).trans hrest

end

end

end Json
end TestBench
