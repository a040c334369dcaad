import TestBench.Outcome.Structured
import TestBench.Proofs.Outcome.Headline
import TestBench.Proofs.Text.FirstLine

/-! The parts of an error. An error that says something has a full text and a headline, and one that
does not has neither; the headline is the first line of the message, or else of the full text. -/
namespace TestBench
namespace Structured

open Console (Shown shown_trim)
open Text (IsFirstLine)
open Text.Ansi (escape strip)

variable {error : Option Json} {v : Json} {s t : Text}

/-- The texts that an error is read from: the text itself, the message and the stack of an object,
and in a list the texts and the messages of objects. -/
inductive ReadFrom : Json → Text → Prop
  | text (s : Text) : ReadFrom (.string s) s
  | message {ms : List (Text × Json)} {s : Text} : ms.lookup "message".toList = some (.string s) →
      ReadFrom (.object ms) s
  | stack {ms : List (Text × Json)} {s : Text} : ms.lookup "stack".toList = some (.string s) →
      ReadFrom (.object ms) s
  | item {vs : List Json} {s : Text} : .string s ∈ vs → ReadFrom (.array vs) s
  | itemMessage {vs : List Json} {ms : List (Text × Json)} {s : Text} : .object ms ∈ vs →
      ms.lookup "message".toList = some (.string s) → ReadFrom (.array vs) s

/-- An error says something if one of these texts is not blank once it is stripped. -/
def SaysSomething (error : Option Json) : Prop :=
  ∃ v s, error = some v ∧ ReadFrom v s ∧ Text.isBlankText (strip s) = false

/-- An object with a message that is not blank once it is stripped. -/
def HasMessage (error : Option Json) (message : Text) : Prop :=
  ∃ ms, error = some (.object ms) ∧ ms.lookup "message".toList = some (.string message) ∧
    Text.isBlankText (strip message) = false

theorem cleaned?_eq_some_iff : cleaned? s = some t ↔ Text.isBlankText (strip s) = false ∧
    t = Text.trim (strip s) :=
  Text.trimmed?_eq_some_iff

theorem shown_of_cleaned? (h : cleaned? s = some t) : Shown t := by
  obtain ⟨hs, rfl⟩ := cleaned?_eq_some_iff.mp h
  exact shown_trim hs

def cleanedAt? (key : String) (ms : List (Text × Json)) : Option Text :=
  ((ms.lookup key.toList).bind Json.text?).bind cleaned?

theorem cleanedAt?_eq_some_iff {key : String} {ms : List (Text × Json)} :
    cleanedAt? key ms = some t ↔
    ∃ s, ms.lookup key.toList = some (.string s) ∧ cleaned? s = some t := by
  rw [cleanedAt?]
  cases ms.lookup key.toList with
  | none => simp
  | some v => cases v <;> simp [Json.text?]

theorem itemMessage?_eq_some_iff : itemMessage? v = some t ↔
    ∃ s, (v = .string s ∨ ∃ ms, v = .object ms ∧ ms.lookup "message".toList = some (.string s)) ∧
    cleaned? s = some t := by
  cases v with
  | object ms =>
    have hmember : itemMessage? (.object ms) = cleanedAt? "message" ms := rfl
    rw [hmember, cleanedAt?_eq_some_iff]
    simp
  | _ => simp [itemMessage?, Json.textAt?, Json.get?]

theorem joined?_eq_some_iff {ts : List Text} : joined? ts = some t ↔
    ts ≠ [] ∧ t = Text.unlines ts := by
  cases ts <;> simp [joined?, eq_comm]

theorem shown_of_joined? {ts : List Text} (hts : ∀ t ∈ ts, Shown t) (h : joined? ts = some t) :
    Shown t := by
  obtain ⟨hne, rfl⟩ := joined?_eq_some_iff.mp h
  obtain ⟨u, hu⟩ := List.exists_mem_of_ne_nil ts hne
  refine ⟨Text.joinWith_not_blank hu (hts u hu).1,
    Text.trimmed_joinWith fun t ht => ⟨?_, (hts t ht).2⟩⟩
  rintro rfl
  exact absurd (hts _ ht).1 (by decide)

theorem errorParts_eq (error : Option Json) : errorParts error =
    ⟨(errorSources error).1, ((errorSources error).2.or (errorSources error).1).bind
      Text.firstLine?⟩ := rfl

theorem errorSources_object (ms : List (Text × Json)) : errorSources (some (.object ms)) =
    ((cleanedAt? "stack" ms).or (cleanedAt? "message" ms), cleanedAt? "message" ms) := rfl

theorem shown_errorSources (error : Option Json) :
    (∀ t, (errorSources error).1 = some t → Shown t) ∧ ∀ t, (errorSources error).2 = some t →
    Shown t := by
  rcases error with _ | _ | _ | _ | s | vs | ms
  case some.string => exact ⟨fun _ => shown_of_cleaned?, fun _ => shown_of_cleaned?⟩
  case some.array =>
    have hitems : ∀ t ∈ vs.filterMap itemMessage?, Shown t := fun t ht => by
      obtain ⟨v, -, hv⟩ := List.mem_filterMap.mp ht
      obtain ⟨s, -, hs⟩ := itemMessage?_eq_some_iff.mp hv
      exact shown_of_cleaned? hs
    exact ⟨fun _ => shown_of_joined? hitems, fun _ => shown_of_joined? hitems⟩
  case some.object =>
    have hmember : ∀ key t, cleanedAt? key ms = some t → Shown t := fun key t ht => by
      obtain ⟨s, -, hs⟩ := cleanedAt?_eq_some_iff.mp ht
      exact shown_of_cleaned? hs
    rw [errorSources_object]
    refine ⟨fun t ht => ?_, hmember _⟩
    rcases Option.or_eq_some_iff.mp ht with ht | ⟨-, ht⟩
    · exact hmember _ t ht
    · exact hmember _ t ht
  all_goals exact ⟨fun _ h => (nomatch h), fun _ h => (nomatch h)⟩

theorem saysSomething_of_trace (h : (errorSources error).1 = some t) : SaysSomething error := by
  rcases error with _ | _ | _ | _ | s | vs | ms
  case some.string => exact ⟨_, s, rfl, .text s, (cleaned?_eq_some_iff.mp h).1⟩
  case some.array =>
    obtain ⟨hne, -⟩ := joined?_eq_some_iff.mp h
    obtain ⟨u, hu⟩ := List.exists_mem_of_ne_nil _ hne
    obtain ⟨v, hv, hitem⟩ := List.mem_filterMap.mp hu
    obtain ⟨s, hread, hs⟩ := itemMessage?_eq_some_iff.mp hitem
    refine ⟨_, s, rfl, ?_, (cleaned?_eq_some_iff.mp hs).1⟩
    rcases hread with rfl | ⟨ms, rfl, hmessage⟩
    · exact .item hv
    · exact .itemMessage hv hmessage
  case some.object =>
    rw [errorSources_object] at h
    rcases Option.or_eq_some_iff.mp h with h | ⟨-, h⟩
    · obtain ⟨s, hstack, hs⟩ := cleanedAt?_eq_some_iff.mp h
      exact ⟨_, s, rfl, .stack hstack, (cleaned?_eq_some_iff.mp hs).1⟩
    · obtain ⟨s, hmessage, hs⟩ := cleanedAt?_eq_some_iff.mp h
      exact ⟨_, s, rfl, .message hmessage, (cleaned?_eq_some_iff.mp hs).1⟩
  all_goals cases h

theorem exists_trace_of_item {vs : List Json} (hv : v ∈ vs) (h : itemMessage? v = some t) :
    ∃ u, (errorSources (some (.array vs))).1 = some u :=
  ⟨_, joined?_eq_some_iff.mpr ⟨List.ne_nil_of_mem (List.mem_filterMap.mpr ⟨v, hv, h⟩), rfl⟩⟩

theorem SaysSomething.exists_trace (h : SaysSomething error) :
    ∃ t, (errorSources error).1 = some t := by
  obtain ⟨v, s, rfl, hread, hs⟩ := h
  have hcleaned : cleaned? s = some (Text.trim (strip s)) := cleaned?_eq_some_iff.mpr ⟨hs, rfl⟩
  cases hread with
  | text => exact ⟨_, hcleaned⟩
  | message hmessage =>
    rw [errorSources_object, cleanedAt?_eq_some_iff.mpr ⟨s, hmessage, hcleaned⟩]
    exact ⟨_, Option.or_some⟩
  | stack hstack =>
    rw [errorSources_object, cleanedAt?_eq_some_iff.mpr ⟨s, hstack, hcleaned⟩]
    exact ⟨_, rfl⟩
  | item hv => exact exists_trace_of_item hv (itemMessage?_eq_some_iff.mpr ⟨s, .inl rfl, hcleaned⟩)
  | itemMessage hv hmessage =>
    exact exists_trace_of_item hv
      (itemMessage?_eq_some_iff.mpr ⟨s, .inr ⟨_, rfl, hmessage⟩, hcleaned⟩)

theorem HasMessage.saysSomething (h : HasMessage error s) : SaysSomething error := by
  obtain ⟨ms, rfl, hmessage, hs⟩ := h
  exact ⟨_, s, rfl, .message hmessage, hs⟩

theorem HasMessage.source (h : HasMessage error s) :
    (errorSources error).2 = some (Text.trim (strip s)) := by
  obtain ⟨ms, rfl, hmessage, hs⟩ := h
  exact cleanedAt?_eq_some_iff.mpr ⟨s, hmessage, cleaned?_eq_some_iff.mpr ⟨hs, rfl⟩⟩

theorem source_or_trace (h : ¬∃ s, HasMessage error s) :
    (errorSources error).2.or (errorSources error).1 = (errorSources error).1 := by
  rcases error with _ | _ | _ | _ | s | vs | ms
  case some.object =>
    have hnone : (errorSources (some (.object ms))).2 = none := by
      refine Option.eq_none_iff_forall_ne_some.mpr fun t ht => ?_
      obtain ⟨s, hmessage, hs⟩ := cleanedAt?_eq_some_iff.mp ht
      exact h ⟨s, ms, rfl, hmessage, (cleaned?_eq_some_iff.mp hs).1⟩
    rw [hnone, Option.none_or]
  all_goals exact Option.or_self

/-- An error that says nothing has no parts. Any other one has both: texts that are not blank,
without white space around them. The headline is one line, the first one of the message of an object
if that is not blank, and else the first one of the full text. -/
theorem trace_with_headline (error : Option Json) :
    (errorParts error = ⟨none, none⟩ ∧ ¬SaysSomething error) ∨
    (SaysSomething error ∧ ∃ trace headline, errorParts error = ⟨some trace, some headline⟩ ∧
      (Text.isBlankText trace = false ∧ Text.Trimmed trace) ∧
      (Text.isBlankText headline = false ∧ Text.Trimmed headline) ∧
      '\n' ∉ headline ∧
      (∀ message, HasMessage error message → IsFirstLine (strip message) headline) ∧
      ((¬∃ message, HasMessage error message) → IsFirstLine trace headline)) := by
  rw [errorParts_eq]
  by_cases htells : SaysSomething error
  · obtain ⟨trace, htrace⟩ := htells.exists_trace
    obtain ⟨source, hsource⟩ : ∃ source, (errorSources error).2.or (errorSources error).1 =
        some source := by
      rw [htrace]
      exact ⟨_, Option.or_some⟩
    have hshown : Shown source := by
      rcases Option.or_eq_some_iff.mp hsource with h | ⟨-, h⟩
      · exact (shown_errorSources error).2 source h
      · exact (shown_errorSources error).1 source h
    obtain ⟨headline, hheadline⟩ := Text.exists_firstLine? hshown.1
    have hfirst := Text.firstLine?_eq_some_iff.mp hheadline
    refine .inr ⟨htells, trace, headline, ?_, (shown_errorSources error).1 trace htrace,
      ⟨hfirst.not_blank, hfirst.trimmed⟩,
      hfirst.break_not_mem, fun message hmessage => ?_, fun hno => ?_⟩
    · rw [hsource, Option.bind_some, hheadline, htrace]
    · rw [hmessage.source, Option.some_or, Option.some_inj] at hsource
      rwa [← Text.firstLine?_eq_some_iff, ← Text.firstLine?_trim, hsource]
    · rw [source_or_trace hno, htrace, Option.some_inj] at hsource
      rwa [hsource]
  · have htrace : (errorSources error).1 = none :=
      Option.eq_none_iff_forall_ne_some.mpr fun t ht => htells (saysSomething_of_trace ht)
    have hno : ¬∃ s, HasMessage error s := fun ⟨_, h⟩ => htells h.saysSomething
    rw [source_or_trace hno, htrace]
    exact .inl ⟨rfl, htells⟩

def redMessage : Text := " \n ".toList ++ escape :: "[31mboom\r\nin a test".toList

def thrown : Json :=
  .object [("message".toList, .string redMessage),
    ("stack".toList, .string "\nError: boom\n  at a.js:1 ".toList)]

/-- The stack is shown under the first line of the message. -/
theorem trace_with_headline_of_thrown :
    HasMessage (some thrown) redMessage ∧
    errorParts (some thrown) = ⟨some "Error: boom\n  at a.js:1".toList, some "boom".toList⟩ ∧
    IsFirstLine (strip redMessage) "boom".toList := by
  have hmessage : HasMessage (some thrown) redMessage := ⟨_, rfl, rfl, by decide +kernel⟩
  have hparts :
      errorParts (some thrown) = ⟨some "Error: boom\n  at a.js:1".toList, some "boom".toList⟩ := by
    decide +kernel
  refine ⟨hmessage, hparts, ?_⟩
  rcases trace_with_headline (some thrown) with
    ⟨-, hno⟩ | ⟨-, trace, headline, heq, -, -, -, hfirst, -⟩
  · exact absurd hmessage.saysSomething hno
  · rw [hparts] at heq
    obtain ⟨-, hheadline⟩ := ErrorParts.mk.inj heq
    rw [Option.some.inj hheadline]
    exact hfirst redMessage hmessage

end Structured
end TestBench
