import TestBench.Proofs.Json.Lookup
import TestBench.Proofs.Json.NumberText
import TestBench.Proofs.Scenario.Acceptance
import TestBench.Scenario.Form

/-! Checks that have been validated stay as they are: their JSON form is valid again and stands for
the same checks. -/
namespace TestBench

def Step.toDraft : Step → Draft
  | goto path => { Draft.empty .goto with path := some path }
  | click selector => { Draft.empty .click with selector := some selector }
  | fill selector value => { Draft.empty .fill with selector := some selector, value := some value }
  | press selector key => { Draft.empty .press with selector := some selector, key := some key }
  | waitFor selector ms => { Draft.empty .waitFor with selector := selector, ms := ms }
  | expectVisible selector => { Draft.empty .expectVisible with selector := some selector }
  | expectHidden selector => { Draft.empty .expectHidden with selector := some selector }
  | expectTextContains selector value =>
    { Draft.empty .expectTextContains with selector := some selector, value := some value }
  | expectUrlContains value => { Draft.empty .expectUrlContains with value := some value }
  | expectTitleContains value => { Draft.empty .expectTitleContains with value := some value }

namespace Draft

theorem requireText_eq_ok_iff {f : Field} {m : Option Text} {t : Text} :
    requireText f m = .ok t ↔ m.bind Text.trimmed? = some t := by
  rw [requireText]
  split
  · next s hs => rw [hs, Except.ok.injEq, Option.some_inj]
  · next hs => simp [hs]

theorem requireText_of_requireText {f : Field} {m : Option Text} {t : Text}
    (h : requireText f m = .ok t) :
    requireText f (some t) = .ok t := by
  rw [requireText_eq_ok_iff] at h ⊢
  obtain ⟨s, -, hs⟩ := Option.bind_eq_some_iff.mp h
  exact Text.trimmed?_of_trimmed? hs

theorem toStep_waitFor (selector value key path : Option Text) (ms : Option UInt64) :
    toStep ⟨.waitFor, selector, value, key, path, ms⟩ =
      match selector.bind Text.trimmed?, ms with
      | none, none => .error .needsSelectorOrMs
      | selector, ms => .ok (.waitFor selector ms) := rfl

/-- A step that a draft gives is also given by the draft of its own fields. -/
theorem toStep_toDraft {d : Draft} {s : Step} (h : d.toStep = .ok s) :
    s.toDraft.toStep = .ok s := by
  obtain ⟨kind, selector, value, key, path, ms⟩ := d
  cases kind with
  | goto =>
    obtain ⟨t, ht, h⟩ := eq_ok_of_bind h
    cases h
    rw [Step.toDraft, toStep, requireText_of_requireText ht]
    rfl
  | click | expectVisible | expectHidden =>
    obtain ⟨t, ht, h⟩ := eq_ok_of_bind h
    cases h
    rw [Step.toDraft, toStep, requireText_of_requireText ht]
    rfl
  | fill | expectTextContains =>
    obtain ⟨t, ht, h⟩ := eq_ok_of_bind h
    obtain ⟨u, -, h⟩ := eq_ok_of_bind h
    cases h
    rw [Step.toDraft, toStep, requireText_of_requireText ht]
    rfl
  | press =>
    obtain ⟨t, ht, h⟩ := eq_ok_of_bind h
    obtain ⟨u, hu, h⟩ := eq_ok_of_bind h
    cases h
    rw [Step.toDraft, toStep, requireText_of_requireText ht, requireText_of_requireText hu]
    rfl
  | waitFor =>
    rw [toStep_waitFor] at h
    cases htrim : selector.bind Text.trimmed? with
    | none =>
      rw [htrim] at h
      cases ms with
      | none => cases h
      | some n =>
        cases h
        rfl
    | some t =>
      rw [htrim] at h
      cases h
      obtain ⟨u, -, hu⟩ := Option.bind_eq_some_iff.mp htrim
      rw [Step.toDraft, empty, toStep_waitFor, Option.bind_some, Text.trimmed?_of_trimmed? hu]
  | expectUrlContains | expectTitleContains =>
    obtain ⟨t, -, h⟩ := eq_ok_of_bind h
    cases h
    rfl

end Draft

namespace Step

theorem timeField_of_lookup {ms : List (Text × Json)} {n : UInt64}
    (h : ms.lookup Field.ms.name = some (.ofUInt64 n)) : timeField ms = .ok (some n) := by
  have hread : Number.toUInt64? (.ofUInt64 n) = some n := toUInt64?_ofUInt64 n
  rw [timeField, h]
  simp only [Json.ofUInt64, Number.ofUInt64] at hread ⊢
  rw [hread]

/-- The members of a step, as an object has them. -/
def formMembers (s : Step) : List (Text × Json) :=
  Json.sortMembers (("type".toList, .string s.kind.name) :: s.members)

@[simp] theorem draftOf_formMembers (s : Step) : draftOf s.kind s.formMembers = .ok s.toDraft := by
  cases s with
  | waitFor selector ms =>
    cases ms with
    | none => cases selector <;> rfl
    | some n =>
      have htime : timeField (waitFor selector (some n)).formMembers = .ok (some n) :=
        timeField_of_lookup (by cases selector <;> rfl)
      rw [draftOf, htime]
      cases selector <;> rfl
  | _ => rfl

@[simp] theorem lookup_type_formMembers (s : Step) :
    s.formMembers.lookup "type".toList = some (.string s.kind.name) := by
  cases s with
  | waitFor selector ms => cases selector <;> cases ms <;> rfl
  | _ => rfl

/-- The draft of its own fields gives the step. -/
def Settled (s : Step) : Prop := s.toDraft.toStep = .ok s

theorem settled_of_validate {v : Json} {s : Step} (h : validate v = .ok s) : s.Settled := by
  rcases v with _ | _ | _ | _ | _ | ms
  case object =>
    rw [validate] at h
    split at h
    · cases h
    · split at h
      · cases h
      · split at h
        · cases h
        · next d _ =>
          exact Draft.toStep_toDraft (eq_ok_of_mapError h)
  all_goals cases h

theorem validate_toJson {s : Step} (h : s.Settled) : validate s.toJson = .ok s := by
  have hkind : (s.formMembers.lookup "type".toList).bind Json.text? = some s.kind.name := by
    rw [lookup_type_formMembers]
    rfl
  have hform : validate s.toJson = validate (.object s.formMembers) := rfl
  rw [hform]
  simp only [validate, hkind, StepKind.ofName?_name, draftOf_formMembers]
  rw [h]
  rfl

end Step

namespace Scenario

/-- Name and start page are trimmed and not blank, and the steps are settled. -/
structure Settled (s : Scenario) : Prop where
  name : Text.trimmed? s.name = some s.name
  start : Text.trimmed? s.startPath = some s.startPath
  steps : ∀ step ∈ s.steps, step.Settled

theorem trimmed?_of_validName? {m : Option Json} {name : Text} (h : validName? m = some name) :
    Text.trimmed? name = some name := by
  obtain ⟨t, -, ht⟩ := Option.bind_eq_some_iff.mp h
  exact Text.trimmed?_of_trimmed? ht

theorem trimmed?_of_validStart? {m : Option Json} {start : Text} (h : validStart? m = some start) :
    Text.trimmed? start = some start := by
  rcases m with _ | _ | _ | _ | t | _ | _
  case none => cases h; rfl
  case some.null => cases h; rfl
  case some.string => exact Text.trimmed?_of_trimmed? h
  all_goals cases h

theorem settled_of_validate {index : Nat} {v : Json} {s : Scenario} (h : validate index v = .ok s) :
    s.Settled := by
  rcases v with _ | _ | _ | _ | _ | ms
  case object =>
    cases hname : validName? (ms.lookup "name".toList) with
    | none => simp only [validate, hname] at h; cases h
    | some name =>
    cases hstart : validStart? (ms.lookup "startPath".toList) with
    | none => simp only [validate, hname, hstart] at h; cases h
    | some start =>
    cases hraw : rawSteps? (ms.lookup "steps".toList) with
    | none => simp only [validate, hname, hstart, hraw] at h; cases h
    | some raw =>
    rw [validate_object index ms hname hstart hraw] at h
    obtain ⟨steps, hsteps, h⟩ := eq_ok_of_map h
    cases h
    refine ⟨trimmed?_of_validName? hname, trimmed?_of_validStart? hstart, fun step hstep => ?_⟩
    obtain ⟨i, r, -, hr⟩ := exists_of_mem_mapNumbered hsteps step hstep
    exact Step.settled_of_validate (eq_ok_of_mapError hr)
  all_goals cases h

/-- The members of a scenario, as an object has them. -/
def formMembers (s : Scenario) : List (Text × Json) :=
  [("name".toList, .string s.name), ("startPath".toList, .string s.startPath),
    ("steps".toList, .array (s.steps.map Step.toJson))]

theorem validate_toJson {s : Scenario} (h : s.Settled) (index : Nat) :
    validate index s.toJson = .ok s := by
  have hsteps : mapNumbered (fun i r => (Step.validate r).mapError
      (ScenarioFault.badStep s.name i (r.textAt? "type".toList))) 1 (s.steps.map Step.toJson) =
        .ok s.steps := by
    refine mapNumbered_map (fun i step hstep => ?_) 1
    rw [Step.validate_toJson (h.steps step hstep)]
    rfl
  have hform : s.toJson = .object s.formMembers := rfl
  rw [hform, validate_object index s.formMembers h.name h.start rfl, hsteps]
  rfl

theorem exists_items {v : Json} {ss : List Scenario} (h : validateAll v = .ok ss) :
    ∃ item items, v = .array (item :: items) ∧ mapNumbered validate 1 (item :: items) = .ok ss := by
  rcases v with _ | _ | _ | _ | (_ | ⟨item, items⟩) | _
  case array.cons => exact ⟨item, items, rfl, h⟩
  all_goals cases h

theorem ne_nil_of_validateAll {v : Json} {ss : List Scenario} (h : validateAll v = .ok ss) :
    ss ≠ [] := by
  obtain ⟨item, items, -, h⟩ := exists_items h
  exact ne_nil_of_mapNumbered_cons h

/-- The form of valid scenarios is valid, and stands for the same scenarios. -/
theorem validateAll_toJson {v : Json} {ss : List Scenario} (h : validateAll v = .ok ss) :
    validateAll (CheckSet.toJson (.ui ss)) = .ok ss := by
  have hne := ne_nil_of_validateAll h
  obtain ⟨item, items, -, h⟩ := exists_items h
  have hsettled : ∀ s ∈ ss, s.Settled := by
    intro s hs
    obtain ⟨i, r, -, hr⟩ := exists_of_mem_mapNumbered h s hs
    exact settled_of_validate hr
  obtain ⟨s, ss, rfl⟩ := List.exists_cons_of_ne_nil hne
  exact mapNumbered_map (fun i s hs => validate_toJson (hsettled s hs) i) 1

end Scenario

namespace Address

theorem normalizePath_eq (path : Text) :
    normalizePath path = [] ∧ Text.trim path = [] ∨
      normalizePath path = Text.trim path ∧ (∃ rest, Text.trim path = '/' :: rest) ∨
      normalizePath path = '/' :: Text.trim path ∧ Text.trim path ≠ [] := by
  rw [normalizePath]
  split
  · next h => exact .inl ⟨rfl, h⟩
  · next rest h => exact .inr (.inl ⟨h.symm, rest, h⟩)
  · next hne _ => exact .inr (.inr ⟨rfl, hne⟩)

@[simp] theorem trim_normalizePath (path : Text) :
    Text.trim (normalizePath path) = normalizePath path := by
  rcases normalizePath_eq path with ⟨h, -⟩ | ⟨h, -⟩ | ⟨h, hne⟩
  · rw [h, Text.trim_nil]
  · rw [h, Text.trim_trim]
  · rw [h]
    refine Text.trim_eq_self fun c hc => ?_
    rcases hc with hc | hc
    · cases hc
      rfl
    · rw [List.getLast?_cons_of_ne_nil hne] at hc
      exact Text.trimmed_trim path c (.inr hc)

@[simp] theorem normalizePath_normalizePath (path : Text) :
    normalizePath (normalizePath path) = normalizePath path := by
  have hslash : ∀ rest, Text.trim ('/' :: rest) = '/' :: rest →
      normalizePath ('/' :: rest) = '/' :: rest := by
    intro rest h
    rw [normalizePath, h]
    rfl
  have htrim := trim_normalizePath path
  rcases normalizePath_eq path with ⟨h, -⟩ | ⟨h, rest, hrest⟩ | ⟨h, -⟩
  · rw [h]
    rfl
  · rw [h, hrest] at htrim ⊢
    exact hslash rest htrim
  · rw [h] at htrim ⊢
    exact hslash _ htrim

theorem normalizePath_ne_nil {path : Text} (h : Text.trim path ≠ []) : normalizePath path ≠ [] := by
  rcases normalizePath_eq path with ⟨-, hnil⟩ | ⟨heq, -⟩ | ⟨heq, -⟩
  · exact absurd hnil h
  · rwa [heq]
  · rw [heq]
    simp

end Address

namespace Request

/-- The path is normalized, and a body is not null. -/
structure Settled (r : Request) : Prop where
  path : Address.normalizePath r.path = r.path
  trimmed : Text.trim r.path = r.path
  nonempty : r.path ≠ []
  body : r.body.filter (fun v => !v.isNull) = r.body

theorem trim_ne_nil_of_mem {t : Text} {c : Char} (hc : c ∈ t) (hblank : Text.isBlank c = false) :
    Text.trim t ≠ [] := by
  intro h
  have := (Text.trim_eq_nil_iff t).mp h c hc
  rw [hblank] at this
  cases this

theorem isBlank_of_mem_numberText {n : Number} {c : Char} (hc : c ∈ Json.numberText n) :
    Text.isBlank c = false := by
  have hmarks : ∀ c ∈ ['.', '-', '+', 'e'], Text.isBlank c = false := by
    simp only [List.forall_mem_cons, List.not_mem_nil, false_imp_iff, implies_true, and_true]
    decide
  exact Json.forall_mem_numberText (fun _ => Text.isBlank_of_isDigit) hmarks n c hc

theorem trim_rawPath_ne_nil {m : Option Json} (h : rawPath m ≠ []) :
    Text.trim (rawPath m) ≠ [] := by
  rcases m with _ | _ | b | n | s | vs | ms
  case none => exact absurd rfl h
  case some.null => exact absurd rfl h
  case some.bool => cases b <;> decide
  case some.string =>
    have hraw : rawPath (some (.string s)) = Text.trim s := rfl
    rwa [hraw, Text.trim_trim] at *
  case some.number =>
    obtain ⟨c, t, hc⟩ := List.exists_cons_of_ne_nil h
    have hmem : c ∈ rawPath (some (.number n)) := by simp [hc]
    exact trim_ne_nil_of_mem hmem (isBlank_of_mem_numberText hmem)
  case some.array => exact trim_ne_nil_of_mem (c := '[') List.mem_cons_self (by decide)
  case some.object => exact trim_ne_nil_of_mem (c := '\x7b') List.mem_cons_self (by decide)

theorem settled_of_path {path : Text} (h : Text.trim path ≠ []) (method : Method)
    (body : Option Json) :
    Settled ⟨method, Address.normalizePath path, body.filter fun v => !v.isNull⟩ where
  path := Address.normalizePath_normalizePath path
  trimmed := Address.trim_normalizePath path
  nonempty := Address.normalizePath_ne_nil h
  body := by simp [Option.filter_filter]

theorem settled_of_validate {index : Nat} {item : Json} {r : Request}
    (h : validate index item = .ok r) :
    r.Settled := by
  rcases item with _ | _ | _ | _ | _ | ms
  case object =>
    rw [validate] at h
    split at h
    · cases h
    · split at h
      · cases h
      · next hpath =>
        cases h
        exact settled_of_path (trim_rawPath_ne_nil (by simpa using hpath)) _ _
  all_goals cases h

@[simp] theorem rawMethod_name (m : Method) : rawMethod (some (.string m.name)) = m.name := by
  cases m <;> decide +kernel

/-- The members of a request, as an object has them. -/
def formMembers (r : Request) : List (Text × Json) :=
  [("body".toList, r.body.getD .null), ("method".toList, .string r.method.name),
    ("path".toList, .string r.path)]

theorem validate_toJson {r : Request} (h : r.Settled) (index : Nat) :
    validate index r.toJson = .ok r := by
  have hform : r.toJson = .object r.formMembers := rfl
  have hpath : rawPath (some (.string r.path)) = r.path := h.trimmed
  have hlookup : r.formMembers.lookup "path".toList = some (.string r.path) := rfl
  have hlookup' : r.formMembers.lookup "method".toList = some (.string r.method.name) := rfl
  have hlookup'' : r.formMembers.lookup "body".toList = some (r.body.getD .null) := rfl
  have hbody : (some (r.body.getD .null)).filter (fun v => !v.isNull) = r.body := by
    have := h.body
    cases hb : r.body with
    | none => rfl
    | some b => rwa [hb] at this
  have hempty : r.path.isEmpty = false := by simpa using h.nonempty
  rw [hform]
  simp only [validate, hlookup, hlookup', hlookup'', hpath, rawMethod_name, Method.ofName?_name,
    hempty, h.path, hbody]
  rfl

theorem exists_items {v : Json} {rs : List Request} (h : validateAll v = .ok rs) :
    ∃ item items, v = .array (item :: items) ∧ mapNumbered validate 1 (item :: items) = .ok rs := by
  rcases v with _ | _ | _ | _ | (_ | ⟨item, items⟩) | _
  case array.cons => exact ⟨item, items, rfl, h⟩
  all_goals cases h

theorem ne_nil_of_validateAll {v : Json} {rs : List Request} (h : validateAll v = .ok rs) :
    rs ≠ [] := by
  obtain ⟨item, items, -, h⟩ := exists_items h
  exact ne_nil_of_mapNumbered_cons h

theorem settled_of_validateAll {v : Json} {rs : List Request} (h : validateAll v = .ok rs) :
    ∀ r ∈ rs, r.Settled := by
  obtain ⟨item, items, -, h⟩ := exists_items h
  intro r hr
  obtain ⟨i, item, -, hitem⟩ := exists_of_mem_mapNumbered h r hr
  exact settled_of_validate hitem

theorem validateAll_toJson {rs : List Request} (hne : rs ≠ []) (h : ∀ r ∈ rs, r.Settled) :
    validateAll (.array (rs.map toJson)) = .ok rs := by
  cases rs with
  | nil => exact absurd rfl hne
  | cons r rs => exact mapNumbered_map (fun i s hs => validate_toJson (h s hs) i) 1

end Request

namespace Headers

def names (hs : Headers) : List Text := hs.map Prod.fst

theorem validate_cons (name : Text) (v : Json) (ms : List (Text × Json)) :
    validate (.object ((name, v) :: ms)) = match valueText? v with
      | some t => (validate (.object ms)).map ((name, t) :: ·)
      | none => .error (.badHeader name) := by
  simp only [validate, List.mapM_cons]
  cases valueText? v with
  | none => rfl
  | some t => rfl

theorem names_of_validate {ms : List (Text × Json)} {hs : Headers}
    (h : validate (.object ms) = .ok hs) :
    names hs = Json.keys ms := by
  induction ms generalizing hs with
  | nil =>
    cases h
    rfl
  | cons m ms ih =>
    obtain ⟨name, v⟩ := m
    rw [validate_cons] at h
    split at h
    · obtain ⟨hs', hrest, rfl⟩ := eq_ok_of_map h
      rw [Json.keys_cons, ← ih hrest]
      rfl
    · cases h

@[simp] theorem validate_strings (hs : Headers) :
    validate (.object (hs.map fun m => (m.1, .string m.2))) = .ok hs := by
  induction hs with
  | nil => rfl
  | cons m hs ih =>
    rw [List.map_cons, validate_cons]
    simp only [valueText?, ih]
    rfl

theorem validate_toJson {hs : Headers} (h : (names hs).Pairwise (· < ·)) :
    validate (toJson hs) = .ok hs := by
  have hkeys : (Json.keys (hs.map fun m => (m.1, Json.string m.2))).Pairwise (· < ·) := by
    rw [Json.keys, List.map_map]
    exact h
  rw [toJson, Json.ofMembers, Json.sortMembers_eq_self hkeys, validate_strings]

end Headers
end TestBench
