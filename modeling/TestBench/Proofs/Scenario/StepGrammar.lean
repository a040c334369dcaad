import TestBench.Proofs.Scenario.Grammar

/-! Raw steps are read by their grammar: every well-formed one stands for a step, and of any other
the first violation is reported. -/
namespace TestBench

open Json (IsObject IsText IsNonBlank IsTime StandsFor)

theorem Json.given?_object (key : Text) (ms : List (Text × Json)) :
    given? key (.object ms) = (ms.lookup key).filter fun m => !m.isNull := rfl

namespace Step

theorem message_wrongType (found : Text) (wanted : String) :
    (FieldFault.wrongType found wanted.toList).message =
      "invalid type: ".toList ++ found ++ (", expected ".toList ++ wanted.toList) :=
        List.append_assoc ..

theorem textField_cases (ms : List (Text × Json)) {f : Field} (hf : f ≠ .ms) :
    (f.Fits (.object ms) ∧
      textField ms f = .ok ((Json.given? f.name (.object ms)).bind Json.text?)) ∨
    (¬ f.Fits (.object ms) ∧ ∃ m fault, Json.given? f.name (.object ms) = some m ∧
      textField ms f = .error fault ∧
      fault.message = f.complaint m) := by
  have hfits : f.Fits (.object ms) ↔
      Json.given? f.name (.object ms) = none ∨ IsText (Json.given? f.name (.object ms)) := by
    cases f <;> first | exact absurd rfl hf | exact Iff.rfl
  have hmessage : ∀ m : Json, (FieldFault.wrongType m.description "a string".toList).message =
      f.complaint m := by
    intro m
    rw [message_wrongType]
    cases f <;> first | exact absurd rfl hf | rfl
  have hwrong : ∀ m : Json, ¬ IsText (some m) → ¬ (some m = none ∨ IsText (some m)) := by simp
  rw [hfits, textField, Json.given?_object]
  cases hm : ms.lookup f.name with
  | none => exact .inl ⟨.inl rfl, rfl⟩
  | some m =>
    cases m with
    | null => exact .inl ⟨.inl rfl, rfl⟩
    | string s => exact .inl ⟨.inr ⟨s, rfl⟩, rfl⟩
    | bool b => exact .inr ⟨hwrong _ (by simp [IsText]), _, _, rfl, rfl, hmessage _⟩
    | number n => exact .inr ⟨hwrong _ (by simp [IsText]), _, _, rfl, rfl, hmessage _⟩
    | array vs => exact .inr ⟨hwrong _ (by simp [IsText]), _, _, rfl, rfl, hmessage _⟩
    | object ms' => exact .inr ⟨hwrong _ (by simp [IsText]), _, _, rfl, rfl, hmessage _⟩

/-- The time field fits and is read, or it is complained about. -/
theorem timeField_cases (ms : List (Text × Json)) :
    (Field.ms.Fits (.object ms) ∧
      timeField ms = .ok ((Json.given? Field.ms.name (.object ms)).bind Json.toUInt64?)) ∨
    (¬ Field.ms.Fits (.object ms) ∧ ∃ m fault, Json.given? Field.ms.name (.object ms) = some m ∧
      timeField ms = .error fault ∧ fault.message = Field.ms.complaint m) := by
  have hfits : Field.ms.Fits (.object ms) ↔
      Json.given? Field.ms.name (.object ms) = none ∨
        IsTime (Json.given? Field.ms.name (.object ms)) := Iff.rfl
  have hmessage : ∀ m : Json, (∀ i h, m ≠ .number (.integer i h)) →
      (FieldFault.wrongType m.description "u64".toList).message = Field.ms.complaint m := by
    intro m hm
    rw [message_wrongType]
    rcases m with _ | _ | (⟨i, h⟩ | _) | _ | _ | _
    case number.integer => exact absurd rfl (hm i h)
    all_goals rfl
  have hwrong : ∀ m : Json, ¬ IsTime (some m) → ¬ (some m = none ∨ IsTime (some m)) := by simp
  rw [hfits, timeField, Json.given?_object]
  cases hm : ms.lookup Field.ms.name with
  | none => exact .inl ⟨.inl rfl, rfl⟩
  | some m =>
    rcases m with _ | b | (⟨i, hi⟩ | x) | s | vs | ms'
    case null => exact .inl ⟨.inl rfl, rfl⟩
    case number.integer =>
      by_cases hneg : 0 ≤ i
      · have hread : Number.toUInt64? (.integer i hi) = some (UInt64.ofNat i.toNat) := if_pos hneg
        refine .inl ⟨.inr ⟨i, hi, rfl, hneg, hi.2⟩, ?_⟩
        simp only [hread]
        exact congrArg Except.ok hread.symm
      · have hread : Number.toUInt64? (.integer i hi) = none := if_neg hneg
        refine .inr ⟨hwrong _ ?_, _,
          .wrongValue (Json.description (.number (.integer i hi))) "u64".toList, rfl, ?_,
          List.append_assoc ..⟩
        · rintro ⟨j, hj, heq, hpos, -⟩
          cases heq
          exact hneg hpos
        · simp [hread]
    case bool => exact .inr ⟨hwrong _ (by simp [IsTime]), _, _, rfl, rfl, hmessage _ (by simp)⟩
    case number.real =>
      exact .inr ⟨hwrong _ (by simp [IsTime]), _, _, rfl, rfl, hmessage _ (by simp)⟩
    case string => exact .inr ⟨hwrong _ (by simp [IsTime]), _, _, rfl, rfl, hmessage _ (by simp)⟩
    case array => exact .inr ⟨hwrong _ (by simp [IsTime]), _, _, rfl, rfl, hmessage _ (by simp)⟩
    case object => exact .inr ⟨hwrong _ (by simp [IsTime]), _, _, rfl, rfl, hmessage _ (by simp)⟩

/-- What a raw step gives for a step of a kind, as far as its fields fit. -/
def draftGiven (kind : StepKind) (v : Json) : Draft where
  kind := kind
  selector := (v.given? Field.selector.name).bind Json.text?
  value := (v.given? Field.value.name).bind Json.text?
  key := (v.given? Field.key.name).bind Json.text?
  path := (v.given? Field.path.name).bind Json.text?
  ms := (v.given? Field.ms.name).bind Json.toUInt64?

/-- Fields are looked at in their order, up to the first that does not fit. -/
theorem draftOf_cases (kind : StepKind) (ms : List (Text × Json)) :
    ((∀ f : Field, f.Fits (.object ms)) ∧ draftOf kind ms = .ok (draftGiven kind (.object ms))) ∨
    (∃ before f after m fault, Field.order = before ++ f :: after ∧
      (∀ g ∈ before, g.Fits (.object ms)) ∧
      ¬ f.Fits (.object ms) ∧ Json.given? f.name (.object ms) = some m ∧
      draftOf kind ms = .error fault ∧
      fault.message = f.complaint m) := by
  rcases textField_cases ms (f := .key) (by decide) with
    ⟨hkey, ekey⟩ | ⟨hkey, m, fault, hm, ekey, hfault⟩
  case inr =>
    exact .inr ⟨[], .key, _, m, fault, rfl, by simp, hkey, hm, by rw [draftOf, ekey]; rfl, hfault⟩
  rcases timeField_cases ms with ⟨htime, etime⟩ | ⟨htime, m, fault, hm, etime, hfault⟩
  case inr =>
    exact .inr ⟨[.key], .ms, _, m, fault, rfl, by simpa using hkey, htime,
      hm, by rw [draftOf, ekey, etime]; rfl, hfault⟩
  rcases textField_cases ms (f := .path) (by decide) with
    ⟨hpath, epath⟩ | ⟨hpath, m, fault, hm, epath, hfault⟩
  case inr =>
    exact .inr ⟨[.key, .ms], .path, _, m, fault, rfl, by simpa using ⟨hkey, htime⟩, hpath, hm,
      by rw [draftOf, ekey, etime, epath]; rfl, hfault⟩
  rcases textField_cases ms (f := .selector) (by decide) with
    ⟨hsel, esel⟩ | ⟨hsel, m, fault, hm, esel, hfault⟩
  case inr =>
    exact .inr ⟨[.key, .ms, .path], .selector, _, m, fault,
      rfl, by simpa using ⟨hkey, htime, hpath⟩, hsel, hm,
      by rw [draftOf, ekey, etime, epath, esel]; rfl, hfault⟩
  rcases textField_cases ms (f := .value) (by decide) with
    ⟨hval, eval⟩ | ⟨hval, m, fault, hm, eval, hfault⟩
  case inr =>
    exact .inr ⟨[.key, .ms, .path, .selector], .value, _, m, fault,
      rfl, by simpa using ⟨hkey, htime, hpath, hsel⟩,
      hval, hm, by rw [draftOf, ekey, etime, epath, esel, eval]; rfl, hfault⟩
  refine .inl ⟨fun f => ?_, by rw [draftOf, ekey, etime, epath, esel, eval]; rfl⟩
  cases f with
  | selector => exact hsel
  | value => exact hval
  | key => exact hkey
  | path => exact hpath
  | ms => exact htime

variable {v : Json} {kind : StepKind}

theorem bind_text?_of_nonBlank {m : Option Json} (h : IsNonBlank m) :
    ∃ t, m.bind Json.text? = some t ∧ Text.trimmed? t = some (Text.trim t) ∧
    StandsFor m (Text.trim t) := by
  obtain ⟨t, rfl, ht⟩ := h
  exact ⟨t, rfl, Text.trimmed?_eq_some_iff.mpr ⟨ht, rfl⟩, t, rfl, rfl⟩

theorem bind_trimmed?_of_not_nonBlank {m : Option Json} (h : ¬ IsNonBlank m) :
    (m.bind Json.text?).bind Text.trimmed? = none := by
  rcases m with _ | (_ | _ | _ | t | _ | _)
  case some.string =>
    have hblank : Text.isBlankText t = true := by
      by_contra hne
      exact h ⟨t, rfl, by simpa using hne⟩
    exact Text.trimmed?_eq_none_iff.mpr hblank
  all_goals rfl

/-- A check of a need either passes, with a result that has a property, or fails with its
complaint. -/
def Checks (v : Json) (need : Need) (check : Except DraftFault α) (p : α → Prop) : Prop :=
  (need.Met v ∧ ∃ a, check = .ok a ∧ p a) ∨
    (¬ need.Met v ∧ ∃ fault, check = .error fault ∧ fault.message = need.complaint)

theorem checks_requireText (v : Json) (f : Field) :
    Checks v (.nonBlank f) (Draft.requireText f ((v.given? f.name).bind Json.text?))
      (StandsFor (v.given? f.name)) := by
  by_cases h : IsNonBlank (v.given? f.name)
  · obtain ⟨t, ht, htrim, hstands⟩ := bind_text?_of_nonBlank h
    exact .inl ⟨h, _, by rw [Draft.requireText, ht, Option.bind_some, htrim], hstands⟩
  · exact .inr ⟨h, .missing f, by rw [Draft.requireText, bind_trimmed?_of_not_nonBlank h], rfl⟩

theorem checks_requireGiven (v : Json) (f : Field) :
    Checks v (.text f) (Draft.requireGiven f ((v.given? f.name).bind Json.text?))
      (fun t => v.given? f.name = some (.string t)) := by
  rw [Checks, Need.Met]
  rcases v.given? f.name with _ | (_ | _ | _ | t | _ | _)
  case some.string => exact .inl ⟨⟨t, rfl⟩, t, rfl, rfl⟩
  all_goals exact .inr ⟨by simp [IsText], .missing f, rfl, rfl⟩

/-- A draft gives a step of its kind if all needs are met; otherwise the first need that is not met
is complained about. -/
def Settles (v : Json) (kind : StepKind) (needs : List Need) (result : Except DraftFault Step) :
    Prop :=
  ((∀ need ∈ needs, need.Met v) ∧ ∃ s, result = .ok s ∧ s.kind = kind ∧ s.FieldsOf v) ∨
    ∃ before need after fault, needs = before ++ need :: after ∧ (∀ n ∈ before, n.Met v) ∧
      ¬ need.Met v ∧
      result = .error fault ∧ fault.message = need.complaint

theorem settles_one {need : Need} {check : Except DraftFault α} {p : α → Prop} {f : α → Step}
    (h : Checks v need check p) (hf : ∀ a, p a → (f a).kind = kind ∧ (f a).FieldsOf v) :
    Settles v kind [need] (check >>= fun a => pure (f a)) := by
  rcases h with ⟨hmet, a, rfl, ha⟩ | ⟨hnot, fault, rfl, hfault⟩
  · exact .inl ⟨by simpa using hmet, f a, rfl, hf a ha⟩
  · exact .inr ⟨[], need, [], fault, rfl, by simp, hnot, rfl, hfault⟩

theorem settles_two {need need' : Need} {check : Except DraftFault α} {check' : Except DraftFault β}
    {p : α → Prop} {p' : β → Prop} {f : α → β → Step} (h : Checks v need check p)
    (h' : Checks v need' check' p')
    (hf : ∀ a b, p a → p' b → (f a b).kind = kind ∧ (f a b).FieldsOf v) :
    Settles v kind [need, need'] (check >>= fun a => check' >>= fun b => pure (f a b)) := by
  rcases h with ⟨hmet, a, rfl, ha⟩ | ⟨hnot, fault, rfl, hfault⟩
  · rcases h' with ⟨hmet', b, rfl, hb⟩ | ⟨hnot', fault, rfl, hfault⟩
    · exact .inl ⟨by simpa using ⟨hmet, hmet'⟩, f a b, rfl, hf a b ha hb⟩
    · exact .inr ⟨[need], need', [], fault, rfl, by simpa using hmet, hnot', rfl, hfault⟩
  · exact .inr ⟨[], need, [need'], fault, rfl, by simp, hnot, rfl, hfault⟩

theorem bind_trimmed?_eq_some_iff {m : Option Json} {t : Text} :
    (m.bind Json.text?).bind Text.trimmed? = some t ↔ IsNonBlank m ∧ StandsFor m t := by
  constructor
  · intro h
    by_cases hm : IsNonBlank m
    · obtain ⟨s, hs, htrim, hstands⟩ := bind_text?_of_nonBlank hm
      rw [hs, Option.bind_some, htrim, Option.some_inj] at h
      exact ⟨hm, h ▸ hstands⟩
    · rw [bind_trimmed?_of_not_nonBlank hm] at h
      cases h
  · rintro ⟨hm, s, hs, rfl⟩
    obtain ⟨s', hs', htrim, -⟩ := bind_text?_of_nonBlank hm
    have hsame : s = s' := by
      rw [hs] at hs'
      exact Option.some_inj.mp hs'
    rw [hs', Option.bind_some, htrim, hsame]

@[simp] theorem toUInt64?_ofUInt64 (n : UInt64) :
    Json.toUInt64? (.number (.ofUInt64 n)) = some n := by
  rw [Json.toUInt64?, Number.ofUInt64, Number.toUInt64?, if_pos (by omega)]
  simp

theorem isTime_iff {m : Option Json} : IsTime m ↔ ∃ n, m = some (.number (.ofUInt64 n)) := by
  constructor
  · rintro ⟨i, hi, rfl, hpos, hle⟩
    refine ⟨UInt64.ofNat i.toNat, ?_⟩
    have hvalue : ((UInt64.ofNat i.toNat).toNat : Int) = i := by
      rw [UInt64.toNat_ofNat_of_lt' (by rw [UInt64.size]; omega)]
      omega
    simp only [Number.ofUInt64, hvalue]
  · rintro ⟨n, rfl⟩
    have hlt := n.toNat_lt
    exact ⟨n.toNat, _, rfl, by omega, by omega⟩

/-- Waiting needs a selector or a time, and takes both if both are there. -/
theorem settles_waitFor (hms : Field.ms.Fits v) :
    Settles v .waitFor [.selectorOrTime] (draftGiven .waitFor v).toStep := by
  have htime : ∀ n, (v.given? Field.ms.name).bind Json.toUInt64? = some n ↔
      v.given? Field.ms.name = some (.number (.ofUInt64 n)) := by
    intro n
    rcases hms with hnone | htime
    · simp [hnone]
    · obtain ⟨k, hk⟩ := isTime_iff.mp htime
      rw [hk, Option.bind_some, toUInt64?_ofUInt64]
      constructor
      · intro h
        rw [Option.some_inj.mp h]
      · intro h
        have hread := congrArg (fun m => m.bind Json.toUInt64?) h
        simpa only [Option.bind_some, toUInt64?_ofUInt64] using hread
  by_cases hmet : Need.Met v .selectorOrTime
  · refine .inl ⟨by simpa using hmet,
      .waitFor (((v.given? Field.selector.name).bind Json.text?).bind Text.trimmed?)
      ((v.given? Field.ms.name).bind Json.toUInt64?), ?_, rfl,
        fun t => bind_trimmed?_eq_some_iff, htime⟩
    have hgiven : ((v.given? Field.selector.name).bind Json.text?).bind Text.trimmed? ≠ none ∨
        (v.given? Field.ms.name).bind Json.toUInt64? ≠ none := by
      rcases hmet with hsel | hms
      · obtain ⟨t, ht, htrim, -⟩ := bind_text?_of_nonBlank hsel
        exact .inl (by simp [ht, htrim])
      · obtain ⟨n, hn⟩ := isTime_iff.mp hms
        exact .inr (by simp [(htime n).mpr hn])
    rw [Draft.toStep]
    dsimp only [draftGiven]
    split
    · next hsel hms => simp [hsel, hms] at hgiven
    · rfl
  · refine .inr ⟨[], .selectorOrTime, [], .needsSelectorOrMs, rfl, by simp, hmet, ?_, rfl⟩
    rw [Need.Met, not_or] at hmet
    have hsel := bind_trimmed?_of_not_nonBlank hmet.1
    have hnone : (v.given? Field.ms.name).bind Json.toUInt64? = none := by
      rcases hms with hnone | htime
      · rw [hnone, Option.bind_none]
      · exact absurd htime hmet.2
    rw [Draft.toStep]
    dsimp only [draftGiven]
    rw [hsel, hnone]

theorem settles_toStep (hms : Field.ms.Fits v) (kind : StepKind) :
    Settles v kind kind.needs (draftGiven kind v).toStep := by
  cases kind with
  | goto => exact settles_one (checks_requireText v .path) fun t ht => ⟨rfl, ht⟩
  | click => exact settles_one (checks_requireText v .selector) fun t ht => ⟨rfl, ht⟩
  | expectVisible => exact settles_one (checks_requireText v .selector) fun t ht => ⟨rfl, ht⟩
  | expectHidden => exact settles_one (checks_requireText v .selector) fun t ht => ⟨rfl, ht⟩
  | fill =>
    exact settles_two (checks_requireText v .selector) (checks_requireGiven v .value)
      fun s t hs ht => ⟨rfl, hs, ht⟩
  | press =>
    exact settles_two (checks_requireText v .selector) (checks_requireText v .key)
      fun s t hs ht => ⟨rfl, hs, ht⟩
  | waitFor => exact settles_waitFor hms
  | expectTextContains =>
    exact settles_two (checks_requireText v .selector) (checks_requireGiven v .value)
      fun s t hs ht => ⟨rfl, hs, ht⟩
  | expectUrlContains => exact settles_one (checks_requireGiven v .value) fun t ht => ⟨rfl, ht⟩
  | expectTitleContains => exact settles_one (checks_requireGiven v .value) fun t ht => ⟨rfl, ht⟩

theorem kind_cases (type : Text) :
    (∃ kind, StepKind.ofName? type = some kind ∧ kind.name = type) ∨
      (StepKind.ofName? type = none ∧ ∀ kind : StepKind, kind.name ≠ type) := by
  cases h : StepKind.ofName? type with
  | some kind => exact .inl ⟨kind, rfl, by simpa using List.find?_some h⟩
  | none =>
    exact .inr ⟨rfl,
      fun kind => by simpa using List.find?_eq_none.mp h kind (StepKind.mem_all kind)⟩

theorem bind_text?_of_not_text {m : Option Json} (h : ¬ IsText m) : m.bind Json.text? = none := by
  rcases m with _ | (_ | _ | _ | t | _ | _)
  case some.string => exact absurd ⟨t, rfl⟩ h
  all_goals rfl

/-- A raw step is well-formed and read as what it stands for, or its first violation is reported. -/
theorem validate_cases (v : Json) :
    (WellFormed v ∧ ∃ s, validate v = .ok s ∧ ReadAs v s) ∨
      (¬ WellFormed v ∧ ∃ fault, validate v = .error fault ∧ Violation v fault.message) := by
  by_cases hobject : v.IsObject
  case neg =>
    refine .inr ⟨fun h => hobject h.1, .notObject, ?_, .notObject hobject⟩
    cases v with
    | object ms => exact absurd ⟨ms, rfl⟩ hobject
    | _ => rfl
  obtain ⟨ms, rfl⟩ := hobject
  by_cases htype : IsText (Json.get? "type".toList (.object ms))
  case neg =>
    refine .inr ⟨fun ⟨_, kind, hkind, _⟩ => htype ⟨_, hkind⟩, .noType, ?_, .noType ⟨ms, rfl⟩ htype⟩
    have hread : (ms.lookup "type".toList).bind Json.text? = none := bind_text?_of_not_text htype
    simp only [validate, hread]
  obtain ⟨type, htype⟩ := htype
  have hread : (ms.lookup "type".toList).bind Json.text? = some type :=
    congrArg (Option.bind · Json.text?) htype
  rcases kind_cases type with ⟨kind, hkind, rfl⟩ | ⟨hnone, hunknown⟩
  case inr =>
    refine .inr ⟨fun ⟨_, kind, hkind, _⟩ => hunknown kind ?_, .unsupported type, ?_,
      .unsupported htype hunknown⟩
    · rw [htype] at hkind
      cases hkind
      rfl
    · simp only [validate, hread, hnone]
  have hsame : ∀ kind' : StepKind,
      Json.get? "type".toList (.object ms) = some (.string kind'.name) → kind' = kind := by
    intro kind' hkind'
    rw [htype, Option.some_inj, Json.string.injEq] at hkind'
    exact StepKind.name_injective hkind'.symm
  rcases draftOf_cases kind ms with
    ⟨hfits, hdraft⟩ | ⟨before, f, after, m, fault, horder, hbefore, hf, hm, hdraft, hfault⟩
  case inr =>
    refine .inr ⟨fun ⟨_, _, _, hfits, _⟩ => hf (hfits f), .badField fault, ?_, ?_⟩
    · simp only [validate, hread, hkind, hdraft]
    · have hmessage : (StepFault.badField fault).message = "invalid field: ".toList ++
          f.complaint m :=
        congrArg ("invalid field: ".toList ++ ·) hfault
      rw [hmessage]
      exact .badField htype horder hbefore hf hm
  rcases settles_toStep (hfits .ms) kind with
    ⟨hmet, s, hstep, hskind, hfields⟩ | ⟨before, need, after, fault, hneeds, hbefore, hneed,
      hstep, hfault⟩
  · refine .inl ⟨⟨⟨ms, rfl⟩, kind, htype, hfits, hmet⟩, s, ?_, hskind ▸ htype, hfields⟩
    simp only [validate, hread, hkind, hdraft, hstep]
    rfl
  · refine .inr ⟨fun ⟨_, kind', hkind', _, hmet⟩ => ?_, .draft fault, ?_, ?_⟩
    · rw [hsame kind' hkind', hneeds] at hmet
      exact hneed (hmet need (by simp))
    · simp only [validate, hread, hkind, hdraft, hstep]
      rfl
    · have hmessage : (StepFault.draft fault).message = need.complaint := hfault
      rw [hmessage]
      exact .missing htype hfits hneeds hbefore hneed

end Step
end TestBench
