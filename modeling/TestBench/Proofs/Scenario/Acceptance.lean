import TestBench.Proofs.Scenario.Numbered
import TestBench.Proofs.Scenario.StepGrammar

/-! Lists of raw scenarios are accepted exactly if they follow the grammar, and read as what they
stand for; of any other list the first violation is reported. -/
namespace TestBench

open Json (IsObject IsText IsNonBlank IsTime StandsFor)

namespace Scenario

theorem validName?_eq_some_iff {m : Option Json} {name : Text} :
    validName? m = some name ↔ IsNonBlank m ∧ StandsFor m name := Step.bind_trimmed?_eq_some_iff

theorem validName?_of_not_nonBlank {m : Option Json} (h : ¬ IsNonBlank m) : validName? m = none :=
  Step.bind_trimmed?_of_not_nonBlank h

theorem validStart?_cases (key : Text) (ms : List (Text × Json)) :
    (∃ start, validStart? (ms.lookup key) = some start ∧
      ((Json.given? key (.object ms) = none ∧ start = "/".toList) ∨
        (IsNonBlank (Json.given? key (.object ms)) ∧
          StandsFor (Json.given? key (.object ms)) start))) ∨
    (¬ (Json.given? key (.object ms) = none ∨ IsNonBlank (Json.given? key (.object ms))) ∧
      validStart? (ms.lookup key) = none) := by
  rw [Json.given?_object]
  rcases ms.lookup key with _ | m
  case none => exact .inl ⟨_, rfl, .inl ⟨rfl, rfl⟩⟩
  rcases m with _ | b | n | s | vs | ms'
  case null => exact .inl ⟨_, rfl, .inl ⟨rfl, rfl⟩⟩
  case string =>
    by_cases hblank : Text.isBlankText s = true
    · refine .inr ⟨?_, Text.trimmed?_eq_none_iff.mpr hblank⟩
      rintro (hnone | ⟨t, ht, hnot⟩)
      · cases hnone
      · cases ht
        rw [hblank] at hnot
        cases hnot
    · rw [Bool.not_eq_true] at hblank
      exact .inl ⟨Text.trim s, Text.trimmed?_eq_some_iff.mpr ⟨hblank, rfl⟩,
        .inr ⟨⟨s, rfl, hblank⟩, s, rfl, rfl⟩⟩
  all_goals
    refine .inr ⟨?_, rfl⟩
    rintro (hnone | ⟨t, ht, -⟩)
    · cases hnone
    · cases ht

theorem rawSteps?_cases (key : Text) (ms : List (Text × Json)) :
    (∃ raw, rawSteps? (ms.lookup key) = some raw ∧
      ((Json.given? key (.object ms) = none ∧ raw = []) ∨
        Json.given? key (.object ms) = some (.array raw))) ∨
    (¬ (Json.given? key (.object ms) = none ∨
      ∃ raw, Json.given? key (.object ms) = some (.array raw)) ∧
      rawSteps? (ms.lookup key) = none) := by
  rw [Json.given?_object]
  rcases ms.lookup key with _ | m
  case none => exact .inl ⟨_, rfl, .inl ⟨rfl, rfl⟩⟩
  rcases m with _ | b | n | s | vs | ms'
  case null => exact .inl ⟨_, rfl, .inl ⟨rfl, rfl⟩⟩
  case array => exact .inl ⟨vs, rfl, .inr rfl⟩
  all_goals
    refine .inr ⟨?_, rfl⟩
    rintro (hnone | ⟨raw, hraw⟩)
    · cases hnone
    · cases hraw

theorem message_badStart (name : Text) :
    (ScenarioFault.badStart name).message =
      "Scenario '".toList ++ name ++ "': 'startPath' must be a non-empty string".toList := by
  rw [show "': 'startPath' must be a non-empty string".toList =
    "'".toList ++ ": 'startPath' must be a non-empty string".toList by decide, ← List.append_assoc]
  rfl

theorem message_badSteps (name : Text) :
    (ScenarioFault.badSteps name).message = "Scenario '".toList ++ name ++
      "': 'steps' must be an array".toList := by
  rw [show "': 'steps' must be an array".toList = "'".toList ++
    ": 'steps' must be an array".toList by decide, ← List.append_assoc]
  rfl

theorem stepLabel_eq (index : Nat) (s : Json) :
    stepLabel index s = " step ".toList ++ Text.ofNat index ++
      match s.textAt? "type".toList with
      | some type => " (".toList ++ type ++ ")".toList
      | none => [] := by
  have htype : s.textAt? "type".toList = (s.get? "type".toList).bind Json.text? := rfl
  unfold stepLabel
  rewrite [htype]
  rcases s.get? "type".toList with _ | (_ | _ | _ | type | _ | _) <;> rfl

theorem message_badStep (name : Text) (index : Nat) (s : Json) (fault : StepFault) :
    (ScenarioFault.badStep name index (s.textAt? "type".toList) fault).message =
      "Scenario '".toList ++ name ++ "'".toList ++ stepLabel index s ++ ": ".toList ++
        fault.message := by
  have hclose : "): ".toList = ")".toList ++ ": ".toList := by decide
  -- The fixed parts are variables here, so that they are not taken apart.
  have hnone : ∀ scenario step index colon message : Text,
      scenario ++ (step ++ index ++ colon ++ message) = scenario ++ (step ++ index ++ []) ++
        colon ++ message := by
    simp
  have hsome : ∀ scenario step index opening type closing colon message both : Text,
    both = closing ++ colon →
      scenario ++ (step ++ index ++ opening ++ type ++ both ++ message) =
        scenario ++ (step ++ index ++ (opening ++ type ++ closing)) ++ colon ++ message := by
    rintro _ _ _ _ _ _ _ _ _ rfl
    simp
  rewrite [stepLabel_eq]
  cases s.textAt? "type".toList with
  | none => exact hnone ("Scenario '".toList ++ name ++ "'".toList) " step ".toList _ _ _
  | some type =>
    exact hsome ("Scenario '".toList ++ name ++ "'".toList) " step ".toList _ _ type _ _ _ _ hclose

theorem validateStep_cases (name : Text) (index : Nat) (v : Json) :
    (Step.WellFormed v ∧ ∃ s, (Step.validate v).mapError
        (ScenarioFault.badStep name index (v.textAt? "type".toList)) = .ok s ∧ Step.ReadAs v s) ∨
      (¬ Step.WellFormed v ∧ ∃ fault, (Step.validate v).mapError
        (ScenarioFault.badStep name index (v.textAt? "type".toList)) = .error fault ∧
        ∃ reason, Step.Violation v reason ∧
          fault.message = "Scenario '".toList ++ name ++ "'".toList ++ stepLabel index v ++
            ": ".toList ++ reason) := by
  rcases Step.validate_cases v with ⟨hv, s, hs, hread⟩ | ⟨hv, fault, hfault, hviolation⟩
  · exact .inl ⟨hv, s, by rw [hs]; rfl, hread⟩
  · exact .inr ⟨hv, _, by rw [hfault]; rfl, fault.message, hviolation,
      message_badStep name index v fault⟩

/-- With a name, a start page and raw steps a scenario depends on its steps alone. -/
theorem validate_object (index : Nat) (ms : List (Text × Json)) {name start : Text}
    {raw : List Json} (hname : validName? (ms.lookup "name".toList) = some name)
    (hstart : validStart? (ms.lookup "startPath".toList) = some start)
    (hraw : rawSteps? (ms.lookup "steps".toList) = some raw) :
    validate index (.object ms) = (mapNumbered (fun i s =>
      (Step.validate s).mapError (.badStep name i (s.textAt? "type".toList))) 1 raw).map
        fun steps => ⟨name, start, steps⟩ := by
  simp only [validate, hname, hstart, hraw]
  rfl

/-- A raw scenario is well-formed and read as what it stands for, or its first violation is
reported. -/
theorem validate_cases (index : Nat) (v : Json) :
    (WellFormed v ∧ ∃ s, validate index v = .ok s ∧ ReadAs v s) ∨
      (¬ WellFormed v ∧ ∃ fault, validate index v = .error fault ∧
        Violation index v fault.message) := by
  by_cases hobject : v.IsObject
  case neg =>
    refine .inr ⟨fun h => hobject h.object, .notObject index, ?_, .notObject hobject⟩
    cases v with
    | object ms => exact absurd ⟨ms, rfl⟩ hobject
    | _ => rfl
  obtain ⟨ms, rfl⟩ := hobject
  by_cases hblank : IsNonBlank (Json.get? "name".toList (.object ms))
  case neg =>
    have hread : validName? (ms.lookup "name".toList) = none := validName?_of_not_nonBlank hblank
    refine .inr ⟨fun h => hblank h.name, .noName index, ?_, .noName ⟨ms, rfl⟩ hblank⟩
    simp only [validate, hread]
  obtain ⟨name, hname⟩ : ∃ name, StandsFor (Json.get? "name".toList (.object ms)) name := by
    obtain ⟨s, hs, -⟩ := hblank
    exact ⟨_, s, hs, rfl⟩
  have hread : validName? (ms.lookup "name".toList) = some name :=
    validName?_eq_some_iff.mpr ⟨hblank, hname⟩
  rcases validStart?_cases "startPath".toList ms with ⟨start, hstart, hgiven⟩ | ⟨hnot, hstart⟩
  case inr =>
    refine .inr ⟨fun h => hnot h.start, .badStart name, by simp only [validate, hread, hstart], ?_⟩
    rw [message_badStart]
    exact .badStart hblank hname hnot
  have hstartOk := hgiven.imp And.left And.left
  rcases rawSteps?_cases "steps".toList ms with ⟨raw, hraw, hsteps⟩ | ⟨hnot, hraw⟩
  case inr =>
    refine .inr ⟨fun h => hnot ?_, .badSteps name, by simp only [validate, hread, hstart, hraw], ?_⟩
    · exact h.steps.imp id fun ⟨raw, hraw, _⟩ => ⟨raw, hraw⟩
    · rw [message_badSteps]
      exact .badSteps hblank hname hstartOk hnot
  have hstep := validate_object index ms hread hstart hraw
  rcases mapNumbered_cases (validateStep_cases name) 1 raw with
    ⟨hall, steps, hmap, hall₂⟩ | ⟨before, s, after, fault, rfl, hbefore, hs, hmap, reason,
      hreason, hmessage⟩
  · refine .inl ⟨⟨⟨ms, rfl⟩, hblank, hstartOk, ?_⟩, ⟨name, start, steps⟩, by rw [hstep, hmap]; rfl,
      hname, ?_, ?_⟩
    · exact hsteps.imp And.left fun h => ⟨raw, h, hall⟩
    · exact hgiven.imp id And.right
    · refine hsteps.imp (fun ⟨h, hnil⟩ => ⟨h, ?_⟩) fun h => ⟨raw, h, hall₂⟩
      subst hnil
      exact List.forall₂_nil_left_iff.mp hall₂
  · have hgivenSteps := hsteps.resolve_left fun h => absurd h.2 (by simp)
    refine .inr ⟨fun h => ?_, fault, by rw [hstep, hmap]; rfl, ?_⟩
    · rcases h.steps with hnone | ⟨raw, hraw, hall⟩
      · rw [hgivenSteps] at hnone
        cases hnone
      · cases hgivenSteps.symm.trans hraw
        exact hs (hall s (by simp))
    · rw [hmessage, Nat.add_comm]
      exact .badStep hblank hname hstartOk hgivenSteps hbefore hs hreason

end Scenario
end TestBench
