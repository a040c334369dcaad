import TestBench.Proofs.Scenario.Retype
import TestBench.Proofs.Scenario.Stable

/-! Drafts that are steps already. Rebuilding such a draft for its own kind, or reading it back from
the form of the step, gives a draft of the same step. -/
namespace TestBench

variable {d d' : Draft} {k : StepKind} {s : Step} {f : Field}

namespace Draft

/-- Only the fields of its kind tell whether a draft is a step, and which one. -/
theorem toStep_congr (hk : d.kind = k) (hk' : d'.kind = k)
    (h : ∀ f ∈ k.fields, d.get? f = d'.get? f) :
    d.toStep = d'.toStep := by
  obtain ⟨kind, selector, value, key, path, ms⟩ := d
  obtain ⟨kind', selector', value', key', path', ms'⟩ := d'
  obtain rfl : kind = k := hk
  obtain rfl : kind' = kind := hk'
  cases kind' with
  | goto =>
    obtain rfl : path = path' := h .path (by decide)
    rfl
  | click | expectVisible | expectHidden =>
    obtain rfl : selector = selector' := h .selector (by decide)
    rfl
  | fill | expectTextContains =>
    obtain rfl : selector = selector' := h .selector (by decide)
    obtain rfl : value = value' := h .value (by decide)
    rfl
  | press =>
    obtain rfl : selector = selector' := h .selector (by decide)
    obtain rfl : key = key' := h .key (by decide)
    rfl
  | waitFor =>
    obtain rfl : selector = selector' := h .selector (by decide)
    obtain rfl : ms = ms' := h .ms (by decide)
    rfl
  | expectUrlContains | expectTitleContains =>
    obtain rfl : value = value' := h .value (by decide)
    rfl

theorem exists_of_requireText {m : Option Text} {t : Text} (h : requireText f m = .ok t) :
    ∃ u, m = some u := by
  obtain ⟨u, hu, -⟩ := Option.bind_eq_some_iff.mp (requireText_eq_ok_iff.mp h)
  exact ⟨u, hu⟩

theorem exists_of_requireGiven {m : Option Text} {t : Text} (h : requireGiven f m = .ok t) :
    ∃ u, m = some u := by
  cases m with
  | none => cases h
  | some u => exact ⟨u, rfl⟩

theorem kind_of_toStep (h : d.toStep = .ok s) : s.kind = d.kind := by
  obtain ⟨kind, selector, value, key, path, ms⟩ := d
  cases kind with
  | goto | click | expectVisible | expectHidden | expectUrlContains | expectTitleContains =>
    obtain ⟨t, -, h⟩ := eq_ok_of_bind h
    cases h
    rfl
  | fill | press | expectTextContains =>
    obtain ⟨t, -, h⟩ := eq_ok_of_bind h
    obtain ⟨u, -, h⟩ := eq_ok_of_bind h
    cases h
    rfl
  | waitFor =>
    rw [toStep_waitFor] at h
    split at h
    · cases h
    · cases h
      rfl

/-- A draft that is a step leaves nothing open that would be filled in. -/
theorem or_filler_of_toStep (h : d.toStep = .ok s) (hf : f ∈ d.kind.fields) :
    (d.get? f).or (d.filler d.kind f) = d.get? f := by
  obtain ⟨kind, selector, value, key, path, ms⟩ := d
  cases kind with
  | goto =>
    obtain ⟨t, ht, -⟩ := eq_ok_of_bind h
    obtain ⟨u, rfl⟩ := exists_of_requireText ht
    obtain rfl := List.mem_singleton.mp hf
    rfl
  | click | expectVisible | expectHidden =>
    obtain ⟨t, ht, -⟩ := eq_ok_of_bind h
    obtain ⟨u, rfl⟩ := exists_of_requireText ht
    obtain rfl := List.mem_singleton.mp hf
    rfl
  | fill | expectTextContains =>
    obtain ⟨t, ht, h⟩ := eq_ok_of_bind h
    obtain ⟨u, hu, -⟩ := eq_ok_of_bind h
    obtain ⟨t, rfl⟩ := exists_of_requireText ht
    obtain ⟨u, rfl⟩ := exists_of_requireGiven hu
    rcases List.mem_pair.mp hf with rfl | rfl <;> rfl
  | press =>
    obtain ⟨t, ht, h⟩ := eq_ok_of_bind h
    obtain ⟨u, hu, -⟩ := eq_ok_of_bind h
    obtain ⟨t, rfl⟩ := exists_of_requireText ht
    obtain ⟨u, rfl⟩ := exists_of_requireText hu
    rcases List.mem_pair.mp hf with rfl | rfl <;> rfl
  | waitFor =>
    rcases List.mem_pair.mp hf with rfl | rfl
    · exact Option.or_none
    · cases selector with
      | some t => exact Option.or_none
      | none =>
        -- Without a selector there is a time to wait for.
        cases ms with
        | none => cases h
        | some n => rfl
  | expectUrlContains | expectTitleContains =>
    obtain ⟨t, ht, -⟩ := eq_ok_of_bind h
    obtain ⟨u, rfl⟩ := exists_of_requireGiven ht
    obtain rfl := List.mem_singleton.mp hf
    rfl

theorem get?_retype_of_toStep (h : d.toStep = .ok s) (hf : f ∈ d.kind.fields) :
    (d.retype d.kind).get? f = d.get? f := by
  rw [get?_retype, if_pos hf, or_filler_of_toStep h hf]

theorem toStep_retype (h : d.toStep = .ok s) : (d.retype d.kind).toStep = .ok s := by
  rw [toStep_congr (kind_retype d d.kind) rfl fun f hf => get?_retype_of_toStep h hf, h]

theorem retype_eq_self (h : d.toStep = .ok s) (honly : ∀ f, f ∉ d.kind.fields → d.get? f = none) :
    d.retype d.kind = d := by
  refine ext_get? (kind_retype d d.kind) fun f => ?_
  by_cases hf : f ∈ d.kind.fields
  · exact get?_retype_of_toStep h hf
  · rw [get?_retype_of_not_mem hf, honly f hf]

end Draft

namespace Step

theorem kind_toDraft (s : Step) : s.toDraft.kind = s.kind := by
  cases s <;> rfl

theorem get?_toDraft_of_not_mem (hf : f ∉ s.kind.fields) : s.toDraft.get? f = none := by
  cases s <;> cases f <;> simp_all [kind, StepKind.fields, toDraft, Draft.get?, Draft.empty]

@[simp] theorem ofJson?_toJson (s : Step) : Draft.ofJson? s.toJson = some s.toDraft := by
  cases s with
  | waitFor selector ms =>
    cases ms with
    | none => cases selector <;> rfl
    | some n =>
      have hn : Json.Record.nullable Json.toUInt64? (.ofUInt64 n) = some (some n) :=
        congrArg (Option.map some) (toUInt64?_ofUInt64 n)
      have hread : Draft.ofJson? (waitFor selector (some n)).toJson =
          (Json.Record.nullable Json.toUInt64? (.ofUInt64 n)).map
            fun ms => { Draft.empty .waitFor with selector := selector, ms := ms } := by
        cases selector <;> rfl
      rw [hread, hn]
      rfl
  | _ => rfl

theorem retype_toDraft (h : s.Settled) : s.toDraft.retype s.toDraft.kind = s.toDraft :=
  Draft.retype_eq_self h fun f hf => get?_toDraft_of_not_mem (by rwa [kind_toDraft] at hf)

end Step

/-- A draft that is a step tells of the step's kind, and is the same step when it is rebuilt for
that kind. The form of the step is read as a draft of the same step, and that one is left as it is
when it is rebuilt. -/
theorem Draft.step_of_rebuilt_draft (h : d.toStep = .ok s) :
    s.kind = d.kind ∧ (d.retype d.kind).toStep = .ok s ∧
    ∃ d', Draft.ofJson? s.toJson = some d' ∧ d'.toStep = .ok s ∧ d'.retype d'.kind = d' :=
  ⟨kind_of_toStep h, toStep_retype h, s.toDraft, s.ofJson?_toJson, toStep_toDraft h,
    Step.retype_toDraft (toStep_toDraft h)⟩

/-- A time with a blank selector, and a value that a wait does not have. -/
theorem Draft.step_of_rebuilt_draft_of_blank_selector :
    let d : Draft := ⟨.waitFor, some " ".toList, some "a".toList, none, none, some 5⟩
    let s : Step := .waitFor none (some 5)
    d.toStep = .ok s ∧ s.kind = d.kind ∧ (d.retype d.kind).toStep = .ok s ∧
    ∃ d', Draft.ofJson? s.toJson = some d' ∧ d'.toStep = .ok s ∧ d'.retype d'.kind = d' :=
  have h : Draft.toStep ⟨.waitFor, some " ".toList, some "a".toList, none, none, some 5⟩ =
      .ok (.waitFor none (some 5)) :=
    rfl
  ⟨h, Draft.step_of_rebuilt_draft h⟩

end TestBench
