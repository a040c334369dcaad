import TestBench.Proofs.Text.Trim
import TestBench.Scenario.Form

/-! Drafts that are rebuilt for one kind of step after another. A field of the kind is kept or
filled, any other is dropped; so a field lasts as long as all kinds have it, and nothing is left of
it after one that has not. -/
namespace TestBench

def StepKind.fields : StepKind → List Field
  | .goto => [.path]
  | .click | .expectVisible | .expectHidden => [.selector]
  | .fill | .expectTextContains => [.selector, .value]
  | .press => [.selector, .key]
  | .waitFor => [.selector, .ms]
  | .expectUrlContains | .expectTitleContains => [.value]

/-- What a field holds: a time or a text. -/
abbrev Field.Content : Field → Type
  | .ms => UInt64
  | .selector | .value | .key | .path => Text

namespace Draft

variable {d d' : Draft} {k : StepKind} {f : Field}

def get? (d : Draft) : (f : Field) → Option f.Content
  | .selector => d.selector
  | .value => d.value
  | .key => d.key
  | .path => d.path
  | .ms => d.ms

theorem ext_get? (hkind : d.kind = d'.kind) (hfields : ∀ f, d.get? f = d'.get? f) : d = d' := by
  obtain ⟨kind, selector, value, key, path, ms⟩ := d
  obtain ⟨kind', selector', value', key', path', ms'⟩ := d'
  obtain rfl : kind = kind' := hkind
  obtain rfl : selector = selector' := hfields .selector
  obtain rfl : value = value' := hfields .value
  obtain rfl : key = key' := hfields .key
  obtain rfl : path = path' := hfields .path
  obtain rfl : ms = ms' := hfields .ms
  rfl

/-- What a kind of step puts into a field that a draft leaves open; a time only if there is nothing
else to wait for. -/
def filler (d : Draft) : StepKind → (f : Field) → Option f.Content
  | .goto, .path => some "/".toList
  | .click, .selector | .expectVisible, .selector | .expectHidden, .selector =>
    some "text=Some text".toList
  | .fill, .selector | .press, .selector => some "input".toList
  | .fill, .value | .expectTextContains, .value | .expectTitleContains, .value => some "".toList
  | .press, .key => some "Enter".toList
  | .waitFor, .ms => if d.selector.isSome then none else some (800 : UInt64)
  | .expectTextContains, .selector => some "body".toList
  | .expectUrlContains, .value => some "/".toList
  | _, _ => none

theorem get?_retype (d : Draft) (k : StepKind) (f : Field) :
    (d.retype k).get? f = if f ∈ k.fields then (d.get? f).or (d.filler k f) else none := by
  cases k <;> cases f
  case waitFor.ms =>
    simp only [retype, get?, filler]
    split <;> simp [StepKind.fields]
  all_goals simp [retype, get?, empty, filler, StepKind.fields, orDefault]

theorem get?_retype_of_some {x : f.Content} (hf : f ∈ k.fields) (hx : d.get? f = some x) :
    (d.retype k).get? f = some x := by
  rw [get?_retype, if_pos hf, hx, Option.some_or]

@[simp] theorem get?_retype_of_not_mem (hf : f ∉ k.fields) : (d.retype k).get? f = none := by
  rw [get?_retype, if_neg hf]

theorem filler_congr (h : k = .waitFor → f = .ms → d.selector = d'.selector) :
    d.filler k f = d'.filler k f := by
  cases k <;> cases f
  case waitFor.ms => rw [filler, filler, h rfl rfl]
  all_goals rfl

@[simp] theorem filler_retype (d : Draft) (k : StepKind) (f : Field) :
    (d.retype k).filler k f = d.filler k f := by
  refine filler_congr fun hk _ => ?_
  subst hk
  rfl

@[simp] theorem retype_retype (d : Draft) (k : StepKind) : (d.retype k).retype k = d.retype k := by
  refine ext_get? (by rw [kind_retype, kind_retype]) fun f => ?_
  rw [get?_retype, get?_retype, filler_retype]
  split
  · rw [Option.or_assoc, Option.or_self]
  · rfl

theorem retype_congr (h : ∀ f ∈ k.fields, d.get? f = d'.get? f) : d.retype k = d'.retype k := by
  refine ext_get? (by rw [kind_retype, kind_retype]) fun f => ?_
  have hfiller : d.filler k f = d'.filler k f := by
    refine filler_congr fun hk _ => h .selector ?_
    subst hk
    decide
  rw [get?_retype, get?_retype, hfiller]
  split
  · next hf => rw [h f hf]
  · rfl

/-- The fields that the value of a field tells on: the field itself, and the time that stands in for
a selector. -/
def influence : Field → List Field
  | .selector => [.selector, .ms]
  | .value => [.value]
  | .key => [.key]
  | .path => [.path]
  | .ms => [.ms]

/-- Drafts with the same fields, except perhaps for those that a field tells on. -/
def AgreeOff (f : Field) (d d' : Draft) : Prop := ∀ g, g ∉ influence f → d.get? g = d'.get? g

theorem mem_influence_self (f : Field) : f ∈ influence f := by cases f <;> decide

theorem not_mem_influence {g : Field} (hf : f ∉ k.fields) (hg : g ∈ k.fields) :
    g ∉ influence f := by
  revert hf hg
  cases k <;> cases f <;> cases g <;> decide

theorem AgreeOff.retype (h : AgreeOff f d d') (k : StepKind) :
    AgreeOff f (d.retype k) (d'.retype k) := by
  intro g hg
  have hfiller : d.filler k g = d'.filler k g := by
    refine filler_congr fun _ hms => h .selector fun hselector => hg ?_
    -- Only a selector tells on itself, and then on the time as well.
    subst hms
    cases f <;> simp_all [influence]
  rw [get?_retype, get?_retype, hfiller, h g hg]

/-- The draft after changes to the kinds of a list, one after another. -/
def retypeAll (d : Draft) (ks : List StepKind) : Draft := ks.foldl retype d

@[simp] theorem retypeAll_cons (d : Draft) (k : StepKind) (ks : List StepKind) :
    d.retypeAll (k :: ks) = (d.retype k).retypeAll ks :=
  rfl

@[simp] theorem retypeAll_append (d : Draft) (ks : List StepKind) (k : StepKind) :
    d.retypeAll (ks ++ [k]) = (d.retypeAll ks).retype k := List.foldl_append

theorem get?_retypeAll {ks : List StepKind} {x : f.Content} (hks : ∀ k ∈ ks, f ∈ k.fields)
    (hx : d.get? f = some x) : (d.retypeAll ks).get? f = some x := by
  induction ks generalizing d with
  | nil => exact hx
  | cons k ks ih =>
    obtain ⟨hk, hks⟩ := List.forall_mem_cons.mp hks
    exact ih hks (get?_retype_of_some hk hx)

theorem retypeAll_eq_of_agreeOff {ks : List StepKind} (h : AgreeOff f d d')
    (hks : ∃ k ∈ ks, f ∉ k.fields) :
    d.retypeAll ks = d'.retypeAll ks := by
  induction ks generalizing d d' with
  | nil => simp at hks
  | cons k ks ih =>
    rw [retypeAll_cons, retypeAll_cons]
    by_cases hk : f ∈ k.fields
    · obtain ⟨c, hc, hf⟩ := hks
      rcases List.mem_cons.mp hc with rfl | hc
      · exact absurd hk hf
      · exact ih (h.retype k) ⟨c, hc, hf⟩
    · rw [retype_congr fun g hg => h g (not_mem_influence hk hg)]

def Unblank (d : Draft) : Prop :=
  ∀ t, d.selector = some t ∨ d.key = some t ∨ d.path = some t → Text.isBlankText t = false

theorem get?_or_filler_of_retype {x : f.Content} (h : (d.retype k).get? f = some x) :
    d.get? f = some x ∨ d.filler k f = some x := by
  rw [get?_retype] at h
  split at h
  · exact (Option.or_eq_some_iff.mp h).imp_right And.right
  · cases h

theorem not_blank_of_filler {t : Text}
    (h : d.filler k .selector = some t ∨ d.filler k .key = some t ∨ d.filler k .path = some t) :
    Text.isBlankText t = false := by
  cases k <;> rcases h with h | h | h <;> cases h <;> rfl

theorem Unblank.retype (h : d.Unblank) (k : StepKind) : (d.retype k).Unblank := by
  rintro t (ht | ht | ht)
  · rcases get?_or_filler_of_retype (f := .selector) ht with hd | hfill
    · exact h t (.inl hd)
    · exact not_blank_of_filler (.inl hfill)
  · rcases get?_or_filler_of_retype (f := .key) ht with hd | hfill
    · exact h t (.inr (.inl hd))
    · exact not_blank_of_filler (.inr (.inl hfill))
  · rcases get?_or_filler_of_retype (f := .path) ht with hd | hfill
    · exact h t (.inr (.inr hd))
    · exact not_blank_of_filler (.inr (.inr hfill))

theorem Unblank.retypeAll (h : d.Unblank) (ks : List StepKind) : (d.retypeAll ks).Unblank := by
  induction ks generalizing d with
  | nil => exact h
  | cons k ks ih => exact ih (h.retype k)

theorem exists_requireText {m : Option Text} (f : Field) (default : String)
    (hm : ∀ t, m = some t → Text.isBlankText t = false)
    (hdefault : Text.isBlankText default.toList = false) :
    ∃ t, requireText f (orDefault m default) = .ok t := by
  have hblank : Text.isBlankText (m.getD default.toList) = false := by
    cases m with
    | none => exact hdefault
    | some t => exact hm t rfl
  refine ⟨Text.trim (m.getD default.toList), ?_⟩
  rw [orDefault, requireText, Option.bind_some, Text.trimmed?_eq_some_iff.mpr ⟨hblank, rfl⟩]

/-- A draft that has just been rebuilt has all that its kind needs. -/
theorem exists_toStep_retype (h : d.Unblank) (k : StepKind) : ∃ s, (d.retype k).toStep = .ok s := by
  have hselector : ∀ t, d.selector = some t → Text.isBlankText t = false :=
    fun t ht => h t (.inl ht)
  have hkey : ∀ t, d.key = some t → Text.isBlankText t = false := fun t ht => h t (.inr (.inl ht))
  have hpath : ∀ t, d.path = some t → Text.isBlankText t = false := fun t ht => h t (.inr (.inr ht))
  cases k with
  | goto =>
    obtain ⟨t, ht⟩ := exists_requireText .path "/" hpath (by decide)
    exact ⟨.goto t, by simp only [Draft.retype, toStep, ht]; rfl⟩
  | click | expectVisible | expectHidden =>
    obtain ⟨t, ht⟩ := exists_requireText .selector "text=Some text" hselector (by decide)
    exact ⟨_, by simp only [Draft.retype, toStep, ht]; rfl⟩
  | fill =>
    obtain ⟨t, ht⟩ := exists_requireText .selector "input" hselector (by decide)
    exact ⟨_, by simp only [Draft.retype, toStep, ht]; rfl⟩
  | press =>
    obtain ⟨t, ht⟩ := exists_requireText .selector "input" hselector (by decide)
    obtain ⟨u, hu⟩ := exists_requireText .key "Enter" hkey (by decide)
    exact ⟨.press t u, by simp only [Draft.retype, toStep, ht, hu]; rfl⟩
  | waitFor =>
    cases hd : d.selector with
    | none =>
      exact ⟨.waitFor none (some (d.ms.getD 800)), by simp [Draft.retype, toStep, empty, hd]⟩
    | some t =>
      have ht : Text.trimmed? t = some (Text.trim t) :=
        Text.trimmed?_eq_some_iff.mpr ⟨hselector t hd, rfl⟩
      exact ⟨.waitFor (some (Text.trim t)) d.ms, by simp [Draft.retype, toStep, empty, hd, ht]⟩
  | expectTextContains =>
    obtain ⟨t, ht⟩ := exists_requireText .selector "body" hselector (by decide)
    exact ⟨_, by simp only [Draft.retype, toStep, ht]; rfl⟩
  | expectUrlContains | expectTitleContains => exact ⟨_, rfl⟩

/-- After changes in turn a draft is of the last kind and has only fields of that kind. Fields that
all kinds have are as they were, and those that one has not got do not matter. The last change may
be made again, and after each change a draft without blank texts can become a step. -/
theorem changes_of_kind_compose (d : Draft) (ks : List StepKind) (k : StepKind) :
    (d.retypeAll (ks ++ [k])).kind = k ∧
    (∀ f, (d.retypeAll (ks ++ [k])).get? f ≠ none → f ∈ k.fields) ∧
    (∀ f x, (∀ c ∈ ks ++ [k], f ∈ c.fields) → d.get? f = some x →
      (d.retypeAll (ks ++ [k])).get? f = some x) ∧
    (∀ (f : Field) (d' : Draft), (∃ c ∈ ks ++ [k], f ∉ c.fields) →
      (∀ g, g ≠ f → d.get? g = d'.get? g) →
      d.retypeAll (ks ++ [k]) = d'.retypeAll (ks ++ [k])) ∧
    (d.retypeAll (ks ++ [k])).retype k = d.retypeAll (ks ++ [k]) ∧
    (d.Unblank → ∀ before c after, ks ++ [k] = before ++ c :: after →
      ∃ s, (d.retypeAll (before ++ [c])).toStep = .ok s) := by
  refine ⟨?_, fun f hf => ?_, fun f x hks hx => get?_retypeAll hks hx, fun f d' hks hd' => ?_, ?_,
    fun h before c after _ => ?_⟩
  · rw [retypeAll_append, kind_retype]
  · by_contra hnot
    rw [retypeAll_append] at hf
    exact hf (get?_retype_of_not_mem hnot)
  · refine retypeAll_eq_of_agreeOff (f := f) (fun g hg => hd' g ?_) hks
    rintro rfl
    exact hg (mem_influence_self g)
  · rw [retypeAll_append, retype_retype]
  · rw [retypeAll_append]
    exact exists_toStep_retype (h.retypeAll before) c

end Draft
end TestBench
