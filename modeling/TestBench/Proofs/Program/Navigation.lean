import TestBench.Proofs.Program.Refusal
import TestBench.Proofs.Program.Units
import TestBench.Run.Basic

/-! The pages that a browser program opens: for each raw scenario its start page and then the pages
of its steps, in order, each of them absolute or below the base address. -/
namespace TestBench

open Json (IsNonBlank StandsFor)

namespace Address

/-- Where a path leads from a base address: a path with a scheme stands for itself, any other one
goes on behind the address with a slash of its own or one that is put in front. -/
inductive Leads (base path : Text) : Text → Prop
  | absolute (h : "http://".toList <+: Text.trim path ∨ "https://".toList <+: Text.trim path) :
      Leads base path (Text.trim path)
  | rooted {rest : Text} (h : Text.trim path = '/' :: rest) : Leads base path (base ++ '/' :: rest)
  | relative {c : Char} {rest : Text} (h : Text.trim path = c :: rest) (hc : c ≠ '/')
      (hscheme : ¬("http://".toList <+: Text.trim path ∨ "https://".toList <+: Text.trim path)) :
      Leads base path (base ++ '/' :: c :: rest)

variable {base path target : Text}

theorem isAbsolute_iff (t : Text) : isAbsolute t = true ↔ "http://".toList <+: t ∨
    "https://".toList <+: t := by
  rw [isAbsolute, Bool.or_eq_true, Text.startsWith_iff, Text.startsWith_iff]

theorem normalizePath_of_trim {c : Char} {rest : Text} (h : Text.trim path = c :: rest) :
    normalizePath path = if c = '/' then '/' :: rest else '/' :: c :: rest := by
  rw [normalizePath, h]
  split
  · next heq => cases heq
  · next heq =>
    cases heq
    rfl
  · next hslash =>
    rw [if_neg]
    rintro rfl
    exact hslash rest rfl

theorem leads_resolve (base : Text) (h : Text.isBlankText path = false) :
    Leads base path (resolve base path) := by
  obtain ⟨c, rest, hpath⟩ := List.exists_cons_of_ne_nil ((Text.trim_ne_nil_iff path).mpr h)
  rw [resolve]
  by_cases habs : isAbsolute (Text.trim path) = true
  · rw [if_pos habs]
    exact .absolute ((isAbsolute_iff _).mp habs)
  · rw [if_neg habs, normalizePath_of_trim (by rw [Text.trim_trim, hpath])]
    by_cases hc : c = '/'
    · rw [if_pos hc]
      exact .rooted (hc ▸ hpath)
    · rw [if_neg hc]
      exact .relative hpath hc fun hscheme => habs ((isAbsolute_iff _).mpr hscheme)

theorem Leads.eq_base (h : Leads base path target) (hbare : target = base) :
    Text.trim path = base ∧
    ("http://".toList <+: Text.trim path ∨ "https://".toList <+: Text.trim path) := by
  cases h with
  | absolute h => exact ⟨hbare, h⟩
  | rooted h => simp at hbare
  | relative h hc hscheme => simp at hbare

@[simp] theorem resolve_trim (base path : Text) :
    resolve base (Text.trim path) = resolve base path := by
  simp only [resolve, normalizePath, Text.trim_trim]

end Address

namespace Step

def asked? (v : Json) : Option Text :=
  if v.textAt? "type".toList = some StepKind.goto.name then
    (v.given? Field.path.name).bind Json.text? else none

def target? (base : Text) : Step → Option Text
  | goto path => some (Address.resolve base path)
  | _ => none

variable {v : Json} {s : Step} {base t : Text}

theorem textAt?_of_get? {key t : Text} (h : v.get? key = some (.string t)) :
    v.textAt? key = some t := by
  rw [Json.textAt?, h]
  rfl

theorem target?_of_readAs (base : Text) (h : ReadAs v s) :
    s.target? base = (asked? v).map (Address.resolve base) := by
  obtain ⟨hkind, hfields⟩ := h
  rw [asked?, textAt?_of_get? hkind]
  cases s with
  | goto path =>
    obtain ⟨t, ht, rfl⟩ := hfields
    have hgoto : (goto (Text.trim t)).kind = .goto := rfl
    rw [hgoto, if_pos rfl, ht]
    exact congrArg some (Address.resolve_trim base t)
  | _ =>
    rw [if_neg]
    · rfl
    · exact fun hname => nomatch StepKind.name_injective (Option.some.inj hname)

theorem nonBlank_of_asked? (h : WellFormed v) (ht : asked? v = some t) :
    Text.isBlankText t = false := by
  obtain ⟨-, kind, hkind, -, hneeds⟩ := h
  rw [asked?, textAt?_of_get? hkind] at ht
  split at ht
  · next hgoto =>
    obtain rfl : kind = .goto := StepKind.name_injective (Option.some.inj hgoto)
    obtain ⟨s, hs, hblank⟩ := hneeds (.nonBlank .path) (by simp [StepKind.needs])
    rw [hs] at ht
    cases ht
    exact hblank
  · cases ht

end Step

namespace Scenario

def givenSteps (v : Json) : List Json :=
  match v.given? "steps".toList with
  | some (.array raw) => raw
  | _ => []

/-- The pages that a raw scenario asks for: the start page, the root if none is given, and those of
its steps. -/
def asked (v : Json) : List Text :=
  ((v.given? "startPath".toList).bind Json.text?).getD ['/'] :: (givenSteps v).filterMap Step.asked?

def targets (base : Text) (s : Scenario) : List Text :=
  Address.resolve base s.startPath :: s.steps.filterMap (Step.target? base)

variable {v : Json} {s : Scenario} {base t : Text}

theorem filterMap_target? (base : Text) {raw : List Json} {steps : List Step}
    (h : List.Forall₂ Step.ReadAs raw steps) :
    steps.filterMap (Step.target? base) =
      (raw.filterMap Step.asked?).map (Address.resolve base) := by
  induction h with
  | nil => rfl
  | cons hread _ ih =>
    rw [List.filterMap_cons, List.filterMap_cons, Step.target?_of_readAs base hread, ih]
    cases Step.asked? _ <;> rfl

theorem targets_of_readAs (base : Text) (h : ReadAs v s) :
    s.targets base = (asked v).map (Address.resolve base) := by
  have hstart : Address.resolve base s.startPath =
      Address.resolve base (((v.given? "startPath".toList).bind Json.text?).getD ['/']) := by
    rcases h.start with ⟨hnone, hstart⟩ | ⟨t, ht, hstart⟩
    · rw [hnone, hstart]
      rfl
    · rw [ht, hstart]
      exact Address.resolve_trim base t
  have hsteps : s.steps.filterMap (Step.target? base) =
      ((givenSteps v).filterMap Step.asked?).map (Address.resolve base) := by
    rw [givenSteps]
    rcases h.steps with ⟨hnone, hsteps⟩ | ⟨raw, hraw, hread⟩
    · rw [hnone, hsteps]
      rfl
    · rw [hraw]
      exact filterMap_target? base hread
  rw [targets, asked, List.map_cons, hstart, hsteps]

theorem nonBlank_of_mem_asked (h : WellFormed v) (ht : t ∈ asked v) :
    Text.isBlankText t = false := by
  rcases List.mem_cons.mp ht with rfl | ht
  · rcases h.start with hnone | ⟨s, hs, hblank⟩
    · rw [hnone]
      rfl
    · rw [hs]
      exact hblank
  · obtain ⟨step, hstep, ht⟩ := List.mem_filterMap.mp ht
    rw [givenSteps] at hstep
    rcases h.steps with hnone | ⟨raw, hraw, hwell⟩
    · rw [hnone] at hstep
      cases hstep
    · rw [hraw] at hstep
      exact Step.nonBlank_of_asked? (hwell step hstep) ht

/-- The pages that a list of raw scenarios asks for, in order. -/
def pagesAsked : Json → List Text
  | .array items => items.flatMap asked
  | _ => []

theorem flatMap_targets {items : List Json} {ss : List Scenario} (h : List.Forall₂ ReadAs items ss)
    (base : Text) :
    ss.flatMap (targets base) = (items.flatMap asked).map (Address.resolve base) := by
  induction h with
  | nil => rfl
  | cons hread _ ih =>
    rw [List.flatMap_cons, List.flatMap_cons, List.map_append, targets_of_readAs base hread, ih]

theorem targets_of_validateAll {raw : Json} {ss : List Scenario} (h : validateAll raw = .ok ss)
    (base : Text) :
    ss.flatMap (targets base) = (pagesAsked raw).map (Address.resolve base) ∧
      ∀ t ∈ pagesAsked raw, Text.isBlankText t = false := by
  obtain ⟨item, items, rfl, hmap⟩ := exists_items h
  rcases mapNumbered_cases validate_cases 1 (item :: items) with
    ⟨hwell, ss', hss, hread⟩ | ⟨before, a, after, e, -, -, -, herror, -⟩
  · rw [hmap] at hss
    cases hss
    refine ⟨flatMap_targets hread base, fun t ht => ?_⟩
    obtain ⟨v, hv, ht⟩ := List.mem_flatMap.mp ht
    exact nonBlank_of_mem_asked (hwell v hv) ht
  · rw [hmap] at herror
    cases herror

end Scenario

namespace Instruction

def opensPage (l : Text) : Bool := Text.startsWith "await page.goto(".toList (Text.trimStart l)

def pageLines (depth : Nat) (is : List Instruction) : List Text := (lines depth is).filter opensPage

theorem pageLines_cons_of_not {depth : Nat} {i : Instruction}
    (h : opensPage (i.lineAt depth) = false) (is : List Instruction) :
    pageLines depth (i :: is) = pageLines (i.depthAfter depth) is := by
  rw [pageLines, lines, List.filter_cons_of_neg (by rw [h]; exact Bool.false_ne_true)]
  rfl

theorem pageLines_cons_of_opens {depth : Nat} {i : Instruction}
    (h : opensPage (i.lineAt depth) = true) (is : List Instruction) :
    pageLines depth (i :: is) = i.lineAt depth :: pageLines (i.depthAfter depth) is := by
  rw [pageLines, lines, List.filter_cons_of_pos h]
  rfl

end Instruction

namespace Browser

open Instruction

def pageLine (target : Text) : Text :=
  "  await page.goto(".toList ++ (Json.quoted target ++ ");".toList)

@[simp] theorem lineAt_goto (target : Text) :
    (Instruction.line (Statement.goto target).line).lineAt 1 = pageLine target :=
  congrArg (fun t => "  await page.goto(".toList ++ (Json.quoted target ++ t)) (List.append_nil _)

@[simp] theorem pageLines_goto (target : Text) (is : List Instruction) :
    pageLines 1 (.line (Statement.goto target).line :: is) = pageLine target :: pageLines 1 is := by
  rw [pageLines_cons_of_opens rfl, lineAt_goto]
  rfl

def Statement.page? : Statement → Option Text
  | goto target => some target
  | _ => none

def Test.pages (t : Test) : List Text := t.start :: t.body.filterMap fun b => b.2.page?

theorem pageLines_statement (s : Statement) (is : List Instruction) :
    pageLines 1 (.line s.line :: is) = (s.page?.map pageLine).toList ++ pageLines 1 is := by
  cases s with
  | goto target => exact pageLines_goto target is
  | _ => exact pageLines_cons_of_not rfl is

theorem pageLines_bodyLines (n : Nat) (body : List (StepKind × Statement)) (is : List Instruction) :
    pageLines 1 (bodyLines n body ++ is) = (body.filterMap fun b => b.2.page?).map pageLine ++
      pageLines 1 is := by
  induction body generalizing n with
  | nil => rfl
  | cons b body ih =>
    rw [bodyLines, List.cons_append, List.cons_append, pageLines_cons_of_not rfl,
      Instruction.depthAfter, pageLines_statement, ih, List.filterMap_cons, ← List.append_assoc]
    cases b.2.page? <;> rfl

@[simp] theorem pageLines_timeoutLines (timeout : Option UInt64) (is : List Instruction) :
    pageLines 1 (timeoutLines timeout ++ is) = pageLines 1 is := by
  cases timeout with
  | none => rfl
  | some ms => exact pageLines_cons_of_not rfl is

@[simp] theorem pageLines_test (timeout : Option UInt64) (t : Test) (is : List Instruction) :
    pageLines 0 (t.instructions timeout ++ is) = t.pages.map pageLine ++ pageLines 0 is := by
  simp only [Test.instructions, List.cons_append, List.append_assoc, List.nil_append]
  rw [pageLines_cons_of_not rfl, Instruction.depthAfter, pageLines_timeoutLines, pageLines_goto,
    pageLines_bodyLines, pageLines_cons_of_not rfl]
  rfl

@[simp] theorem pageLines_instructions (timeout : Option UInt64) (ts : List Test) :
    pageLines 0 (instructions timeout ts) = (ts.flatMap Test.pages).map pageLine := by
  induction ts with
  | nil => rfl
  | cons t ts ih =>
    have hfollowing :
        pageLines 0 (following timeout ts) = pageLines 0 (instructions timeout ts) := by
      cases ts with
      | nil => rfl
      | cons u ts => exact pageLines_cons_of_not rfl _
    simp [instructions_cons, hfollowing, ih]

@[simp] theorem page?_ofStep (base : Text) (st : Step) :
    (Statement.ofStep base st).page? = st.target? base := by
  rcases st with _ | _ | _ | _ | ⟨_ | _, _ | _⟩ | _ | _ | _ | _ | _ <;> rfl

@[simp] theorem pages_ofScenario (base title : Text) (s : Scenario) :
    (Test.ofScenario base title s).pages = s.targets base := by
  simp only [Test.pages, Test.ofScenario, Scenario.targets, List.filterMap_map, Function.comp_def,
    page?_ofStep]

@[simp] theorem pages_tests (base : Text) (ss : List Scenario) :
    (tests base ss).flatMap Test.pages = ss.flatMap (Scenario.targets base) := by
  rw [List.flatMap_def, List.flatMap_def, tests,
    Titles.map_zipWith_eq_map (by simp) fun title s => pages_ofScenario base title s]

end Browser

namespace Program

open Instruction

theorem filter_opensPage_sourceOf (timeout : Option UInt64) (base : Text) (ss : List Scenario) :
    (Text.pieces '\n' (sourceOf timeout base (.ui ss))).filter opensPage =
      (ss.flatMap (Scenario.targets base)).map Browser.pageLine := by
  rw [pieces_sourceOf, List.filter_append]
  change pageLines 0 (header ++ body timeout base (.ui ss)) ++ [] = _
  have hheader : ∀ is, pageLines 0 (header ++ is) = pageLines 0 is := fun _ => rfl
  rw [List.append_nil, hheader, body, Browser.pageLines_instructions, Browser.pages_tests]

/-- Valid scenarios become a program that refuses no wait and opens exactly the pages that are asked
for, each where its path leads from the base address. The address itself is opened only where it is
asked for by its scheme. -/
theorem validated_program_navigates {raw : Json} {ss : List Scenario}
    (h : Scenario.validateAll raw = .ok ss) (timeout : Option UInt64) (base : Text) :
    ∃ p, compile timeout base (.ui ss) = .ok p ∧ ¬refusal <:+: p.source ∧
      ∃ targets, (Text.pieces '\n' p.source).filter opensPage = targets.map Browser.pageLine ∧
        List.Forall₂ (Address.Leads base) (Scenario.pagesAsked raw) targets ∧
        List.Forall₂ (fun path target => target = base → Text.trim path = base ∧
          ("http://".toList <+: base ∨ "https://".toList <+: base)) (Scenario.pagesAsked raw)
            targets := by
  have hsettled : ∀ s ∈ ss, ∀ st ∈ s.steps, st.Settled := by
    obtain ⟨item, items, -, hmap⟩ := Scenario.exists_items h
    intro s hs
    obtain ⟨i, r, -, hr⟩ := exists_of_mem_mapNumbered hmap s hs
    exact (Scenario.settled_of_validate hr).steps
  obtain ⟨htargets, hnonBlank⟩ := Scenario.targets_of_validateAll h base
  have hleads : List.Forall₂ (Address.Leads base) (Scenario.pagesAsked raw)
      ((Scenario.pagesAsked raw).map (Address.resolve base)) :=
    List.forall₂_map_right_iff.mpr (List.forall₂_same.mpr fun t ht => Address.leads_resolve base
      (hnonBlank t ht))
  refine ⟨_, compile_ui timeout base (Scenario.ne_nil_of_validateAll h),
    not_refusal_isInfix_sourceOf hsettled timeout base,
    _, filter_opensPage_sourceOf timeout base ss, htargets ▸ hleads, ?_⟩
  rw [htargets]
  refine hleads.imp fun path target hpath hbare => ?_
  obtain ⟨hself, hscheme⟩ := hpath.eq_base hbare
  rw [hself] at hscheme
  exact ⟨hself, hscheme⟩

/-- A start page without a slash, an absolute page and a wait for a time. -/
theorem validated_program_navigates_of_steps :
    let raw : Json :=
      .array [.object [("name".toList, .string ['t']), ("startPath".toList, .string " a".toList),
      ("steps".toList, .array [
        .object [("type".toList, .string "goto".toList),
          ("path".toList, .string "http://y".toList)],
        .object [("type".toList, .string "waitFor".toList),
          ("ms".toList, .number (.ofUInt64 5))]])]]
    let ss : List Scenario := [⟨['t'], ['a'], [.goto "http://y".toList, .waitFor none (some 5)]⟩]
    Scenario.validateAll raw = .ok ss ∧ Scenario.pagesAsked raw = [" a".toList, "http://y".toList] ∧
      ∃ p, compile none "http://x".toList (.ui ss) = .ok p ∧ ¬refusal <:+: p.source ∧
        (Text.pieces '\n' p.source).filter opensPage =
          ["http://x/a".toList, "http://y".toList].map Browser.pageLine := by
  intro raw ss
  have hvalid : Scenario.validateAll raw = .ok ss := rfl
  obtain ⟨p, hp, hrefusal, -⟩ := validated_program_navigates hvalid none "http://x".toList
  refine ⟨hvalid, rfl, p, hp, hrefusal, ?_⟩
  rw [eq_of_compile hp]
  exact filter_opensPage_sourceOf none "http://x".toList ss

/-- A start page that is the base address. -/
theorem bare_base_is_opened :
    let raw : Json :=
      .array [.object [("name".toList, .string ['t']),
      ("startPath".toList, .string "http://x".toList)]]
    let ss : List Scenario := [⟨['t'], "http://x".toList, []⟩]
    Scenario.validateAll raw = .ok ss ∧ validBase "http://x".toList = .ok "http://x".toList ∧
      ∃ p, compile none "http://x".toList (.ui ss) = .ok p ∧
        (Text.pieces '\n' p.source).filter opensPage =
          ["  await page.goto(\"http://x\");".toList] := by
  intro raw ss
  refine ⟨rfl, rfl, _, compile_ui none "http://x".toList (List.cons_ne_nil _ _), ?_⟩
  exact filter_opensPage_sourceOf none "http://x".toList ss

end Program
end TestBench
