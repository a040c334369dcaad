import TestBench.Proofs.Json.Lookup
import TestBench.Proofs.Outcome.Entries

/-! Reports that are a tree of suites. Each test has its place in the tree: the suites down to it,
its spec and its number there. The results are those of the tests in the order of their places, and
each is named after the way to it. -/
namespace TestBench
namespace Structured

/-- The place of a test: the numbers of the suites on the way down, of the spec in the last suite,
and of the test. -/
structure Place where
  suites : List Nat
  spec : Nat
  test : Nat

def Place.under (i : Nat) (p : Place) : Place := { p with suites := i :: p.suites }

/-- The order of a tree that is read from left to right, the specs of a suite before the suites in
it. -/
def Place.Before (p q : Place) : Prop :=
  p.suites < q.suites ∨
    (p.suites = q.suites ∧ (p.spec < q.spec ∨ (p.spec = q.spec ∧ p.test < q.test)))

/-- A test, with its spec and the suites on the way down to it. -/
structure TreeEntry where
  suites : List Json
  spec : Json
  test : Json

def TreeEntry.under (suite : Json) (e : TreeEntry) : TreeEntry :=
  { e with suites := suite :: e.suites }

/-- What stands in a suite at a place: a test of its own, or one of a suite in it. -/
inductive EntryIn : Json → Place → TreeEntry → Prop
  | own {suite spec test : Json} {j k : Nat} : (listAt "specs" suite)[j]? = some spec →
      (listAt "tests" spec)[k]? = some test →
      EntryIn suite ⟨[], j, k⟩ ⟨[], spec, test⟩
  | deeper {suite child : Json} {i : Nat} {p : Place} {e : TreeEntry} :
      (listAt "suites" suite)[i]? = some child →
      EntryIn child p e → EntryIn suite (p.under i) (e.under child)

/-- What stands in a report: the suites at the top stand for files, and only these hold tests. -/
def EntryOf (data : Json) (p : Place) (e : TreeEntry) : Prop := EntryIn data p e ∧ p.suites ≠ []

/-- The title of a suite, unless it is empty. -/
def suiteTitle? (suite : Json) : Option Text :=
  (suite.textAt? "title".toList).filter fun t => !t.isEmpty

namespace TreeEntry

/-- The titles of the suites below the file and the title of the spec. -/
def title (e : TreeEntry) : Text :=
  Text.joinWith " / ".toList (e.suites.tail.filterMap suiteTitle? ++
    [(e.spec.textAt? "title".toList).getD "Test".toList])

def Several (e : TreeEntry) : Prop := 1 < (listAt "tests" e.spec).length

def last? (e : TreeEntry) : Option Json := (e.test.itemsAt? "results".toList).bind List.getLast?

/-- The error of a try, or else its errors if there are some. -/
def errorOf (last : Json) : Option Json :=
  ((last.get? "error".toList).filter fun v => !v.isNull).or
    ((last.get? "errors".toList).filter fun v => !(v.items?.getD []).isEmpty)

/-- The result of a test. Among several of a spec its project is named. All but the name is that of
the last try, whatever the earlier ones were; only a status that the last try does not state is
looked up beside it. -/
structure Reports (e : TreeEntry) (r : TestResult) : Prop where
  name_project : ∀ project, e.Several → e.test.textAt? "projectName".toList = some project →
    project ≠ [] →
    r.name = e.title ++ " [".toList ++ project ++ [']']
  name_plain :
    ¬(e.Several ∧ ∃ project, e.test.textAt? "projectName".toList = some project ∧ project ≠ []) →
    r.name = e.title
  stated : ∀ last status, e.last? = some last → last.get? "status".toList = some status →
    r.status = statusOf (some status)
  unstated : (∀ last, e.last? = some last → last.get? "status".toList = none) →
    r.status = statusOf (e.test.get? "status".toList)
  tried : ∀ last, e.last? = some last →
    r.durationMs = ((last.get? "duration".toList).bind Json.millis?).getD 0 ∧
    r.error = (errorParts (errorOf last)).trace ∧
      r.errorSummary = (errorParts (errorOf last)).headline
  untried : e.last? = none → r.durationMs = 0 ∧ r.error = none ∧ r.errorSummary = none

def result (e : TreeEntry) : TestResult :=
  treeResult e.title (1 < (listAt "tests" e.spec).length) e.test

/-- The result of a test in a suite, with the titles down to that suite. -/
def resultUnder (path : List Text) (e : TreeEntry) : TestResult :=
  treeResult (Text.joinWith " / ".toList (path ++ e.suites.filterMap suiteTitle? ++
    [(e.spec.textAt? "title".toList).getD "Test".toList]))
      (1 < (listAt "tests" e.spec).length) e.test

end TreeEntry

theorem sizeOf_lt_of_mem_listAt {key : String} {v w : Json} (h : w ∈ listAt key v) :
    sizeOf w < sizeOf v := by
  rw [listAt, Json.itemsAt?] at h
  cases v with
  | object ms =>
    cases hvalue : Json.get? key.toList (.object ms) with
    | none => simp [hvalue] at h
    | some value =>
      rw [hvalue] at h
      cases value with
      | array vs =>
        obtain ⟨⟨k, _⟩, hmember, rfl⟩ := Json.mem_of_lookup hvalue
        have hitem : w ∈ vs := h
        have hsize := List.sizeOf_lt_of_mem hmember
        have hsize' := List.sizeOf_lt_of_mem hitem
        simp only [Prod.mk.sizeOf_spec, Json.array.sizeOf_spec, Json.object.sizeOf_spec] at hsize ⊢
        omega
      | _ => cases h
  | _ => cases h

theorem suite_induction {motive : Json → Prop}
    (step : ∀ suite, (∀ child ∈ listAt "suites" suite, motive child) → motive suite)
    (suite : Json) : motive suite :=
  step suite fun child _ => suite_induction step child
termination_by sizeOf suite
decreasing_by exact sizeOf_lt_of_mem_listAt ‹_›

/-- The tests of a suite itself, with their places. -/
def ownEntries (suite : Json) : List (Place × TreeEntry) :=
  (listAt "specs" suite).zipIdx.flatMap fun spec =>
    (listAt "tests" spec.1).zipIdx.map fun test => (⟨[], spec.2, test.2⟩, ⟨[], spec.1, test.1⟩)

/-- All tests of a suite, its own ones before those of the suites in it. -/
def entriesIn (suite : Json) : List (Place × TreeEntry) :=
  ownEntries suite ++ (listAt "suites" suite).attach.zipIdx.flatMap fun child =>
    (entriesIn child.1.1).map fun x => (x.1.under child.2, x.2.under child.1.1)
termination_by sizeOf suite
decreasing_by exact sizeOf_lt_of_mem_listAt child.1.2

def entriesBelow (suite : Json) : List (Place × TreeEntry) :=
  (listAt "suites" suite).zipIdx.flatMap fun child =>
    (entriesIn child.1).map fun x => (x.1.under child.2, x.2.under child.1)

theorem entriesIn_eq (suite : Json) : entriesIn suite = ownEntries suite ++ entriesBelow suite := by
  rw [entriesIn, entriesBelow]
  conv_rhs => rw [← List.attach_map_subtype_val (listAt "suites" suite), List.zipIdx_map,
    List.flatMap_map]
  rfl

section
variable {α β : Type}

@[simp] theorem flatMap_zipIdx (f : α → List β) (as : List α) :
    (as.zipIdx.flatMap fun a => f a.1) = as.flatMap f := by
  conv_rhs => rw [← List.zipIdx_map_fst 0 as, List.flatMap_map]

@[simp] theorem map_zipIdx (f : α → β) (as : List α) :
    (as.zipIdx.map fun a => f a.1) = as.map f := by
  conv_rhs => rw [← List.zipIdx_map_fst 0 as, List.map_map]
  rfl

theorem pairwise_zipIdx (as : List α) : as.zipIdx.Pairwise fun a b => a.2 < b.2 := by
  have hnumbers : (as.zipIdx.map Prod.snd).Pairwise (· < ·) := by
    rw [List.zipIdx_map_snd]
    exact List.pairwise_lt_range'
  exact List.pairwise_map.mp hnumbers

end

theorem mem_entriesBelow {suite : Json} {x : Place × TreeEntry} : x ∈ entriesBelow suite ↔
    ∃ i child y, (listAt "suites" suite)[i]? = some child ∧ y ∈ entriesIn child ∧
    x = (y.1.under i, y.2.under child) := by
  simp only [entriesBelow, List.mem_flatMap, List.mem_map, Prod.exists,
    List.mem_zipIdx_iff_getElem?]
  constructor
  · rintro ⟨child, i, hchild, p, e, hy, rfl⟩
    exact ⟨i, child, p, e, hchild, hy, rfl⟩
  · rintro ⟨i, child, p, e, hchild, hy, rfl⟩
    exact ⟨child, i, hchild, p, e, hy, rfl⟩

theorem mem_ownEntries {suite : Json} {x : Place × TreeEntry} : x ∈ ownEntries suite ↔
    ∃ j k spec test, (listAt "specs" suite)[j]? = some spec ∧
    (listAt "tests" spec)[k]? = some test ∧
      x = (⟨[], j, k⟩, ⟨[], spec, test⟩) := by
  simp only [ownEntries, List.mem_flatMap, List.mem_map, Prod.exists, List.mem_zipIdx_iff_getElem?]
  constructor
  · rintro ⟨spec, j, hspec, test, k, htest, rfl⟩
    exact ⟨j, k, spec, test, hspec, htest, rfl⟩
  · rintro ⟨j, k, spec, test, hspec, htest, rfl⟩
    exact ⟨spec, j, hspec, test, k, htest, rfl⟩

@[simp] theorem mem_entriesIn {suite : Json} {p : Place} {e : TreeEntry} :
    (p, e) ∈ entriesIn suite ↔
    EntryIn suite p e := by
  constructor
  · intro h
    induction suite using suite_induction generalizing p e with
    | step suite ih =>
      rw [entriesIn_eq, List.mem_append, mem_ownEntries, mem_entriesBelow] at h
      rcases h with ⟨j, k, spec, test, hspec, htest, h⟩ | ⟨i, child, ⟨q, d⟩, hchild, hy, h⟩
      · obtain ⟨rfl, rfl⟩ := Prod.mk.inj h
        exact .own hspec htest
      · obtain ⟨rfl, rfl⟩ := Prod.mk.inj h
        exact .deeper hchild (ih child (List.mem_of_getElem? hchild) hy)
  · intro h
    induction h with
    | own hspec htest =>
      rw [entriesIn_eq]
      exact List.mem_append_left _ (mem_ownEntries.mpr ⟨_, _, _, _, hspec, htest, rfl⟩)
    | deeper hchild _ ih =>
      rw [entriesIn_eq]
      exact List.mem_append_right _ (mem_entriesBelow.mpr ⟨_, _, _, hchild, ih, rfl⟩)

@[simp] theorem mem_entriesBelow_iff {data : Json} {p : Place} {e : TreeEntry} :
    (p, e) ∈ entriesBelow data ↔ EntryOf data p e := by
  rw [EntryOf, ← mem_entriesIn, entriesIn_eq, List.mem_append, mem_ownEntries]
  constructor
  · intro h
    obtain ⟨i, child, y, -, -, hp⟩ := mem_entriesBelow.mp h
    obtain ⟨rfl, rfl⟩ := Prod.mk.inj hp
    exact ⟨.inr h, List.cons_ne_nil _ _⟩
  · rintro ⟨⟨j, k, spec, test, -, -, h⟩ | h, hne⟩
    · obtain ⟨rfl, rfl⟩ := Prod.mk.inj h
      exact absurd rfl hne
    · exact h

/-- Something holds of a test, of its spec and of the suites on the way down to it. -/
structure TreeEntry.All (p : Json → Prop) (e : TreeEntry) : Prop where
  suites : ∀ suite ∈ e.suites, p suite
  spec : p e.spec
  test : p e.test

/-- What a suite passes on to its parts holds all the way down to its tests. -/
theorem all_of_entryIn {p : Json → Prop} (hp : Json.Inherited p) {suite : Json} (h : p suite)
    {q : Place} {e : TreeEntry} (he : EntryIn suite q e) : e.All p := by
  induction he with
  | own hspec htest =>
    have hspec := forall_mem_listAt hp h _ (List.mem_of_getElem? hspec)
    exact ⟨List.forall_mem_nil _, hspec, forall_mem_listAt hp hspec _ (List.mem_of_getElem? htest)⟩
  | deeper hchild _ ih =>
    have hchild := forall_mem_listAt hp h _ (List.mem_of_getElem? hchild)
    exact ⟨List.forall_mem_cons.mpr ⟨hchild, (ih hchild).suites⟩, (ih hchild).spec,
      (ih hchild).test⟩

theorem Place.Before.under {p q : Place} (h : p.Before q) (i : Nat) :
    (p.under i).Before (q.under i) := by
  rcases h with h | ⟨h, hrest⟩
  · exact .inl (List.cons_lt_cons_iff.mpr (.inr ⟨rfl, h⟩))
  · exact .inr ⟨congrArg (i :: ·) h, hrest⟩

theorem pairwise_ownEntries (suite : Json) :
    (ownEntries suite).Pairwise fun x y => x.1.Before y.1 := by
  rw [ownEntries, List.pairwise_flatMap]
  constructor
  · intro spec _
    rw [List.pairwise_map]
    exact (pairwise_zipIdx _).imp fun h => .inr ⟨rfl, .inr ⟨rfl, h⟩⟩
  · refine (pairwise_zipIdx _).imp fun h x hx y hy => ?_
    obtain ⟨_, -, rfl⟩ := List.mem_map.mp hx
    obtain ⟨_, -, rfl⟩ := List.mem_map.mp hy
    exact .inr ⟨rfl, .inl h⟩

theorem pairwise_entriesBelow {suite : Json}
    (h : ∀ child ∈ listAt "suites" suite, (entriesIn child).Pairwise fun x y => x.1.Before y.1) :
    (entriesBelow suite).Pairwise fun x y => x.1.Before y.1 := by
  rw [entriesBelow, List.pairwise_flatMap]
  constructor
  · intro child hchild
    rw [List.pairwise_map]
    exact (h child.1 (List.fst_mem_of_mem_zipIdx hchild)).imp fun h => h.under child.2
  · refine (pairwise_zipIdx _).imp fun h x hx y hy => ?_
    obtain ⟨_, -, rfl⟩ := List.mem_map.mp hx
    obtain ⟨_, -, rfl⟩ := List.mem_map.mp hy
    exact .inl (List.cons_lt_cons_iff.mpr (.inl h))

theorem pairwise_entriesIn (suite : Json) :
    (entriesIn suite).Pairwise fun x y => x.1.Before y.1 := by
  induction suite using suite_induction with
  | step suite ih =>
    rw [entriesIn_eq, List.pairwise_append]
    refine ⟨pairwise_ownEntries suite, pairwise_entriesBelow ih, fun x hx y hy => ?_⟩
    obtain ⟨j, k, spec, test, -, -, rfl⟩ := mem_ownEntries.mp hx
    obtain ⟨i, child, z, -, -, rfl⟩ := mem_entriesBelow.mp hy
    exact .inl (List.nil_lt_cons _ _)

theorem suiteList_eq (path : List Text) (suites : List Json) :
    suiteList path suites =
      suites.flatMap fun child => suiteResults (childPath path child) child := by
  induction suites with
  | nil => rfl
  | cons v vs ih => rw [suiteList, ih, List.flatMap_cons]

theorem memberSuites_eq (path : List Text) (ms : List (Text × Json)) :
    memberSuites path ms = suiteList path (listAt "suites" (.object ms)) := by
  induction ms with
  | nil => rfl
  | cons m ms ih =>
    obtain ⟨k, v⟩ := m
    rw [memberSuites]
    split
    · next hk =>
      have hvalue : listAt "suites" (.object ((k, v) :: ms)) = (v.items?).getD [] := by
        simp [listAt, Json.itemsAt?, Json.get?, hk]
      rw [hvalue]
      cases v <;> rfl
    · next hk =>
      have hvalue : listAt "suites" (.object ((k, v) :: ms)) = listAt "suites" (.object ms) := by
        have hne : ("suites".toList == k) = false := by simpa using Ne.symm hk
        simp only [listAt, Json.itemsAt?, Json.get?, List.lookup_cons, hne]
      rw [hvalue, ih]

theorem suiteResults_eq (path : List Text) (suite : Json) : suiteResults path suite =
    (listAt "specs" suite).flatMap (specResults path) ++
      (listAt "suites" suite).flatMap fun child => suiteResults (childPath path child) child := by
  cases suite with
  | object ms => rw [suiteResults, memberSuites_eq, suiteList_eq]
  | _ => rfl

@[simp] theorem map_ownEntries (path : List Text) (suite : Json) :
    (ownEntries suite).map (fun x => x.2.resultUnder path) =
      (listAt "specs" suite).flatMap (specResults path) := by
  rw [ownEntries, List.map_flatMap, ← flatMap_zipIdx (specResults path)]
  refine List.flatMap_congr fun spec _ => ?_
  rw [List.map_map]
  conv_rhs => rw [specResults, ← map_zipIdx]
  refine List.map_congr_left fun test _ => ?_
  simp [TreeEntry.resultUnder]

@[simp] theorem resultUnder_under (path : List Text) (child : Json) (e : TreeEntry) :
    (e.under child).resultUnder path = e.resultUnder (childPath path child) := by
  have htitles : (e.under child).suites.filterMap suiteTitle? =
      (suiteTitle? child).toList ++ e.suites.filterMap suiteTitle? := by
    rw [TreeEntry.under, List.filterMap_cons]
    cases suiteTitle? child <;> rfl
  rw [TreeEntry.resultUnder, htitles, ← List.append_assoc path]
  rfl

@[simp] theorem map_entriesIn (path : List Text) (suite : Json) :
    (entriesIn suite).map (fun x => x.2.resultUnder path) = suiteResults path suite := by
  induction suite using suite_induction generalizing path with
  | step suite ih =>
    rw [entriesIn_eq, List.map_append, map_ownEntries, suiteResults_eq, entriesBelow,
      List.map_flatMap, ← flatMap_zipIdx fun child => suiteResults (childPath path child) child]
    refine congrArg (_ ++ ·) (List.flatMap_congr fun child hchild => ?_)
    rw [List.map_map, ← ih child.1 (List.fst_mem_of_mem_zipIdx hchild)]
    exact List.map_congr_left fun x _ => resultUnder_under path child.1 x.2

namespace TreeEntry

theorem name_result (e : TreeEntry) : e.result.name =
    match (e.test.textAt? "projectName".toList).filter fun p =>
      decide (1 < (listAt "tests" e.spec).length) && !p.isEmpty with
    | some project => e.title ++ " [".toList ++ project ++ [']']
    | none => e.title := rfl

theorem status_result (e : TreeEntry) : e.result.status =
    statusOf ((e.last?.bind (Json.get? "status".toList)).or (e.test.get? "status".toList)) := rfl

theorem error_result (e : TreeEntry) : e.result.error = (errorParts (e.last?.bind errorOf)).trace ∧
    e.result.errorSummary = (errorParts (e.last?.bind errorOf)).headline := ⟨rfl, rfl⟩

theorem duration_result (e : TreeEntry) :
    e.result.durationMs = ((e.last?.bind (Json.get? "duration".toList)).bind Json.millis?).getD 0 :=
      rfl

theorem reports_result (e : TreeEntry) : e.Reports e.result := by
  constructor
  · intro project hseveral hproject hne
    have hseveral' : 1 < (listAt "tests" e.spec).length := hseveral
    have hfilter : (e.test.textAt? "projectName".toList).filter
        (fun p => decide (1 < (listAt "tests" e.spec).length) && !p.isEmpty) = some project := by
      simp only [hproject, Option.filter_eq_some_iff, Bool.and_eq_true, decide_eq_true_eq,
        Bool.not_eq_true', true_and]
      exact ⟨hseveral', by simpa using hne⟩
    rw [name_result, hfilter]
  · intro hplain
    have hfilter : (e.test.textAt? "projectName".toList).filter
        (fun p => decide (1 < (listAt "tests" e.spec).length) && !p.isEmpty) = none := by
      rw [Option.filter_eq_none_iff]
      intro project hproject hboth
      rw [Bool.and_eq_true, decide_eq_true_eq, Bool.not_eq_true'] at hboth
      exact hplain ⟨hboth.1, project, hproject, by simpa using hboth.2⟩
    rw [name_result, hfilter]
  · intro last status hlast hstatus
    rw [status_result, hlast, Option.bind_some, hstatus, Option.some_or]
  · intro hnone
    have hno : e.last?.bind (Json.get? "status".toList) = none := Option.bind_eq_none_iff.mpr hnone
    rw [status_result, hno, Option.none_or]
  · intro last hlast
    rw [duration_result, (error_result e).1, (error_result e).2, hlast]
    exact ⟨rfl, rfl, rfl⟩
  · intro hlast
    rw [duration_result, (error_result e).1, (error_result e).2, hlast]
    exact ⟨rfl, rfl, rfl⟩

end TreeEntry

@[simp] theorem map_entriesBelow (data : Json) :
    (entriesBelow data).map (fun x => x.2.result) =
      (listAt "suites" data).flatMap (suiteResults []) := by
  rw [entriesBelow, List.map_flatMap, ← flatMap_zipIdx (suiteResults [])]
  refine List.flatMap_congr fun file _ => ?_
  rw [List.map_map, ← map_entriesIn]
  rfl

theorem richTests_tree {data : Json} (hno : listedEntries data = []) :
    richTests data = nonEmpty? ((entriesBelow data).map fun x => x.2.result) := by
  rw [richTests_eq, if_pos hno, map_entriesBelow, treeResults?, listAt]
  cases data.itemsAt? "suites".toList <;> rfl

/-- A report that is read as a tree has one result for each test in it, in the order of their
places, and it has none only if there is no test in the tree. -/
theorem tree_flattened {data : Json} (hno : listedEntries data = []) :
    (richTests data = none ↔ ¬∃ p e, EntryOf data p e) ∧
    ∀ results, richTests data = some results → ∃ entries : List (Place × TreeEntry),
      (∀ p e, (p, e) ∈ entries ↔ EntryOf data p e) ∧ entries.Pairwise (fun x y => x.1.Before y.1) ∧
      List.Forall₂ (fun x r => x.2.Reports r) entries results := by
  rw [richTests_tree hno]
  constructor
  · rw [nonEmpty?_eq_none_iff, List.map_eq_nil_iff, List.eq_nil_iff_forall_not_mem, Prod.forall,
      not_exists]
    refine forall_congr' fun p => ?_
    rw [not_exists]
    exact forall_congr' fun e => not_congr mem_entriesBelow_iff
  · intro results hresults
    obtain ⟨-, rfl⟩ := nonEmpty?_eq_some_iff.mp hresults
    refine ⟨entriesBelow data, fun p e => mem_entriesBelow_iff,
      pairwise_entriesBelow fun child _ => pairwise_entriesIn child, ?_⟩
    rw [List.forall₂_map_right_iff]
    exact List.forall₂_same.mpr fun x _ => x.2.reports_result

/-- A file with a spec that is tested in three projects, and with a group in which a test has no
title. The test of the first project is tried again, the one of the second is not answered in time,
and the one of the third is not tried. -/
def treeReport : Json :=
  .object [("suites".toList, .array [.object [
    ("specs".toList, .array [.object [
      ("tests".toList, .array [
        .object [("projectName".toList, .string "x".toList), ("results".toList, .array [
          .object [("status".toList, .string "failed".toList)],
          .object [("status".toList, .string "passed".toList)]])],
        .object [("projectName".toList, .string "y".toList), ("results".toList, .array [.object [
          ("duration".toList, .number (.ofUInt64 30)),
          ("error".toList, .object [("message".toList, .string "late\n at b".toList)]),
          ("status".toList, .string "timedOut".toList)]])],
        .object [("projectName".toList, .string "z".toList),
          ("status".toList, .string "skipped".toList)]]),
      ("title".toList, .string "own".toList)]]),
    ("suites".toList, .array [.object [
      ("specs".toList, .array [.object [("tests".toList, .array [.null])]]),
      ("title".toList, .string "group".toList)]]),
    ("title".toList, .string "a.spec".toList)]])]

theorem tree_flattened_of_groups :
    listedEntries treeReport = [] ∧ ∃ results, richTests treeReport = some results ∧
      results = [⟨"own [x]".toList, .passed, 0, none, none⟩,
        ⟨"own [y]".toList, .timedOut, 30, some "late\n at b".toList, some "late".toList⟩,
        ⟨"own [z]".toList, .skipped, 0, none, none⟩,
        ⟨"group / Test".toList, .unknown, 0, none, none⟩] ∧
      ∃ entries : List (Place × TreeEntry), entries.Pairwise (fun x y => x.1.Before y.1) ∧
        List.Forall₂ (fun x r => x.2.Reports r) entries results := by
  have hno : listedEntries treeReport = [] := rfl
  obtain ⟨hnone, hsome⟩ := tree_flattened hno
  have htest : ∃ p e, EntryOf treeReport p e :=
    ⟨_, _, .deeper (i := 0) rfl (.own (j := 0) (k := 0) rfl rfl), List.cons_ne_nil _ _⟩
  have hne : richTests treeReport ≠ none := fun h => hnone.mp h htest
  obtain ⟨results, hresults⟩ := Option.ne_none_iff_exists'.mp hne
  obtain ⟨entries, -, hordered, hreports⟩ := hsome results hresults
  refine ⟨hno, results, hresults, ?_, entries, hordered, hreports⟩
  have hread : richTests treeReport = some [⟨"own [x]".toList, .passed, 0, none, none⟩,
      ⟨"own [y]".toList, .timedOut, 30, some "late\n at b".toList, some "late".toList⟩,
      ⟨"own [z]".toList, .skipped, 0, none, none⟩,
      ⟨"group / Test".toList, .unknown, 0, none, none⟩] := by
    decide +kernel
  exact Option.some.inj (hresults.symm.trans hread)

end Structured
end TestBench
