import TestBench.Proofs.Json.Pruned
import TestBench.Proofs.Outcome.SuiteTree

/-! Reports with members that are null. A null counts as missing in nearly all that is read; only
where a time or a status may be stated in several places does a null in the first of these hide what
the others state. -/
namespace TestBench
namespace Structured

open Json (Mapped prunedMember)

variable {v : Json}

def firstStated (places : List (Option Json)) : Option Json := places.findSome? id

/-- What the first of several places states that states anything but null. -/
def firstGiven (places : List (Option Json)) : Option Json :=
  places.findSome? fun o => o.filter fun m => !m.isNull

/-- The first place that states anything states null, and something would be read from the places
behind it. -/
def NullHides {α : Type} (read : Option Json → α) (places : List (Option Json)) : Prop :=
  firstStated places = some .null ∧ read (firstGiven places) ≠ read none

@[simp] theorem firstStated_map_prunedMember (places : List (Option Json)) :
    firstStated (places.map prunedMember) = (firstGiven places).map Json.pruned := by
  rw [firstStated, firstGiven, List.findSome?_map, List.map_findSome?]
  rfl

theorem firstGiven_eq_firstStated {places : List (Option Json)}
    (h : firstStated places ≠ some .null) :
    firstGiven places = firstStated places := by
  induction places with
  | nil => rfl
  | cons o places ih =>
    cases o with
    | none => exact ih h
    | some m =>
      cases m with
      | null => exact absurd rfl h
      | _ => rfl

theorem read_pruned_iff {α : Type} (read : Option Json → α) (hnull : read (some .null) = read none)
    (hpruned : ∀ m : Json, read (some m.pruned) = read (some m)) (places : List (Option Json)) :
    read (firstStated (places.map prunedMember)) = read (firstStated places) ↔
    ¬NullHides read places := by
  have hmap : ∀ o : Option Json, read (o.map Json.pruned) = read o := by
    intro o
    cases o with
    | none => rfl
    | some m => exact hpruned m
  rw [firstStated_map_prunedMember, hmap, NullHides]
  by_cases h : firstStated places = some .null
  · rw [h, hnull]
    simp
  · rw [firstGiven_eq_firstStated h]
    simp [h]

@[simp] theorem errorParts_filter_null (o : Option Json) :
    errorParts (o.filter fun m => !m.isNull) = errorParts o := by
  cases o with
  | none => rfl
  | some m => cases m <;> rfl

theorem itemMessage?_pruned (h : v.Mapped) : itemMessage? v.pruned = itemMessage? v := by
  cases v with
  | object ms => exact congrArg (·.bind cleaned?) (Json.textAt?_pruned h _)
  | _ => rfl

theorem errorSources_pruned (h : v.Mapped) :
    errorSources (some v.pruned) = errorSources (some v) := by
  cases v with
  | array vs =>
    have hmessages : (vs.map Json.pruned).filterMap itemMessage? = vs.filterMap itemMessage? := by
      rw [List.filterMap_map]
      exact List.filterMap_congr fun w hw => itemMessage?_pruned (Json.inherited_mapped.item h hw)
    rw [Json.pruned, Json.prunedItems_eq, errorSources, errorSources, hmessages]
  | object ms =>
    have hmessage := Json.textAt?_pruned h "message".toList
    have hstack := Json.textAt?_pruned h "stack".toList
    have hsources : ∀ ms : List (Text × Json), errorSources (some (.object ms)) =
        ((((Json.object ms).textAt? "stack".toList).bind cleaned?).or
          (((Json.object ms).textAt? "message".toList).bind cleaned?),
          ((Json.object ms).textAt? "message".toList).bind cleaned?) := fun _ => rfl
    rw [Json.pruned] at hmessage hstack ⊢
    rw [hsources, hsources, hmessage, hstack]
  | _ => rfl

theorem errorParts_map_pruned {o : Option Json} (h : ∀ w ∈ o, w.Mapped) :
    errorParts (o.map Json.pruned) = errorParts o := by
  cases o with
  | none => rfl
  | some w => rw [Option.map_some, errorParts, errorParts, errorSources_pruned (h w rfl)]

theorem errorParts_or_pruned {a b : Option Json} (ha : ∀ w ∈ a, w.Mapped) (hb : ∀ w ∈ b, w.Mapped) :
    errorParts (((prunedMember a).filter fun m => !m.isNull).or (prunedMember b)) =
      errorParts ((a.filter fun m => !m.isNull).or b) := by
  cases hfirst : a.filter fun m => !m.isNull with
  | none =>
    have hnone : prunedMember a = none := by rw [prunedMember, hfirst]; rfl
    rw [hnone, Option.filter_none, Option.none_or, Option.none_or, prunedMember,
      errorParts_map_pruned, errorParts_filter_null]
    exact fun w hw => hb w (Option.filter_eq_some_iff.mp hw).1
  | some w =>
    obtain ⟨hw, hnull⟩ := Option.filter_eq_some_iff.mp hfirst
    have hsome : prunedMember a = some w.pruned := by rw [prunedMember, hfirst]; rfl
    rw [hsome, Option.filter_some_pos (by simpa using hnull), Option.some_or, Option.some_or]
    exact errorParts_map_pruned (o := some w) fun _ h => Option.some.inj h ▸ ha w hw

def entryTimes (entry : Json) : List (Option Json) :=
  [entry.get? "duration".toList, entry.get? "durationMs".toList]

def timeOf (o : Option Json) : UInt64 := (o.bind Json.millis?).getD 0

theorem millis?_pruned (v : Json) : v.pruned.millis? = v.millis? := by cases v <;> rfl

@[simp] theorem statusOf_pruned (v : Json) : statusOf (some v.pruned) = statusOf (some v) := by
  rw [statusOf, statusOf, Option.bind_some, Option.bind_some, Json.text?_pruned]

@[simp] theorem statusOf_prunedMember (o : Option Json) :
    statusOf (prunedMember o) = statusOf o := by
  rw [statusOf, Json.bind_prunedMember rfl Json.text?_pruned, statusOf]

@[simp] theorem timeOf_prunedMember (o : Option Json) : timeOf (prunedMember o) = timeOf o := by
  rw [timeOf, Json.bind_prunedMember rfl millis?_pruned, timeOf]

theorem durationMs_entryResult (keys : List Text) (n : Nat) (entry : Json) :
    (entryResult keys n entry).durationMs = timeOf (firstStated (entryTimes entry)) := by
  rw [entryTimes, firstStated]
  cases hfirst : entry.get? "duration".toList <;> cases hsecond : entry.get? "durationMs".toList <;>
    simp only [entryResult, hfirst, hsecond] <;> rfl

theorem entryTimes_pruned (h : v.Mapped) :
    entryTimes v.pruned = (entryTimes v).map prunedMember := by
  rw [entryTimes, Json.get?_pruned h, Json.get?_pruned h]
  rfl

theorem entryResult_pruned_iff (h : v.Mapped) (keys : List Text) (n : Nat) :
    entryResult keys n v.pruned = entryResult keys n v ↔ ¬NullHides timeOf (entryTimes v) := by
  have htime : (entryResult keys n v.pruned).durationMs = (entryResult keys n v).durationMs ↔
      ¬NullHides timeOf (entryTimes v) := by
    rw [durationMs_entryResult, durationMs_entryResult, entryTimes_pruned h]
    exact read_pruned_iff timeOf rfl (fun m => congrArg (·.getD 0) (millis?_pruned m)) _
  have hname : (entryResult keys n v.pruned).name = (entryResult keys n v).name := by
    simp only [entryResult]
    rw [Json.firstText?_pruned h]
  have hstatus : (entryResult keys n v.pruned).status = (entryResult keys n v).status := by
    simp only [entryResult]
    rw [Json.get?_pruned h, statusOf_prunedMember]
  have herror := errorParts_or_pruned (Json.inherited_mapped.get? (k := "error".toList) h)
    (Json.inherited_mapped.get? (k := "failureMessages".toList) h)
  rw [← Json.get?_pruned h, ← Json.get?_pruned h] at herror
  rw [← htime]
  refine ⟨congrArg _, fun htime => ?_⟩
  exact TestResult.mk.injEq .. ▸ ⟨hname, hstatus, htime, congrArg _ herror, congrArg _ herror⟩

theorem outcomeResult_pruned (h : v.Mapped) (n : Nat) (status : Status) :
    outcomeResult n (status, v.pruned) = outcomeResult n (status, v) := by
  have hname := Json.firstText?_pruned h outcomeNameKeys
  have htime : timeOf (v.pruned.get? "duration".toList) = timeOf (v.get? "duration".toList) := by
    rw [Json.get?_pruned h, timeOf_prunedMember]
  have herror : errorParts (v.pruned.get? "err".toList) = errorParts (v.get? "err".toList) := by
    rw [Json.get?_pruned h, prunedMember, errorParts_map_pruned, errorParts_filter_null]
    exact fun w hw => Json.inherited_mapped.get? h w (Option.filter_eq_some_iff.mp hw).1
  rw [timeOf, timeOf] at htime
  simp only [outcomeResult, hname, htime, herror]

theorem Listing.result_pruned_iff (h : v.Mapped) (n : Nat) (listing : Listing) :
    listing.result n v.pruned = listing.result n v ↔
    (listing.status? = none → ¬NullHides timeOf (entryTimes v)) := by
  cases hstatus : listing.status? with
  | none =>
    simp only [result, hstatus]
    simpa using entryResult_pruned_iff h listing.nameKeys (n - 1)
  | some status =>
    simp only [result, hstatus]
    simpa using outcomeResult_pruned h (n - 1) status

theorem listAt_pruned (h : v.Mapped) (key : String) :
    listAt key v.pruned = (listAt key v).map Json.pruned := by
  rw [listAt, listAt, Json.itemsAt?_pruned h]
  cases v.itemsAt? key.toList <;> rfl

theorem mapped_listAt (h : v.Mapped) (key : String) : ∀ w ∈ listAt key v, w.Mapped :=
  forall_mem_listAt Json.inherited_mapped h

def prunedEntry (l : Listed) : Listed := (l.1, l.2.pruned)

theorem map_listing_pruned (listing : Listing) (vs : List Json) :
    (vs.map Json.pruned).map (listing, ·) = (vs.map (listing, ·)).map prunedEntry := by
  rw [List.map_map, List.map_map]
  rfl

theorem fileEntries_pruned (h : v.Mapped) :
    fileEntries v.pruned = (fileEntries v).map prunedEntry := by
  have hfiles : (listAt "testResults" v.pruned).flatMap (listAt "testResults") =
      ((listAt "testResults" v).flatMap (listAt "testResults")).map Json.pruned := by
    rw [listAt_pruned h, List.flatMap_map, List.map_flatMap]
    exact List.flatMap_congr fun file hfile => listAt_pruned (mapped_listAt h _ file hfile) _
  rw [fileEntries, fileEntries, hfiles, map_listing_pruned]

theorem outcomeEntries_pruned (h : v.Mapped) :
    outcomeEntries v.pruned = (outcomeEntries v).map prunedEntry := by
  rw [outcomeEntries, outcomeEntries, Json.itemsAt?_pruned h, listAt_pruned h, listAt_pruned h]
  cases v.itemsAt? "passes".toList with
  | none => rfl
  | some passes => simp only [Option.map_some, List.map_append, map_listing_pruned]

theorem flatEntries_pruned (h : v.Mapped) :
    flatEntries v.pruned = (flatEntries v).map prunedEntry := by
  rw [flatEntries, flatEntries, listAt_pruned h, map_listing_pruned]

theorem listedEntries_pruned (h : v.Mapped) :
    listedEntries v.pruned = (listedEntries v).map prunedEntry := by
  rw [listedEntries, fileEntries_pruned h, outcomeEntries_pruned h, flatEntries_pruned h,
    listedEntries]
  simp only [ne_eq, List.map_eq_nil_iff]
  split
  · rfl
  · split <;> rfl

theorem resultsOf_pruned_iff {entries : List Listed} (h : ∀ l ∈ entries, l.2.Mapped) :
    resultsOf (entries.map prunedEntry) = resultsOf entries ↔
      ∀ l ∈ entries, l.1.status? = none → ¬NullHides timeOf (entryTimes l.2) := by
  rw [resultsOf, numberedMap_map]
  exact numberedMap_eq_iff (fun l hl i => Listing.result_pruned_iff (h l hl) (i + 1) l.1) 0

namespace TreeEntry

/-- The suites on the way down to a test, its spec and the test, without the members that are
null. -/
def pruned (e : TreeEntry) : TreeEntry := ⟨e.suites.map Json.pruned, e.spec.pruned, e.test.pruned⟩

def statuses (e : TreeEntry) : List (Option Json) :=
  [e.last?.bind (Json.get? "status".toList), e.test.get? "status".toList]

end TreeEntry

theorem ownEntries_pruned (h : v.Mapped) :
    ownEntries v.pruned = (ownEntries v).map fun x => (x.1, x.2.pruned) := by
  rw [ownEntries, ownEntries, listAt_pruned h, List.zipIdx_map, List.flatMap_map, List.map_flatMap]
  refine List.flatMap_congr fun spec hspec => ?_
  have hmapped := mapped_listAt h _ spec.1 (List.fst_mem_of_mem_zipIdx hspec)
  rw [Prod.map_fst, listAt_pruned hmapped, List.zipIdx_map, List.map_map, List.map_map]
  rfl

theorem entriesBelow_pruned_of (h : v.Mapped)
    (hchildren : ∀ child ∈ listAt "suites" v,
      entriesIn child.pruned = (entriesIn child).map fun x => (x.1, x.2.pruned)) :
    entriesBelow v.pruned = (entriesBelow v).map fun x => (x.1, x.2.pruned) := by
  rw [entriesBelow, entriesBelow, listAt_pruned h, List.zipIdx_map, List.flatMap_map,
    List.map_flatMap]
  refine List.flatMap_congr fun child hchild => ?_
  rw [Prod.map_fst, hchildren child.1 (List.fst_mem_of_mem_zipIdx hchild), List.map_map,
    List.map_map]
  rfl

theorem entriesIn_pruned (h : v.Mapped) :
    entriesIn v.pruned = (entriesIn v).map fun x => (x.1, x.2.pruned) := by
  induction v using suite_induction with
  | step suite ih =>
    rw [entriesIn_eq, entriesIn_eq, List.map_append, ownEntries_pruned h,
      entriesBelow_pruned_of h fun child hchild => ih child hchild (mapped_listAt h _ child hchild)]

theorem entriesBelow_pruned (h : v.Mapped) :
    entriesBelow v.pruned = (entriesBelow v).map fun x => (x.1, x.2.pruned) :=
  entriesBelow_pruned_of h fun child hchild => entriesIn_pruned (mapped_listAt h _ child hchild)

theorem filter_items_prunedMember (o : Option Json) :
    ((prunedMember o).filter fun m => !(m.items?.getD []).isEmpty) =
      prunedMember (o.filter fun m => !(m.items?.getD []).isEmpty) := by
  cases o with
  | none => rfl
  | some m =>
    cases m with
    | array vs => cases vs <;> rfl
    | _ => rfl

theorem errorParts_errorOf_pruned {last : Json} (h : last.Mapped) :
    errorParts (TreeEntry.errorOf last.pruned) = errorParts (TreeEntry.errorOf last) := by
  rw [TreeEntry.errorOf, TreeEntry.errorOf, Json.get?_pruned h, Json.get?_pruned h,
    filter_items_prunedMember]
  exact errorParts_or_pruned (Json.inherited_mapped.get? h) fun w hw =>
    Json.inherited_mapped.get? h w (Option.filter_eq_some_iff.mp hw).1

namespace TreeEntry

variable {e : TreeEntry}

theorem title_pruned (h : e.All Mapped) : e.pruned.title = e.title := by
  have htitles : (e.suites.map Json.pruned).tail.filterMap suiteTitle? =
      e.suites.tail.filterMap suiteTitle? := by
    rw [← List.map_tail, List.filterMap_map]
    refine List.filterMap_congr fun suite hsuite => ?_
    simp only [Function.comp_apply, suiteTitle?]
    rw [Json.textAt?_pruned (h.suites suite (List.mem_of_mem_tail hsuite))]
  rw [title, title, pruned, htitles, Json.textAt?_pruned h.spec]

theorem last?_pruned (h : e.All Mapped) : e.pruned.last? = e.last?.map Json.pruned := by
  rw [last?, last?, pruned, Json.itemsAt?_pruned h.test]
  cases e.test.itemsAt? "results".toList with
  | none => rfl
  | some results => exact List.getLast?_map ..

theorem mapped_last (h : e.All Mapped) : ∀ last ∈ e.last?, last.Mapped := by
  intro last hlast
  obtain ⟨results, hresults, hlast⟩ := Option.bind_eq_some_iff.mp hlast
  exact Json.inherited_mapped.itemsAt? h.test results hresults last (List.mem_of_getLast? hlast)

theorem last_get?_pruned (h : e.All Mapped) (k : Text) :
    e.pruned.last?.bind (Json.get? k) = prunedMember (e.last?.bind (Json.get? k)) := by
  rw [last?_pruned h]
  cases hlast : e.last? with
  | none => rfl
  | some last => exact Json.get?_pruned (mapped_last h last hlast) k

theorem statuses_pruned (h : e.All Mapped) : e.pruned.statuses = e.statuses.map prunedMember := by
  rw [statuses, last_get?_pruned h, pruned, Json.get?_pruned h.test]
  rfl

theorem error_pruned (h : e.All Mapped) :
    errorParts (e.pruned.last?.bind errorOf) = errorParts (e.last?.bind errorOf) := by
  rw [last?_pruned h]
  cases hlast : e.last? with
  | none => rfl
  | some last => exact errorParts_errorOf_pruned (mapped_last h last hlast)

theorem name_pruned (h : e.All Mapped) : e.pruned.result.name = e.result.name := by
  have hproject :
      e.pruned.test.textAt? "projectName".toList = e.test.textAt? "projectName".toList :=
    Json.textAt?_pruned h.test _
  have htests : (listAt "tests" e.pruned.spec).length = (listAt "tests" e.spec).length := by
    rw [pruned, listAt_pruned h.spec, List.length_map]
  rw [name_result, name_result, hproject, htests, title_pruned h]

theorem result_pruned_iff (h : e.All Mapped) : e.pruned.result = e.result ↔
    ¬NullHides statusOf e.statuses := by
  have hstated : ∀ e : TreeEntry, e.result.status = statusOf (firstStated e.statuses) := by
    intro e
    rw [status_result, statuses, firstStated]
    cases e.last?.bind (Json.get? "status".toList) <;> cases e.test.get? "status".toList <;> rfl
  have hstatus : e.pruned.result.status = e.result.status ↔ ¬NullHides statusOf e.statuses := by
    rw [hstated, hstated, statuses_pruned h]
    exact read_pruned_iff statusOf rfl statusOf_pruned _
  have htime : e.pruned.result.durationMs = e.result.durationMs := by
    rw [duration_result, duration_result, last_get?_pruned h]
    exact timeOf_prunedMember _
  have herror := error_pruned h
  rw [← hstatus]
  refine ⟨congrArg _, fun hstatus => ?_⟩
  refine TestResult.mk.injEq .. ▸ ⟨name_pruned h, hstatus, htime, ?_, ?_⟩
  · exact congrArg _ herror
  · exact congrArg _ herror

end TreeEntry

theorem tree_pruned_iff (h : v.Mapped) :
    ((entriesBelow v.pruned).map fun x => x.2.result) = ((entriesBelow v).map fun x => x.2.result) ↔
      ∀ p e, EntryOf v p e → ¬NullHides statusOf e.statuses := by
  rw [entriesBelow_pruned h, List.map_map, List.map_inj_left, Prod.forall]
  refine forall_congr' fun p => forall_congr' fun e => ?_
  rw [mem_entriesBelow_iff]
  exact forall_congr' fun he =>
    TreeEntry.result_pruned_iff (all_of_entryIn Json.inherited_mapped h he.1)

@[simp] theorem nonEmpty?_inj {α : Type} {as bs : List α} :
    nonEmpty? as = nonEmpty? bs ↔ as = bs := by
  cases as <;> cases bs <;> simp [nonEmpty?]

theorem richTests_pruned_iff (h : v.Mapped) : richTests v.pruned = richTests v ↔
    (∀ l ∈ listedEntries v, l.1.status? = none → ¬NullHides timeOf (entryTimes l.2)) ∧
    (listedEntries v = [] → ∀ p e, EntryOf v p e → ¬NullHides statusOf e.statuses) := by
  by_cases hno : listedEntries v = []
  · have hno' : listedEntries v.pruned = [] := by rw [listedEntries_pruned h, hno, List.map_nil]
    rw [richTests_tree hno, richTests_tree hno', nonEmpty?_inj, tree_pruned_iff h]
    simp [hno]
  · have hno' : listedEntries v.pruned ≠ [] := by
      rw [listedEntries_pruned h]
      exact fun hnil => hno (List.map_eq_nil_iff.mp hnil)
    rw [richTests_eq, richTests_eq, if_neg hno, if_neg hno', Option.some_inj,
      listedEntries_pruned h,
      resultsOf_pruned_iff (forall_mem_listedEntries Json.inherited_mapped h)]
    simp [hno]

theorem listedFailure?_pruned (h : v.Mapped) (i : Nat) :
    listedFailure? i v.pruned = listedFailure? i v := by
  cases v with
  | object ms =>
    have hname := Json.firstText?_pruned h failureNameKeys
    have herror :
        errorParts (failureErrorKeys.findSome? fun k =>
            ((Json.object ms).pruned.get? k).filter fun e => !e.isNull) =
          errorParts (failureErrorKeys.findSome? fun k =>
            ((Json.object ms).get? k).filter fun e => !e.isNull) := by
      have hkey : ∀ k, ((Json.object ms).pruned.get? k).filter (fun e => !e.isNull) =
          (((Json.object ms).get? k).filter fun e => !e.isNull).map Json.pruned := by
        intro k
        rw [Json.get?_pruned h, prunedMember]
        cases (Json.object ms).get? k with
        | none => rfl
        | some m => cases m <;> rfl
      have hfirst :
          (failureErrorKeys.findSome? fun k => ((Json.object ms).pruned.get? k).filter
          fun e => !e.isNull) =
            (failureErrorKeys.findSome? fun k => ((Json.object ms).get? k).filter fun e =>
              !e.isNull).map Json.pruned := by
        rw [List.map_findSome?]
        exact congrArg (List.findSome? · failureErrorKeys) (funext hkey)
      rw [hfirst]
      refine errorParts_map_pruned fun w hw => ?_
      obtain ⟨k, -, hk⟩ := List.exists_of_findSome?_eq_some hw
      exact Json.inherited_mapped.get? h w (Option.filter_eq_some_iff.mp hk).1
    rw [Json.pruned] at hname herror ⊢
    simp only [listedFailure?, hname, herror]
  | _ => rfl

theorem toUInt64?_at_pruned (h : v.Mapped) (k : Text) :
    (v.pruned.get? k).bind Json.toUInt64? = (v.get? k).bind Json.toUInt64? := by
  rw [Json.get?_pruned h, Json.bind_prunedMember rfl Json.toUInt64?_pruned]

theorem legacyTests_pruned (h : v.Mapped) : legacyTests v.pruned = legacyTests v := by
  have hlisted : ∀ vs, v.itemsAt? "failures".toList = some vs →
      numberedMap listedFailure? 0 (vs.map Json.pruned) = numberedMap listedFailure? 0 vs := by
    intro vs hvs
    rw [numberedMap_map]
    exact numberedMap_congr fun w hw i =>
      listedFailure?_pruned (Json.inherited_mapped.itemsAt? h vs hvs w hw) i
  simp only [legacyTests, toUInt64?_at_pruned h, Json.itemsAt?_pruned h]
  cases hfailures : v.itemsAt? "failures".toList with
  | none => rfl
  | some vs =>
    simp only [Option.map_some, Option.getD_some, Option.isNone_some, hlisted vs hfailures]

theorem runnerMessage?_pruned (h : v.Mapped) : runnerMessage? v.pruned = runnerMessage? v := by
  rw [runnerMessage?, runnerMessage?, Json.textAt?_pruned h, Json.text?_pruned]

theorem runnerError_pruned (h : v.Mapped) : runnerError v.pruned = runnerError v := by
  rw [runnerError, runnerError, listAt_pruned h, List.filterMap_map]
  exact congrArg joined? (List.filterMap_congr fun w hw => runnerMessage?_pruned
    (mapped_listAt h _ w hw))

def runTimes (v : Json) : List (Option Json) :=
  [(v.get? "stats".toList).bind (Json.get? "duration".toList), v.get? "durationMs".toList,
    v.get? "duration".toList]

theorem durationMs_eq (v : Json) : durationMs v = (firstStated (runTimes v)).bind Json.millis? := by
  rw [durationMs, runTimes, firstStated]
  cases (v.get? "stats".toList).bind (Json.get?
    "duration".toList) <;> cases v.get? "durationMs".toList <;>
    cases v.get? "duration".toList <;> rfl

theorem runTimes_pruned (h : v.Mapped) : runTimes v.pruned = (runTimes v).map prunedMember := by
  have hstats : (v.pruned.get? "stats".toList).bind (Json.get? "duration".toList) =
      prunedMember ((v.get? "stats".toList).bind (Json.get? "duration".toList)) := by
    rw [Json.get?_pruned h]
    cases hstats : v.get? "stats".toList with
    | none => rfl
    | some stats =>
      have hmapped := Json.inherited_mapped.get? h stats hstats
      cases stats with
      | object ms => exact Json.get?_pruned hmapped _
      | _ => rfl
  rw [runTimes, hstats, Json.get?_pruned h, Json.get?_pruned h]
  rfl

theorem durationMs_pruned_iff (h : v.Mapped) :
    durationMs v.pruned = durationMs v ↔ ¬NullHides (Option.bind · Json.millis?) (runTimes v) := by
  rw [durationMs_eq, durationMs_eq, runTimes_pruned h]
  exact read_pruned_iff (Option.bind · Json.millis?) rfl millis?_pruned _

/-- Without the members that are null all is read as before, up to what a null hides that is the
first of several places to state something: the time of a listed test or of the whole run, or the
status of a test in a tree of suites. -/
theorem null_counts_as_missing (h : v.Mapped) :
    legacyTests v.pruned = legacyTests v ∧
    runnerError v.pruned = runnerError v ∧
    (durationMs v.pruned = durationMs v ↔ ¬NullHides (Option.bind · Json.millis?) (runTimes v)) ∧
    (richTests v.pruned = richTests v ↔
      (∀ l ∈ listedEntries v, l.1.status? = none → ¬NullHides timeOf (entryTimes l.2)) ∧
      (listedEntries v = [] → ∀ p e, EntryOf v p e → ¬NullHides statusOf e.statuses)) :=
  ⟨legacyTests_pruned h, runnerError_pruned h, durationMs_pruned_iff h, richTests_pruned_iff h⟩

def hiddenTimeReport : Json :=
  .object [("tests".toList, .array [.object [
    ("duration".toList, .null),
    ("durationMs".toList, .number (.ofNat 5)),
    ("name".toList, .string ['a']),
    ("status".toList, .string "passed".toList)]])]

theorem mapped_hiddenTimeReport : hiddenTimeReport.Mapped := by
  refine ⟨3, .object (by decide) fun m hm => ?_⟩
  obtain rfl := List.mem_singleton.mp hm
  refine .array fun w hw => ?_
  obtain rfl := List.mem_singleton.mp hw
  refine .object (by decide) fun m hm => ?_
  simp only [List.mem_cons, List.not_mem_nil, or_false] at hm
  rcases hm with rfl | rfl | rfl | rfl
  · exact .null _
  · exact .number ..
  · exact .string ..
  · exact .string ..

/-- All of that report but its time is read the same. -/
theorem null_counts_as_missing_of_hidden_time :
    hiddenTimeReport.Mapped ∧ legacyTests hiddenTimeReport.pruned = legacyTests hiddenTimeReport ∧
    runnerError hiddenTimeReport.pruned = runnerError hiddenTimeReport ∧
    durationMs hiddenTimeReport.pruned = durationMs hiddenTimeReport ∧
    richTests hiddenTimeReport.pruned ≠ richTests hiddenTimeReport := by
  obtain ⟨hlegacy, hrunner, hduration, hrich⟩ := null_counts_as_missing mapped_hiddenTimeReport
  refine ⟨mapped_hiddenTimeReport, hlegacy, hrunner, hduration.mpr fun h => ?_, fun h => ?_⟩
  · exact absurd h.1 (nomatch ·)
  · exact (hrich.mp h).1 _ List.mem_cons_self rfl ⟨rfl, by decide +kernel⟩

/-- A tree with a test that has passed; its only try states what is given as its status. -/
def triedReport (status : Option Json) : Json :=
  .object [("suites".toList,
    .array [.object [("specs".toList, .array [.object [("tests".toList, .array [.object [
    ("results".toList, .array [.object (status.map fun s => ("status".toList, s)).toList]),
    ("status".toList, .string "passed".toList)]])]])]])]

def hiddenRunReport : Json :=
  .object [("duration".toList, .number (.ofNat 7)), ("durationMs".toList, .null)]

/-- A null in front hides the time of a test, the status of a test in a tree of suites, and the time
of the whole run. -/
theorem null_hides_what_follows :
    richTests hiddenTimeReport = some [⟨['a'], .passed, 0, none, none⟩] ∧
    richTests hiddenTimeReport.pruned = some [⟨['a'], .passed, 5, none, none⟩] ∧
    (triedReport (some .null)).pruned = triedReport none ∧
    (richTests (triedReport (some .null))).map (List.map TestResult.status) = some [.unknown] ∧
    (richTests (triedReport none)).map (List.map TestResult.status) = some [.passed] ∧
    durationMs hiddenRunReport = none ∧ durationMs hiddenRunReport.pruned = some 7 :=
  ⟨by decide +kernel, by decide +kernel, rfl, by decide +kernel, by decide +kernel,
    rfl, by decide +kernel⟩

end Structured
end TestBench
