import TestBench.Proofs.Outcome.Failures

/-! Reports that list their tests: under the files that hold them, by their outcome, or in a
flat list. The first of these that has an entry is read, and each entry has its result, whatever
it is. -/
namespace TestBench
namespace Structured

variable {data : Json}

/-- Where a test is listed: under its file, with others of the same outcome, or in a flat list. -/
inductive Listing where
  | file
  | passes
  | failures
  | pending
  | flat
deriving DecidableEq

namespace Listing

/-- The keys for the name of an entry, in order of preference. -/
def nameKeys : Listing → List Text
  | file => nestedNameKeys
  | passes | failures | pending => outcomeNameKeys
  | flat => flatNameKeys

def status? : Listing → Option Status
  | passes => some .passed
  | failures => some .failed
  | pending => some .skipped
  | file | flat => none

/-- The result of the `n`th entry of a report. -/
def result (n : Nat) (listing : Listing) (entry : Json) : TestResult :=
  match listing.status? with
  | some status => outcomeResult (n - 1) (status, entry)
  | none => entryResult listing.nameKeys (n - 1) entry

end Listing

abbrev Listed := Listing × Json

/-- The entries under all files, one file after the other. -/
def fileEntries (data : Json) : List Listed :=
  ((listAt "testResults" data).flatMap (listAt "testResults")).map (Listing.file, ·)

/-- The entries by outcome, which count only if there is a list of passes. -/
def outcomeEntries (data : Json) : List Listed :=
  match data.itemsAt? "passes".toList with
  | some passes =>
    passes.map (Listing.passes, ·) ++ (listAt "failures" data).map (Listing.failures, ·) ++
      (listAt "pending" data).map (Listing.pending, ·)
  | none => []

def flatEntries (data : Json) : List Listed := (listAt "tests" data).map (Listing.flat, ·)

/-- The entries that are read: the first of the three kinds of which there are some. -/
def listedEntries (data : Json) : List Listed :=
  if fileEntries data ≠ [] then fileEntries data
  else if outcomeEntries data ≠ [] then outcomeEntries data
  else flatEntries data

/-- The results of entries, numbered over the whole report. -/
def resultsOf (entries : List Listed) : List TestResult :=
  numberedMap (fun i entry => Listing.result (i + 1) entry.1 entry.2) 0 entries

theorem map_nonEmpty?_map {α : Type} {f : Nat → α → TestResult} {g : α → Listed} {as : List α}
    (h : ∀ a ∈ as, ∀ i, f i a = Listing.result (i + 1) (g a).1 (g a).2) :
    (nonEmpty? as).map (numberedMap f 0) = (nonEmpty? (as.map g)).map resultsOf := by
  cases as with
  | nil => rfl
  | cons a as =>
    change some (numberedMap f 0 (a :: as)) = some (resultsOf ((a :: as).map g))
    rw [resultsOf, numberedMap_map, numberedMap_congr h]

theorem results_nested (data : Json) :
    ((nestedEntries? data).bind nonEmpty?).map (numberedMap (entryResult nestedNameKeys) 0) =
      (nonEmpty? (fileEntries data)).map resultsOf := by
  have hentries : (nestedEntries? data).bind nonEmpty? =
      nonEmpty? ((listAt "testResults" data).flatMap (listAt "testResults")) := by
    rw [nestedEntries?, listAt]
    cases data.itemsAt? "testResults".toList <;> rfl
  rw [hentries]
  exact map_nonEmpty?_map fun _ _ _ => rfl

def Listing.ofStatus : Status → Listing
  | .passed => passes
  | .failed => failures
  | _ => pending

theorem results_outcome (data : Json) :
    ((outcomeEntries? data).bind nonEmpty?).map (numberedMap outcomeResult 0) =
      (nonEmpty? (outcomeEntries data)).map resultsOf := by
  cases hpasses : data.itemsAt? "passes".toList with
  | none =>
    rw [outcomeEntries?, outcomeEntries, hpasses]
    rfl
  | some passes =>
    have hentries :
      outcomeEntries data =
      (passes.map (Status.passed, ·) ++ (listAt "failures" data).map (Status.failed, ·) ++
        (listAt "pending" data).map (Status.skipped, ·)).map fun entry => (Listing.ofStatus entry.1,
          entry.2) := by
      rw [outcomeEntries, hpasses]
      simp only [List.map_append, List.map_map]
      rfl
    rw [outcomeEntries?, hpasses, hentries]
    refine map_nonEmpty?_map fun entry hentry i => ?_
    simp only [List.mem_append, List.mem_map] at hentry
    rcases hentry with (⟨v, -, rfl⟩ | ⟨v, -, rfl⟩) | ⟨v, -, rfl⟩ <;> rfl

theorem results_flat (data : Json) :
    (nonEmpty? (listAt "tests" data)).map (numberedMap (entryResult flatNameKeys) 0) =
      (nonEmpty? (flatEntries data)).map resultsOf :=
  map_nonEmpty?_map fun _ _ _ => rfl

/-- A report that lists tests has the results of these, and any other one those of a tree. -/
theorem richTests_eq (data : Json) : richTests data =
    if listedEntries data = [] then
      (treeResults? data).bind nonEmpty? else some (resultsOf (listedEntries data)) := by
  rw [richTests, results_nested, results_outcome, results_flat, listedEntries]
  cases hfile : fileEntries data with
  | cons e es => simp [nonEmpty?]
  | nil =>
    cases houtcome : outcomeEntries data with
    | cons e es => simp [nonEmpty?]
    | nil => cases flatEntries data <;> simp [nonEmpty?]

section
variable {p : Json → Prop}

theorem forall_mem_map_listing {listing : Listing} {vs : List Json} (h : ∀ w ∈ vs, p w) :
    ∀ l ∈ vs.map (listing, ·), p l.2 :=
  List.forall_mem_map.mpr h

theorem forall_mem_fileEntries (hp : Json.Inherited p) (h : p data) :
    ∀ l ∈ fileEntries data, p l.2 := by
  refine forall_mem_map_listing fun w hw => ?_
  obtain ⟨file, hfile, hw⟩ := List.mem_flatMap.mp hw
  exact forall_mem_listAt hp (forall_mem_listAt hp h file hfile) w hw

theorem forall_mem_outcomeEntries (hp : Json.Inherited p) (h : p data) :
    ∀ l ∈ outcomeEntries data, p l.2 := by
  rw [outcomeEntries]
  cases hpasses : data.itemsAt? "passes".toList with
  | none => exact List.forall_mem_nil _
  | some passes =>
    simp only [List.forall_mem_append]
    exact ⟨⟨forall_mem_map_listing (hp.itemsAt? h passes hpasses),
      forall_mem_map_listing (forall_mem_listAt hp h)⟩,
      forall_mem_map_listing (forall_mem_listAt hp h)⟩

theorem forall_mem_listedEntries (hp : Json.Inherited p) (h : p data) :
    ∀ l ∈ listedEntries data, p l.2 := by
  rw [listedEntries]
  split
  · exact forall_mem_fileEntries hp h
  · split
    · exact forall_mem_outcomeEntries hp h
    · exact forall_mem_map_listing (forall_mem_listAt hp h)

end

namespace Listing

end Listing

end Structured
end TestBench
