import TestBench.Proofs.Outcome.LegacyCounts

/-! Names that are made up in reports with counts. A listed failure without a name is numbered by
its place in the list, and a failure that is only counted by how many tests stand before it. The two
agree as long as every item of the list is read; an item that is left out may let a listed failure
and a counted one have the same name. -/
namespace TestBench

variable {stem name : Text} {first count i : Nat} {make : Text → TestResult} {r : TestResult}

/-- How a name is made up: from a word and a number, or from a word and a range of numbers. -/
inductive MadeFrom (stem : Text) : Option Nat → Text → Prop
  | number (n : Nat) : MadeFrom stem (some n) (stem ++ Text.ofNat n)
  | range (first last count : Nat) : MadeFrom stem none (rangeName stem first last count)

namespace MadeFrom

variable {a b : Option Nat}

theorem number_ne_range (n last : Nat) :
    stem ++ Text.ofNat n ≠ rangeName stem first last count := by
  intro h
  simp only [rangeName, List.append_assoc, List.append_cancel_left_eq] at h
  rw [← List.append_nil (Text.ofNat n)] at h
  obtain ⟨-, hrest⟩ := ofNat_append_inj (by rintro _ ⟨⟩) (by rintro _ ⟨⟩; rfl) h
  cases hrest

theorem number_eq (h : MadeFrom stem a name) (h' : MadeFrom stem b name) : a = b := by
  cases h with
  | number m =>
    generalize hname : stem ++ Text.ofNat m = name at h'
    cases h' with
    | number n => rw [Text.ofNat_injective (List.append_cancel_left hname)]
    | range => exact absurd hname (number_ne_range _ _)
  | range first last count =>
    generalize hname : rangeName stem first last count = name at h'
    cases h' with
    | number n => exact absurd hname.symm (number_ne_range _ _)
    | range => rfl

theorem begins (h : MadeFrom stem a name) : stem <+: name := by
  cases h with
  | number n => exact List.prefix_append _ _
  | range first last count =>
    simp only [rangeName, List.append_assoc]
    exact List.prefix_append _ _

end MadeFrom

theorem getElem?_placeholders_of_few (hfew : count ≤ placeholderLimit) :
    (placeholders stem first count make)[i]? = some r ↔
      i < count ∧ first + i + 1 < UInt64.size ∧ r = make (stem ++ Text.ofNat (first + i)) := by
  have hsize : UInt64.size = 18446744073709551616 := rfl
  rw [placeholders]
  split
  · next hzero => simp [hzero]
  · rw [if_neg (by omega), List.getElem?_map, Option.map_eq_some_iff]
    constructor
    · rintro ⟨n, hn, rfl⟩
      obtain ⟨hi, rfl⟩ := List.getElem?_eq_some_iff.mp hn
      rw [List.length_range', clampedAdd] at hi
      rw [List.getElem_range', Nat.one_mul]
      exact ⟨by omega, by omega, rfl⟩
    · rintro ⟨hi, hn, rfl⟩
      refine ⟨first + i, ?_, rfl⟩
      rw [List.getElem?_range' (by rw [clampedAdd]; omega), Nat.one_mul]

theorem placeholders_of_many (hmany : placeholderLimit < count) :
    placeholders stem first count make =
      [make (rangeName stem first (clampedAdd first (count - 1)) count)] := by
  rw [placeholders, if_neg (by omega), if_pos hmany]
  rfl

theorem madeFrom_placeholders (hname : ∀ t, (make t).name = t)
    (h : (placeholders stem first count make)[i]? = some r) :
    (count ≤ placeholderLimit ∧ i < count ∧ first + i + 1 < UInt64.size ∧
      MadeFrom stem (some (first + i)) r.name) ∨
      (placeholderLimit < count ∧ i = 0 ∧ MadeFrom stem none r.name) := by
  rcases Nat.lt_or_ge placeholderLimit count with hmany | hfew
  · rw [placeholders_of_many hmany] at h
    obtain ⟨hi, rfl⟩ := List.getElem?_eq_some_iff.mp h
    rw [List.length_singleton] at hi
    refine .inr ⟨hmany, by omega, ?_⟩
    rw [List.getElem_singleton, hname]
    exact .range _ _ _
  · obtain ⟨hi, hlast, rfl⟩ := (getElem?_placeholders_of_few hfew).mp h
    refine .inl ⟨hfew, hi, hlast, ?_⟩
    rw [hname]
    exact .number _

namespace Structured

variable {data v : Json} {results : List TestResult} {j place : Nat} {s : TestResult}

/-- The items of the list of failures that are read, each with its place in the list. -/
def listedItems (data : Json) : List (Json × Nat) :=
  (listAt "failures" data).zipIdx.filter fun item => isListed item.1

def countedResults (data : Json) : List TestResult :=
  placeholders "Failure_".toList ((listedResults data).length + 1)
    (statedCount "failed" data - (listedResults data).length)
    countedFailure

def passedResults (data : Json) : List TestResult :=
  placeholders "Test_".toList 1 (statedCount "passed" data) TestResult.passed

theorem legacyTests_eq_append (h : legacyTests data = some results) :
    results = listedResults data ++ (countedResults data ++ passedResults data) := by
  have hcounts : Counts data := by
    rw [legacyTests] at h
    split at h
    · cases h
    · next hread =>
      rw [Bool.and_eq_true, not_and_or, Bool.not_eq_true, Bool.not_eq_true,
        Option.isNone_eq_false_iff, Option.isNone_eq_false_iff] at hread
      exact hread
  rw [legacyTests_of_counts hcounts] at h
  rw [← (nonEmpty?_eq_some_iff.mp h).2, List.append_assoc]
  rfl

theorem position_cases (h : legacyTests data = some results) (hr : results[i]? = some r) :
    (i < (listedResults data).length ∧ (listedResults data)[i]? = some r) ∨
    ((listedResults data).length ≤ i ∧
      (countedResults data)[i - (listedResults data).length]? = some r) ∨
    ((listedResults data).length + (countedResults data).length ≤ i ∧
      (passedResults data)[i - (listedResults data).length - (countedResults data).length]? =
        some r) := by
  rw [legacyTests_eq_append h, List.getElem?_append] at hr
  split at hr
  · next hlt => exact .inl ⟨hlt, hr⟩
  · next hge =>
    rw [List.getElem?_append] at hr
    split at hr
    · exact .inr (.inl ⟨by omega, hr⟩)
    · exact .inr (.inr ⟨by omega, hr⟩)

@[simp] theorem length_listedItems (data : Json) :
    (listedItems data).length = (listedResults data).length :=
  (forall₂_listed 0 (listAt "failures" data)).length_eq

theorem getElem?_listedResults (hr : (listedResults data)[i]? = some r) :
    ∃ item, (listedItems data)[i]? = some item ∧ listedFailure? item.2 item.1 = some r := by
  obtain ⟨hi, rfl⟩ := List.getElem?_eq_some_iff.mp hr
  have hi' : i < (listedItems data).length := by rwa [length_listedItems]
  exact ⟨_, List.getElem?_eq_getElem hi',
    (List.forall₂_iff_get.mp (forall₂_listed 0 (listAt "failures" data))).2 i hi' hi⟩

theorem pairwise_listedItems (data : Json) : (listedItems data).Pairwise fun a b => a.2 < b.2 := by
  refine List.Pairwise.filter _ (List.pairwise_map.mp ?_)
  rw [List.zipIdx_map_snd]
  exact List.pairwise_lt_range'

theorem place_lt_of_mem (h : (v, place) ∈ listedItems data) :
    place < (listAt "failures" data).length := by
  have := List.snd_lt_of_mem_zipIdx (List.mem_filter.mp h).1
  simpa using this

/-- A failure that is listed as an object and has no text under any key for a name. -/
def IsNameless (v : Json) : Prop :=
  (∃ ms, v = .object ms) ∧ ∀ key ∈ failureNameKeys, v.textAt? key = none

/-- The result at a position has a name that is made up: it is no listed failure, or one without a
name. -/
def MadeUp (data : Json) (i : Nat) : Prop :=
  ∀ item, (listedItems data)[i]? = some item → IsNameless item.1

/-- A nameless failure stands so far down the list that its place is the number of a failure that is
only counted. The counted failures go on from the number of the listed ones, one by one if they are
not too many, and end before the greatest number of 64 bits. -/
structure Clashes (data v : Json) (place : Nat) : Prop where
  nameless : IsNameless v
  listed : (listedResults data).length ≤ place
  counted : place < statedCount "failed" data
  few : statedCount "failed" data - (listedResults data).length ≤ placeholderLimit
  numbered : place + 2 < UInt64.size

def NamesDiffer (data : Json) (results : List TestResult) : Prop :=
  ∀ i j r s, i < j → MadeUp data i → MadeUp data j → results[i]? = some r → results[j]? = some s →
    r.name ≠ s.name

/-- The words that names are made up from. -/
inductive Stem where
  | failure
  | test

def Stem.text : Stem → Text
  | failure => "Failure_".toList
  | test => "Test_".toList

/-- What the name at a position is made up from: the place of a nameless failure, the position of a
counted one, or the number of a passed test, unless one name is for a range of them. -/
inductive Naming (data : Json) (i : Nat) : Stem → Option Nat → Prop
  | listed {v : Json} {place : Nat} : (listedItems data)[i]? = some (v, place) → IsNameless v →
      Naming data i .failure (some (place + 1))
  | counted : (listedResults data).length ≤ i → i < statedCount "failed" data →
      statedCount "failed" data - (listedResults data).length ≤ placeholderLimit →
        i + 2 < UInt64.size →
      Naming data i .failure (some (i + 1))
  | countedRange : i = (listedResults data).length → Naming data i .failure none
  | passed {n : Nat} : i = (listedResults data).length + (countedResults data).length + n →
      Naming data i .test (some (n + 1))
  | passedRange : i = (listedResults data).length + (countedResults data).length →
      Naming data i .test none

theorem name_of_nameless (hnameless : IsNameless v) (h : listedFailure? place v = some r) :
    r.name = "Failure_".toList ++ Text.ofNat (place + 1) := by
  obtain ⟨⟨ms, rfl⟩, hkeys⟩ := hnameless
  have hname : (Json.object ms).firstText? failureNameKeys = none :=
    List.findSome?_eq_none_iff.mpr hkeys
  rw [← Option.some.inj h]
  simp only [hname]
  rfl

theorem exists_naming (h : legacyTests data = some results) (hr : results[i]? = some r)
    (hi : MadeUp data i) :
    ∃ stem number, Naming data i stem number ∧ MadeFrom stem.text number r.name := by
  rcases position_cases h hr with ⟨-, hr⟩ | ⟨hge, hr⟩ | ⟨hge, hr⟩
  · obtain ⟨⟨v, place⟩, hitem, hlisted⟩ := getElem?_listedResults hr
    refine ⟨.failure, _, .listed hitem (hi _ hitem), ?_⟩
    rw [name_of_nameless (hi _ hitem) hlisted]
    exact .number _
  · rcases madeFrom_placeholders (fun _ => rfl) hr with
      ⟨hfew, hcount, hlast, hname⟩ | ⟨hmany, hzero, hname⟩
    · rw [show (listedResults data).length + 1 + (i - (listedResults data).length) = i + 1 by omega]
        at hname
      exact ⟨.failure, _, .counted hge (by omega) hfew (by omega), hname⟩
    · exact ⟨.failure, none, .countedRange (by omega), hname⟩
  · rcases madeFrom_placeholders (fun _ => rfl) hr with ⟨-, -, -, hname⟩ | ⟨-, hzero, hname⟩
    · rw [Nat.add_comm] at hname
      exact ⟨.test, _, .passed (by omega), hname⟩
    · exact ⟨.test, none, .passedRange (by omega), hname⟩

theorem naming_unique {stem stem' : Stem} {a b : Option Nat} (h : MadeFrom stem.text a name)
    (h' : MadeFrom stem'.text b name) : stem = stem' ∧ a = b := by
  obtain ⟨t, rfl⟩ := h.begins
  obtain ⟨t', ht'⟩ := h'.begins
  cases stem <;> cases stem'
  case failure.failure => exact ⟨rfl, h.number_eq h'⟩
  case test.test => exact ⟨rfl, h.number_eq h'⟩
  all_goals cases ht'

theorem lt_length_of_item {item : Json × Nat} (hitem : (listedItems data)[i]? = some item) :
    i < (listedResults data).length := by
  rw [← length_listedItems]
  exact (List.getElem?_eq_some_iff.mp hitem).1

/-- Only a listed failure and a counted one after it are named from the same number. -/
theorem clash_of_naming {stem : Stem} {number : Option Nat} (hlt : i < j)
    (hi : Naming data i stem number) (hj : Naming data j stem number) :
    ∃ v, (listedItems data)[i]? = some (v, j) ∧ Clashes data v j := by
  cases hi with
  | listed hitem hnameless =>
    cases hj with
    | listed hitem' =>
      -- Places increase, so that two listed failures have different ones.
      obtain ⟨hi', hitem⟩ := List.getElem?_eq_some_iff.mp hitem
      obtain ⟨hj', hitem'⟩ := List.getElem?_eq_some_iff.mp hitem'
      have hplaces := List.pairwise_iff_getElem.mp (pairwise_listedItems data) i j hi' hj' hlt
      rw [hitem, hitem'] at hplaces
      exact absurd hplaces (lt_irrefl _)
    | counted hge hcounted hfew hlast => exact ⟨_, hitem, hnameless, hge, hcounted, hfew, hlast⟩
  | counted hge =>
    cases hj with
    | listed hitem' =>
      have := lt_length_of_item hitem'
      omega
    | counted => exact absurd hlt (lt_irrefl _)
  | countedRange hat =>
    cases hj with
    | countedRange hat' => omega
  | passed hat =>
    cases hj with
    | passed hat' => omega
  | passedRange hat =>
    cases hj with
    | passedRange hat' => omega

theorem clash_of_names_eq (h : legacyTests data = some results) (hlt : i < j)
    (hr : results[i]? = some r) (hs : results[j]? = some s) (hi : MadeUp data i)
    (hj : MadeUp data j) (hname : r.name = s.name) :
    ∃ v, (listedItems data)[i]? = some (v, j) ∧ Clashes data v j := by
  obtain ⟨stem, number, hnaming, hfrom⟩ := exists_naming h hr hi
  obtain ⟨stem', number', hnaming', hfrom'⟩ := exists_naming h hs hj
  rw [← hname] at hfrom'
  obtain ⟨rfl, rfl⟩ := naming_unique hfrom hfrom'
  exact clash_of_naming hlt hnaming hnaming'

theorem getElem?_of_clashes (h : legacyTests data = some results) (hclash : Clashes data v place) :
    results[place]? = some (countedFailure ("Failure_".toList ++ Text.ofNat (place + 1))) := by
  obtain ⟨-, hlisted, hcounted, hfew, hlast⟩ := hclash
  have hcount : (countedResults data)[place - (listedResults data).length]? =
      some (countedFailure ("Failure_".toList ++ Text.ofNat (place + 1))) := by
    refine (getElem?_placeholders_of_few hfew).mpr ⟨by omega, by omega, ?_⟩
    rw [show (listedResults data).length + 1 + (place - (listedResults data).length) = place +
      1 by omega]
  obtain ⟨hlt, -⟩ := List.getElem?_eq_some_iff.mp hcount
  rw [legacyTests_eq_append h, List.getElem?_append_right hlisted, List.getElem?_append_left hlt,
    hcount]

theorem getElem?_of_item (h : legacyTests data = some results) {item : Json × Nat}
    (hitem : (listedItems data)[i]? = some item) :
    ∃ r, results[i]? = some r ∧ listedFailure? item.2 item.1 = some r := by
  have hi := lt_length_of_item hitem
  have hr : (listedResults data)[i]? = some (listedResults data)[i] := List.getElem?_eq_getElem hi
  obtain ⟨item', hitem', hlisted⟩ := getElem?_listedResults hr
  rw [hitem] at hitem'
  obtain rfl := Option.some.inj hitem'
  exact ⟨_, by rw [legacyTests_eq_append h, List.getElem?_append_left hi, hr], hlisted⟩

theorem names_eq_of_clashes (h : legacyTests data = some results)
    (hitem : (listedItems data)[i]? = some (v, j)) (hclash : Clashes data v j)
    (hr : results[i]? = some r) (hs : results[j]? = some s) :
    r.name = s.name := by
  obtain ⟨r', hr', hlisted⟩ := getElem?_of_item h hitem
  rw [hr] at hr'
  obtain rfl := Option.some.inj hr'
  rw [getElem?_of_clashes h hclash] at hs
  rw [← Option.some.inj hs, name_of_nameless hclash.nameless hlisted]
  rfl

/-- Two made-up names are the same exactly if the first one is that of a listed failure without a
name, and the second one of a counted failure whose number is the place of the first in the list. So
the made-up names differ exactly if no listed failure stands at such a place, as is always so if
every item of the list is read. -/
theorem made_up_names_differ_iff (h : legacyTests data = some results) :
    (∀ i j r s, i < j → MadeUp data i → MadeUp data j → results[i]? = some r →
      results[j]? = some s →
      (r.name = s.name ↔ ∃ v, (listedItems data)[i]? = some (v, j) ∧ Clashes data v j)) ∧
    (NamesDiffer data results ↔ ∀ item ∈ listedItems data, ¬Clashes data item.1 item.2) ∧
    ((∀ v ∈ listAt "failures" data, isListed v = true) → NamesDiffer data results) := by
  have hpair : ∀ i j r s, i < j → MadeUp data i → MadeUp data j → results[i]? = some r →
    results[j]? = some s →
      (r.name = s.name ↔ ∃ v, (listedItems data)[i]? = some (v, j) ∧ Clashes data v j) := by
    intro i j r s hlt hi hj hr hs
    refine ⟨clash_of_names_eq h hlt hr hs hi hj, ?_⟩
    rintro ⟨v, hitem, hclash⟩
    exact names_eq_of_clashes h hitem hclash hr hs
  have hdiffer : NamesDiffer data results ↔
      ∀ item ∈ listedItems data, ¬Clashes data item.1 item.2 := by
    constructor
    · rintro hnames ⟨v, place⟩ hmem hclash
      obtain ⟨i, hitem⟩ := List.mem_iff_getElem?.mp hmem
      obtain ⟨r, hr, -⟩ := getElem?_of_item h hitem
      have hs := getElem?_of_clashes h hclash
      have hlt := (lt_length_of_item hitem).trans_le hclash.listed
      refine hnames i place _ _ hlt ?_ ?_ hr hs (names_eq_of_clashes h hitem hclash hr hs)
      · intro item hitem'
        rw [hitem] at hitem'
        rw [← Option.some.inj hitem']
        exact hclash.nameless
      · intro item hitem'
        exact absurd (lt_length_of_item hitem') (by have := hclash.listed; omega)
    · intro hno i j r s hlt hi hj hr hs hname
      obtain ⟨v, hitem, hclash⟩ := (hpair i j r s hlt hi hj hr hs).mp hname
      exact hno _ (List.mem_iff_getElem?.mpr ⟨i, hitem⟩) hclash
  refine ⟨hpair, hdiffer, fun hall => hdiffer.mpr ?_⟩
  rintro ⟨v, place⟩ hmem hclash
  have hlen : (listedResults data).length = (listAt "failures" data).length := by
    rw [length_listedResults, List.countP_eq_length.mpr hall]
  have := place_lt_of_mem hmem
  have := hclash.listed
  omega

/-- Two items that are no failures, two failures without a name at the second and the fifth place,
and a named one between them; five failed tests in all. -/
def gapReport : Json :=
  .object [("failed".toList, .number (.ofUInt64 5)),
    ("failures".toList, .array [.null, .object [], .bool true, .string "a: no".toList,
      .object [("name".toList, .null)]])]

/-- The first failure has a name of its own, with the number two; the last one is numbered five, as
is the last failure that is counted. -/
theorem made_up_names_differ_iff_of_gap :
    ∃ results r s, legacyTests gapReport = some results ∧ results[2]? = some r ∧
    results[4]? = some s ∧ r.name = s.name ∧
      ¬NamesDiffer gapReport results := by
  have hitem : (listedItems gapReport)[2]? = some (.object [("name".toList, .null)], 4) := rfl
  have hnameless : IsNameless (.object [("name".toList, .null)]) := ⟨⟨_, rfl⟩, by decide⟩
  have hclash : Clashes gapReport (.object [("name".toList, .null)]) 4 :=
    ⟨hnameless, by decide, by decide, by decide, by decide⟩
  obtain ⟨results, hresults⟩ :=
    Option.isSome_iff_exists.mp (by decide +kernel : (legacyTests gapReport).isSome = true)
  obtain ⟨hpair, hdiffer, -⟩ := made_up_names_differ_iff hresults
  have hr : results[2]? = some (listedResults gapReport)[2] := by
    rw [legacyTests_eq_append hresults]
    rfl
  have hs : results[4]? = some (countedResults gapReport)[1] := by
    rw [legacyTests_eq_append hresults]
    rfl
  have hmade : MadeUp gapReport 2 := by
    rintro _ ⟨⟩
    exact hnameless
  refine ⟨results, _, _, hresults, hr, hs, ?_,
    fun h => hdiffer.mp h _ (List.mem_iff_getElem?.mpr ⟨2, hitem⟩) hclash⟩
  exact (hpair 2 4 _ _ (by decide) hmade (by rintro _ ⟨⟩) hr hs).mpr ⟨_, hitem, hclash⟩

/-- An item that is no failure before one that has no name, and a second failed test. -/
def skippedReport : Json :=
  .object [("failed".toList, .number (.ofUInt64 2)),
    ("failures".toList, .array [.null, .object []])]

/-- Both failures of the report are called `Failure_2`, the first one by its place and the second
one by its number. -/
theorem made_up_names_clash :
    ∃ r s, legacyTests skippedReport = some [r, s] ∧ MadeUp skippedReport 0 ∧
    MadeUp skippedReport 1 ∧
      r.name = "Failure_2".toList ∧ s.name = "Failure_2".toList ∧
      ¬NamesDiffer skippedReport [r, s] := by
  have hmade : ∀ i, MadeUp skippedReport i := by
    intro i item hitem
    have hmem : item ∈ listedItems skippedReport := List.mem_iff_getElem?.mpr ⟨i, hitem⟩
    obtain rfl : item = (.object [], 1) := List.mem_singleton.mp hmem
    exact ⟨⟨_, rfl⟩, by decide⟩
  refine ⟨.failed "Failure_2".toList (some unknownError) (some unknownError),
    countedFailure "Failure_2".toList, by decide +kernel, hmade 0, hmade 1, rfl, rfl, fun h => ?_⟩
  exact h 0 1 _ _ (by decide) (hmade 0) (hmade 1) rfl rfl rfl

end Structured
end TestBench
