import TestBench.Program.Api
import TestBench.Proofs.Json.Order
import TestBench.Proofs.Program.BrowserText

/-! What API tests write: apart from the content of their literals it follows from the verbs, the
bodies and how many headers there are, and that content is their texts in order. -/
namespace TestBench

open Literals

namespace Headers

theorem blankedMembers_of_strings {ms : List (Text × Json)} (h : ∀ m ∈ ms, ∃ s, m.2 = .string s) :
    Json.blankedMembers ms = List.replicate ms.length ([], .string []) := by
  induction ms with
  | nil => rfl
  | cons m ms ih =>
    obtain ⟨⟨s, hs⟩, hms⟩ := List.forall_mem_cons.mp h
    obtain ⟨k, v⟩ := m
    subst hs
    rw [Json.blankedMembers, Json.blanked, ih hms]
    rfl

theorem toJson_eq (h : Headers) :
    toJson h = .object (Json.sortMembers (h.map fun m => (m.1, .string m.2))) := rfl

theorem forall_mem_sortMembers_strings (h : Headers) :
    ∀ m ∈ Json.sortMembers (h.map fun m => (m.1, .string m.2)), ∃ s, m.2 = .string s := by
  refine Json.forall_mem_sortMembers (p := fun v => ∃ s, v = .string s) fun m hm => ?_
  obtain ⟨b, -, rfl⟩ := List.mem_map.mp hm
  exact ⟨b.2, rfl⟩

theorem blanked_toJson (h : Headers) :
    (toJson h).blanked =
      .object (List.replicate (h.map Prod.fst).dedup.length ([], .string [])) := by
  have hkeys : Json.keys (h.map fun m => (m.1, .string m.2)) = h.map Prod.fst := by
    rw [Json.keys, List.map_map]
    rfl
  rw [toJson_eq, Json.blanked, blankedMembers_of_strings h.forall_mem_sortMembers_strings,
    Json.length_sortMembers, hkeys]

end Headers

namespace Api

namespace Test

/-- The test with all its texts empty, apart from the data it sends. -/
def blanked (t : Test) : Test := ⟨[], [], t.method, [], t.data⟩

/-- The texts of the literals of a test, in order. -/
def texts (t : Test) : List Text :=
  t.title :: t.path :: t.method.name :: (t.data.elim [] Json.texts) ++
    ["Endpoint not found (404): ".toList, t.label, "Server error ".toList, " for ".toList, t.label,
      ": ".toList]

end Test

theorem closed_openingLine (title : Text) : (openingLine title).Closed := by
  simp only [openingLine, Instruction.Closed, Instruction.pieces, List.forall_mem_cons,
    Piece.closed_quoted, true_and]
  decide +kernel

theorem closed_dataPieces (data : Option Json) : ∀ p ∈ dataPieces data, p.Closed := by
  cases data with
  | none => simp [dataPieces]
  | some v =>
    simp only [dataPieces, List.forall_mem_cons, Piece.closed_value, true_and]
    decide

@[simp] theorem raws_dataPieces (data : Option Json) :
    (dataPieces data).flatMap Piece.raws = (data.elim [] Json.texts).map escaped := by
  cases data with
  | none => rfl
  | some v => exact List.append_nil _

theorem Test.map_blanked_instructions (timeout : Option UInt64) (t : Test) :
    (t.instructions timeout).map Instruction.blanked =
      (t.blanked.instructions timeout).map Instruction.blanked := by
  simp only [instructions, List.map_append, List.map_cons]
  rfl

theorem Test.closed_instructions (timeout : Option UInt64) (t : Test) :
    ∀ i ∈ t.instructions timeout, i.Closed := by
  have hdata : (∀ p ∈ dataPieces t.data, p.Closed) = True := eq_true (closed_dataPieces t.data)
  rw [instructions]
  simp only [List.cons_append, List.forall_mem_cons, List.forall_mem_append]
  refine ⟨closed_openingLine t.title, Browser.closed_timeoutLines timeout, ?_⟩
  simp only [Instruction.Closed, Instruction.pieces, closingLine, List.nil_append,
    List.forall_mem_cons, List.forall_mem_append, Piece.closed_quoted, Piece.closed_ofNat, hdata,
    true_and, List.not_mem_nil, false_imp_iff, implies_true, and_true]
  decide +kernel

@[simp] theorem Test.raws_instructions (timeout : Option UInt64) (t : Test) :
    (t.instructions timeout).flatMap Instruction.raws = t.texts.map escaped := by
  have hlimit : Instruction.raws (.line [verbatim "const body = (await res.text()).slice(0, ",
      .code (Text.ofNat errorBodyLimit), verbatim ");"]) = [] := by
    simp only [Instruction.raws, Instruction.pieces, List.flatMap_cons, Piece.raws_ofNat]
    rfl
  have hfetch :
      Instruction.raws
      (.line ([verbatim "const res = await request.fetch(BASE_URL + ", .quoted t.path,
        verbatim ", \x7b method: ", .quoted t.method.name,
          verbatim ", headers: HEADERS, maxRedirects: 0"] ++
          dataPieces t.data ++ [verbatim " \x7d);"])) =
        escaped t.path :: escaped t.method.name :: (t.data.elim [] Json.texts).map escaped := by
    simp only [Instruction.raws, Instruction.pieces, List.flatMap_append, raws_dataPieces]
    exact congrArg (escaped t.path :: escaped t.method.name :: ·) (List.append_nil _)
  rw [instructions]
  simp only [List.cons_append, List.flatMap_cons, List.flatMap_append,
    Browser.raws_timeoutLines] at *
  rw [hlimit, hfetch, texts, List.map_append]
  rfl

theorem map_blanked_constants (base : Text) (h : Headers) :
    (constants base h).map Instruction.blanked =
      [.line [(verbatim "const BASE_URL = ").blanked, .quoted [], (verbatim ";").blanked],
        .line [(verbatim "const HEADERS = ").blanked,
          .value (.object (List.replicate (h.map Prod.fst).dedup.length ([], .string []))),
            (verbatim ";").blanked],
        .line [(verbatim "const REACHABLE_STATUSES = ").blanked,
          (Piece.code (statusList reachableStatuses)).blanked, (verbatim ";").blanked],
        .line [(verbatim "const ACCEPTED_STATUSES = ").blanked,
          (Piece.code (statusList acceptedStatuses)).blanked, (verbatim ";").blanked],
        .blank] := by
  rw [constants, ← h.blanked_toJson]
  rfl

theorem closed_constants (base : Text) (h : Headers) : ∀ i ∈ constants base h, i.Closed := by
  rw [constants]
  simp only [Instruction.Closed, Instruction.pieces, List.forall_mem_cons, Piece.closed_quoted,
    Piece.closed_value, true_and, List.not_mem_nil, false_imp_iff, implies_true, and_true]
  decide +kernel

@[simp] theorem raws_constants (base : Text) (h : Headers) :
    (constants base h).flatMap Instruction.raws = (base :: h.toJson.texts).map escaped := by
  have hheaders :
      Instruction.raws (.line [verbatim "const HEADERS = ", .value h.toJson, verbatim ";"]) =
        h.toJson.texts.map escaped := List.append_nil _
  simp only [constants, List.flatMap_cons, hheaders, List.map_cons]
  exact congrArg (escaped base :: ·) (List.append_nil _)

theorem map_blanked_reachabilityTest (timeout : Option UInt64) (title : Text) :
    (reachabilityTest timeout title).map Instruction.blanked =
      (reachabilityTest timeout []).map Instruction.blanked := by
  simp only [reachabilityTest, List.map_append, List.map_cons]
  rfl

theorem closed_reachabilityTest (timeout : Option UInt64) (title : Text) :
    ∀ i ∈ reachabilityTest timeout title, i.Closed := by
  rw [reachabilityTest]
  simp only [List.cons_append, List.forall_mem_cons, List.forall_mem_append]
  refine ⟨closed_openingLine title, Browser.closed_timeoutLines timeout, ?_⟩
  simp only [Instruction.Closed, Instruction.pieces, closingLine, List.forall_mem_cons,
    List.not_mem_nil, false_imp_iff, implies_true, and_true]
  decide +kernel

@[simp] theorem raws_reachabilityTest (timeout : Option UInt64) (title : Text) :
    (reachabilityTest timeout title).flatMap Instruction.raws =
      [title, "/".toList].map escaped := by
  rw [reachabilityTest]
  simp only [List.cons_append, List.flatMap_cons, List.flatMap_append, Browser.raws_timeoutLines]
  rfl

def Test.ofBlanked (r : Method × Option Json) : Test :=
  ⟨[], [], r.1, [], if r.1.carriesBody then r.2 else none⟩

theorem titles_eq_cons (requests : List Request) :
    titles requests = reachabilityTitle :: (titles requests).tail := rfl

theorem length_tail_titles (requests : List Request) :
    (titles requests).tail.length = requests.length := by
  simp [titles]

theorem map_blanked_tests (requests : List Request) :
    (tests requests).map Test.blanked =
      (requests.map fun r => (r.method, r.body)).map .ofBlanked := by
  rw [tests, Titles.map_zipWith_eq_map (f := Test.ofRequest) (g := Test.blanked)
    (h := fun r => Test.ofBlanked (r.method, r.body)) (length_tail_titles requests).ge
    fun _ _ => rfl, List.map_map]
  rfl

/-- The texts of the literals of a request's test, in order. -/
def textsOf (title : Text) (r : Request) : List Text :=
  title :: r.path :: r.method.name :: (if r.method.carriesBody then
    r.body else none).elim [] Json.texts ++
    ["Endpoint not found (404): ".toList, label r, "Server error ".toList, " for ".toList, label r,
      ": ".toList]

theorem texts_tests (requests : List Request) :
    (tests requests).flatMap Test.texts =
      ((titles requests).tail.zip requests).flatMap fun b => textsOf b.1 b.2 := by
  have htests : tests requests =
      ((titles requests).tail.zip requests).map fun b => .ofRequest b.1 b.2 :=
    List.map_uncurry_zip_eq_zipWith.symm
  rw [htests, List.flatMap_map]
  rfl

theorem map_blanked_instructions (timeout : Option UInt64) (base : Text) (suite : ApiSuite) :
    (instructions timeout base suite).map Instruction.blanked =
      (constants base suite.headers).map Instruction.blanked ++
        (reachabilityTest timeout []).map Instruction.blanked ++
          ((tests suite.requests).map Test.blanked).flatMap fun t =>
            .blank :: (t.instructions timeout).map Instruction.blanked := by
  rw [instructions, List.map_append, List.map_append, map_blanked_reachabilityTest,
    List.map_flatMap, List.flatMap_map]
  refine congrArg (_ ++ ·) (List.flatMap_congr fun t _ => ?_)
  rw [List.map_cons, t.map_blanked_instructions]
  rfl

theorem closed_instructions (timeout : Option UInt64) (base : Text) (suite : ApiSuite) :
    ∀ i ∈ instructions timeout base suite, i.Closed := by
  rw [instructions]
  simp only [List.forall_mem_append]
  refine ⟨⟨closed_constants base suite.headers, closed_reachabilityTest timeout _⟩, ?_⟩
  intro i hi
  obtain ⟨t, -, hi⟩ := List.mem_flatMap.mp hi
  rcases List.mem_cons.mp hi with rfl | hi
  · simp [Instruction.Closed, Instruction.pieces]
  · exact t.closed_instructions timeout i hi

theorem raws_instructions (timeout : Option UInt64) (base : Text) (suite : ApiSuite) :
    (instructions timeout base suite).flatMap Instruction.raws =
      (base :: suite.headers.toJson.texts ++ reachabilityTitle :: "/".toList ::
        (tests suite.requests).flatMap Test.texts).map escaped := by
  have htest : ∀ t : Test, (Instruction.blank :: t.instructions timeout).flatMap Instruction.raws =
      t.texts.map escaped := fun t => by
    rw [List.flatMap_cons, t.raws_instructions]
    rfl
  have htitle : (titles suite.requests).headD [] = reachabilityTitle := rfl
  rw [instructions, htitle]
  simp only [List.flatMap_append, raws_constants, raws_reachabilityTest, List.flatMap_assoc, htest,
    List.map_append, List.map_cons, List.map_flatMap]
  simp

end Api
end TestBench
