import TestBench.Proofs.Program.ApiLines
import TestBench.Proofs.Program.Faithful

/-! An API program tells what it was compiled from: the base address, the headers, and the requests
in order with the bodies that are sent. It tells nothing of other bodies. -/
namespace TestBench

open Literals

namespace Headers

/-- The value of a header: the last one that is given for its name. -/
def value? (h : Headers) (name : Text) : Option Text := h.reverse.lookup name

@[simp] theorem lookup_map_string (h : Headers) (name : Text) :
    (h.map fun m => (m.1, Json.string m.2)).lookup name = (h.lookup name).map .string := by
  induction h with
  | nil => rfl
  | cons m h ih =>
    rw [List.map_cons, Json.lookup_cons_eq, ih, List.lookup_cons]
    by_cases hname : name = m.1
    · simp [hname]
    · rw [if_neg hname, beq_false_of_ne hname]

theorem toJson_eq_iff (h h' : Headers) : h.toJson = h'.toJson ↔
    ∀ name, h.value? name = h'.value? name := by
  rw [toJson_eq, toJson_eq, Json.object.injEq, Json.sortMembers_eq_iff]
  refine forall_congr' fun name => ?_
  rw [← List.map_reverse, ← List.map_reverse, lookup_map_string, lookup_map_string]
  exact (Option.map_injective fun _ _ => Json.string.inj).eq_iff

end Headers

namespace Json

theorem eq_of_textsOfMembers_eq {ms ms' : List (Text × Json)} (h : ∀ m ∈ ms, ∃ s, m.2 = .string s)
    (h' : ∀ m ∈ ms', ∃ s, m.2 = .string s) (htexts : textsOfMembers ms = textsOfMembers ms') :
    ms = ms' := by
  induction ms generalizing ms' with
  | nil =>
    cases ms' with
    | nil => rfl
    | cons m' ms' => cases htexts
  | cons m ms ih =>
    cases ms' with
    | nil => cases htexts
    | cons m' ms' =>
      obtain ⟨⟨s, hs⟩, hms⟩ := List.forall_mem_cons.mp h
      obtain ⟨⟨s', hs'⟩, hms'⟩ := List.forall_mem_cons.mp h'
      obtain ⟨k, v⟩ := m
      obtain ⟨k', v'⟩ := m'
      subst hs hs'
      obtain ⟨hk, hrest⟩ := List.cons.inj htexts
      obtain ⟨hvalue, hrest⟩ := List.cons.inj hrest
      rw [hk, hvalue, ih hms hms' hrest]

theorem texts_eq_of_compact_eq {v w : Json} (h : v.compact = w.compact) : v.texts = w.texts := by
  have hraws : v.texts.map escaped = w.texts.map escaped := by
    rw [← (reads_compact v).literals, ← (reads_compact w).literals, h]
  exact List.map_injective_iff.mpr escaped_injective hraws

end Json

theorem Headers.toJson_eq_of_compact_eq {h h' : Headers}
    (heq : h.toJson.compact = h'.toJson.compact) :
    h.toJson = h'.toJson := by
  have htexts := Json.texts_eq_of_compact_eq heq
  rw [Headers.toJson_eq, Headers.toJson_eq] at *
  rw [Json.eq_of_textsOfMembers_eq h.forall_mem_sortMembers_strings
    h'.forall_mem_sortMembers_strings htexts]

namespace Api

def baseLine (base : Text) : SourceLine :=
  [verbatim "const BASE_URL = ", .quoted base, verbatim ";"]

def headersLine (h : Headers) : SourceLine :=
  [verbatim "const HEADERS = ", .value h.toJson, verbatim ";"]

/-- The lines between the headers and the tests of the requests. -/
def fixedLines (timeout : Option UInt64) : List Text :=
  Instruction.lines 0
    ([.line [verbatim "const REACHABLE_STATUSES = ", .code (statusList reachableStatuses),
      verbatim ";"],
      .line [verbatim "const ACCEPTED_STATUSES = ", .code (statusList acceptedStatuses),
        verbatim ";"],
      .blank] ++ reachabilityTest timeout reachabilityTitle)

theorem lines_instructions (timeout : Option UInt64) (base : Text) (suite : ApiSuite) :
    Instruction.lines 0 (instructions timeout base suite) =
      Instruction.placed 0 (baseLine base).text ::
        Instruction.placed 0 (headersLine suite.headers).text ::
        (fixedLines timeout ++ (tests suite.requests).flatMap (Test.lines timeout)) := by
  have hdepth : Instruction.depthAfterAll 0
      (constants base suite.headers ++ reachabilityTest timeout reachabilityTitle) = 0 := by
    cases timeout <;> rfl
  have htitle : (titles suite.requests).headD [] = reachabilityTitle := rfl
  rw [instructions, htitle, Instruction.lines_append, hdepth, lines_tests]
  rfl

theorem baseLine_injective {base base' : Text} (h : (baseLine base).text = (baseLine base').text) :
    base = base' := by
  simp only [baseLine, SourceLine.text, List.flatMap_cons, Piece.text,
    List.append_cancel_left_eq] at h
  exact (quoted_append_inj h).1

theorem toJson_eq_of_headersLine_eq {h h' : Headers}
    (heq : (headersLine h).text = (headersLine h').text) :
    h.toJson = h'.toJson := by
  simp only [headersLine, SourceLine.text, List.flatMap_cons, Piece.text,
    List.append_cancel_left_eq, List.append_cancel_right_eq] at heq
  exact Headers.toJson_eq_of_compact_eq heq

theorem tests_eq_map (requests : List Request) :
    tests requests = ((titles requests).tail.zip requests).map fun b => .ofRequest b.1 b.2 :=
  List.map_uncurry_zip_eq_zipWith.symm

@[simp] theorem map_sent_tests (requests : List Request) :
    (tests requests).map (fun t => (t.method, t.path, t.data.map Json.compact)) =
      requests.map Request.sent := by
  rw [tests, Titles.map_zipWith_eq_map (f := Test.ofRequest) (h := Request.sent)
    (length_tail_titles requests).ge]
  intro title r
  exact congrArg (fun w => w.2.2) (written_ofRequest title r)

theorem titles_congr {rs rs' : List Request} (h : rs.map Request.sent = rs'.map Request.sent) :
    titles rs = titles rs' := by
  have hlabels : rs.map label = rs'.map label := by
    have hmap :=
      congrArg (List.map fun s : Method × Text × Option Text => s.1.name ++ ' ' :: s.2.1) h
    rwa [List.map_map, List.map_map] at hmap
  rw [titles, titles, hlabels]

theorem map_written_tests (requests : List Request) :
    (tests requests).map Test.written =
      (titles requests).tail.zipWith (fun title s => (title, s.1.name ++ ' ' :: s.2.1, s))
        (requests.map Request.sent) := by
  rw [tests, List.map_zipWith, List.zipWith_map_right]
  exact congrArg (List.zipWith · _ requests) (funext₂ fun title r => written_ofRequest title r)

theorem lines_tests_congr {timeout : Option UInt64} {rs rs' : List Request}
    (h : rs.map Request.sent = rs'.map Request.sent) :
    (tests rs).flatMap (Test.lines timeout) = (tests rs').flatMap (Test.lines timeout) := by
  have hwritten : (tests rs).map Test.written = (tests rs').map Test.written := by
    rw [map_written_tests, map_written_tests, titles_congr h, h]
  rw [← List.forall₂_eq_eq_eq, List.forall₂_map_left_iff, List.forall₂_map_right_iff] at hwritten
  have hlines :
      List.Forall₂ (fun t u => Test.lines timeout t = Test.lines timeout u) (tests rs)
      (tests rs') :=
    hwritten.imp fun _ _ => lines_eq_of_written_eq
  rw [← List.forall₂_map_right_iff, ← List.forall₂_map_left_iff, List.forall₂_eq_eq_eq] at hlines
  rw [List.flatMap_def, List.flatMap_def, hlines]

theorem map_sent_eq_of_lines_eq {timeout : Option UInt64} {rs rs' : List Request}
    (h : (tests rs).flatMap (Test.lines timeout) = (tests rs').flatMap (Test.lines timeout)) :
    rs.map Request.sent = rs'.map Request.sent := by
  have hlines := List.map_eq_of_flatMap_eq (by omega) (length_lines_test timeout) h
  rw [← map_sent_tests, ← map_sent_tests]
  rw [← List.forall₂_eq_eq_eq, List.forall₂_map_left_iff, List.forall₂_map_right_iff] at *
  exact hlines.imp fun _ _ => sent_eq_of_lines_eq

theorem mem_tests {requests : List Request} {r : Request} (h : r ∈ requests) :
    ∃ title, Test.ofRequest title r ∈ tests requests := by
  have hsnd : ((titles requests).tail.zip requests).map Prod.snd = requests :=
    List.map_snd_zip (length_tail_titles requests).ge
  rw [← hsnd] at h
  obtain ⟨b, hb, rfl⟩ := List.mem_map.mp h
  exact ⟨b.1, tests_eq_map requests ▸ List.mem_map_of_mem hb⟩

end Api

def Request.withUnsent (body : Request → Option Json) (r : Request) : Request :=
  if r.method ∈ [.post, .put, .patch] then r else { r with body := body r }

namespace Api

variable (body : Request → Option Json)

@[simp] theorem label_withUnsent (r : Request) : label (r.withUnsent body) = label r := by
  rw [Request.withUnsent]
  split <;> rfl

@[simp] theorem ofRequest_withUnsent (title : Text) (r : Request) :
    Test.ofRequest title (r.withUnsent body) = Test.ofRequest title r := by
  obtain ⟨method, path, b⟩ := r
  cases method <;> rfl

@[simp] theorem titles_withUnsent (requests : List Request) :
    titles (requests.map (Request.withUnsent body)) = titles requests := by
  rw [titles, titles, List.map_map]
  exact congrArg (fun ls => Titles.distinct (reachabilityTitle :: ls))
    (List.map_congr_left fun r _ => label_withUnsent body r)

@[simp] theorem instructions_withUnsent (timeout : Option UInt64) (base : Text) (suite : ApiSuite) :
    instructions timeout base ⟨suite.requests.map (Request.withUnsent body), suite.headers⟩ =
      instructions timeout base suite := by
  have htests : tests (suite.requests.map (Request.withUnsent body)) = tests suite.requests := by
    rw [tests, titles_withUnsent, List.zipWith_map_right]
    exact congrArg (List.zipWith · _ suite.requests)
      (funext₂ fun title r => ofRequest_withUnsent body title r)
  rw [instructions, instructions, titles_withUnsent, htests]

end Api

theorem Instruction.isInfix_placed (depth : Nat) (t : Text) : t <:+: placed depth t := by
  cases t with
  | nil => exact List.nil_infix
  | cons c t => exact (List.suffix_append _ _).isInfix

theorem Instruction.isInfix_render {is : List Instruction} {l : Text} (h : l ∈ lines 0 is) :
    l <:+: render 0 is := by
  obtain ⟨before, after, hsplit⟩ := List.append_of_mem h
  rw [render_eq, hsplit, List.flatMap_append, List.flatMap_cons, List.append_assoc]
  exact List.infix_append' _ _ _

namespace Program

variable {timeout : Option UInt64} {base base' : Text} {suite suite' : ApiSuite}

theorem sourceOf_api_eq_iff :
    sourceOf timeout base (.api suite) = sourceOf timeout base' (.api suite') ↔
      base = base' ∧ (∀ name, suite.headers.value? name = suite'.headers.value? name) ∧
        suite.requests.map Request.sent = suite'.requests.map Request.sent := by
  rw [← Headers.toJson_eq_iff]
  constructor
  · intro hsource
    have hlines := Instruction.lines_eq_of_render_eq
      (List.forall_mem_append.mpr ⟨closed_header, closed_body timeout base (.api suite)⟩)
      (List.forall_mem_append.mpr ⟨closed_header, closed_body timeout base' (.api suite')⟩) hsource
    rw [Instruction.lines_append, Instruction.lines_append] at hlines
    have hbody := List.append_cancel_left hlines
    change Instruction.lines 0 (Api.instructions _ _ _) =
      Instruction.lines 0 (Api.instructions _ _ _) at hbody
    rw [Api.lines_instructions, Api.lines_instructions] at hbody
    obtain ⟨hbase, hrest⟩ := List.cons.inj hbody
    obtain ⟨hheaders, hrest⟩ := List.cons.inj hrest
    exact ⟨Api.baseLine_injective (Instruction.placed_injective 0 hbase),
      Api.toJson_eq_of_headersLine_eq (Instruction.placed_injective 0 hheaders),
      Api.map_sent_eq_of_lines_eq (List.append_cancel_left hrest)⟩
  · rintro ⟨hbase, hheaders, hsent⟩
    have hbody : Instruction.lines 0 (body timeout base (.api suite)) =
        Instruction.lines 0 (body timeout base' (.api suite')) := by
      rw [body, body, Api.lines_instructions, Api.lines_instructions, Api.lines_tests_congr hsent,
        hbase, Api.headersLine, Api.headersLine, hheaders]
    rw [sourceOf, sourceOf, Instruction.render_eq, Instruction.render_eq, Instruction.lines_append,
      Instruction.lines_append]
    exact congrArg (fun ls => (Instruction.lines 0 header ++ ls).flatMap fun l => l ++ ['\n']) hbody

theorem isInfix_sourceOf_api {r : Request} (hr : r ∈ suite.requests) {b : Text}
    (hb : r.sentBody = some b) :
    ", data: ".toList ++ b <:+: sourceOf timeout base (.api suite) := by
  obtain ⟨title, ht⟩ := Api.mem_tests hr
  have hdata : ", data: ".toList ++ b <:+: (Api.Test.ofRequest title r).fetchLine.text := by
    have hwritten := congrArg (fun w => w.2.2.2.2) (Api.written_ofRequest title r)
    change ((Api.Test.ofRequest title r).data.map Json.compact) = r.sentBody at hwritten
    rw [Api.text_fetchLine, hwritten, hb]
    simp only [← List.append_assoc]
    exact ⟨_, _, rfl⟩
  have hline : Instruction.placed 1 (Api.Test.ofRequest title r).fetchLine.text ∈
      Instruction.lines 0 (header ++ body timeout base (.api suite)) := by
    rw [Instruction.lines_append, List.mem_append]
    change _ ∨ _ ∈ Instruction.lines 0 (Api.instructions _ _ _)
    rw [Api.lines_instructions]
    refine .inr (List.mem_cons_of_mem _ (List.mem_cons_of_mem _ (List.mem_append_right _ ?_)))
    exact List.mem_flatMap_of_mem ht (by rw [Api.Test.lines_eq]; simp)
  exact hdata.trans ((Instruction.isInfix_placed 1 _).trans (Instruction.isInfix_render hline))

/-- API programs are the same exactly when the base addresses, the headers and what is sent are. A
body that is not sent has no influence on the program, and one that is sent stands in it. -/
theorem compile_api_faithful (timeout : Option UInt64) (base base' : Text) (suite suite' : ApiSuite)
    (h : suite.requests ≠ []) (h' : suite'.requests ≠ []) :
    ∃ p p', compile timeout base (.api suite) = .ok p ∧
    compile timeout base' (.api suite') = .ok p' ∧
      (p.source = p'.source ↔
        base = base' ∧ (∀ name, suite.headers.value? name = suite'.headers.value? name) ∧
          suite.requests.map Request.sent = suite'.requests.map Request.sent) ∧
      (∀ b : Request → Option Json,
        compile timeout base (.api ⟨suite.requests.map (Request.withUnsent b), suite.headers⟩) =
          .ok p) ∧
      (∀ r ∈ suite.requests, ∀ b, r.sentBody = some b → ", data: ".toList ++ b <:+: p.source) := by
  refine ⟨_, _, compile_api timeout base h, compile_api timeout base' h', sourceOf_api_eq_iff,
    fun b => ?_, fun r hr b hb => isInfix_sourceOf_api hr hb⟩
  have hne : suite.requests.map (Request.withUnsent b) ≠ [] := by simpa using h
  have hcompile :
      compile timeout base (.api ⟨suite.requests.map (Request.withUnsent b), suite.headers⟩) =
      .ok _ :=
    compile_api timeout base hne
  rw [hcompile, Api.titles_withUnsent, sourceOf, sourceOf, body, body, Api.instructions_withUnsent]

/-- Of a list of requests the body of the second is not sent, and that of the first is. -/
theorem compile_api_faithful_of_bodies :
    (∃ p p', compile none "http://x".toList
        (.api ⟨[⟨.post, "/a".toList, some (.string "\"".toList)⟩,
          ⟨.get, "/b".toList, some (.bool true)⟩], []⟩) = .ok p ∧
      compile none "http://x".toList
        (.api ⟨[⟨.post, "/a".toList, some (.string "\"".toList)⟩, ⟨.get, "/b".toList, none⟩], []⟩) =
          .ok p' ∧
      p.source = p'.source ∧ ", data: \"\\\"\"".toList <:+: p.source) ∧
    (∃ p p', compile none "http://x".toList (.api ⟨[⟨.post, "/a".toList, some .null⟩], []⟩) =
      .ok p ∧
      compile none "http://x".toList (.api ⟨[⟨.post, "/a".toList, none⟩], []⟩) = .ok p' ∧
      p.source ≠ p'.source) := by
  constructor
  · obtain ⟨p, p', hp, hp', hiff, -, hsent⟩ :=
      compile_api_faithful none "http://x".toList "http://x".toList
      ⟨[⟨.post, "/a".toList, some (.string "\"".toList)⟩, ⟨.get, "/b".toList, some (.bool true)⟩],
        []⟩
      ⟨[⟨.post, "/a".toList, some (.string "\"".toList)⟩, ⟨.get, "/b".toList, none⟩],
        []⟩ (by simp) (by simp)
    exact ⟨p, p', hp, hp', hiff.mpr ⟨rfl, fun _ => rfl, by decide⟩,
      hsent _ List.mem_cons_self _ rfl⟩
  · obtain ⟨p, p', hp, hp', hiff, -⟩ :=
      compile_api_faithful none "http://x".toList "http://x".toList
      ⟨[⟨.post, "/a".toList, some .null⟩], []⟩ ⟨[⟨.post, "/a".toList, none⟩], []⟩
        (by simp) (by simp)
    exact ⟨p, p', hp, hp', fun hsource => absurd (hiff.mp hsource).2.2 (by decide)⟩

end Program
end TestBench
