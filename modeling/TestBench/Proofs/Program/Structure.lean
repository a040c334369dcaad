import TestBench.Program.Compile
import TestBench.Proofs.Program.ApiText
import TestBench.Proofs.Program.Lines

/-! The texts of checks come into a program only as the content of string literals. So programs of
checks of one shape differ in that content alone, and it reads back as the texts. -/
namespace TestBench
namespace Program

open Literals

theorem closed_header : ∀ i ∈ header, i.Closed := by
  simp only [header, noticeLine, Instruction.Closed, Instruction.pieces, List.forall_mem_cons,
    List.not_mem_nil, false_imp_iff, implies_true, and_true]
  decide +kernel

theorem raws_header :
    header.flatMap Instruction.raws = ["@playwright/test".toList].map escaped := by
  decide +kernel

theorem closed_body (timeout : Option UInt64) (base : Text) (set : CheckSet) :
    ∀ i ∈ body timeout base set, i.Closed := by
  cases set with
  | api suite => exact Api.closed_instructions timeout base suite
  | ui ss => exact Browser.closed_instructions timeout (Browser.tests base ss)

/-- The source of a program, as compiled. -/
def sourceOf (timeout : Option UInt64) (base : Text) (set : CheckSet) : Text :=
  Instruction.render 0 (header ++ body timeout base set)

theorem compile_ui (timeout : Option UInt64) (base : Text) {ss : List Scenario} (h : ss ≠ []) :
    compile timeout base (.ui ss) = .ok ⟨sourceOf timeout base (.ui ss),
      Titles.distinct (ss.map (·.name))⟩ := by
  cases ss with
  | nil => exact absurd rfl h
  | cons s ss => rfl

theorem compile_api (timeout : Option UInt64) (base : Text) {suite : ApiSuite}
    (h : suite.requests ≠ []) :
    compile timeout base (.api suite) =
      .ok ⟨sourceOf timeout base (.api suite), Api.titles suite.requests⟩ := by
  obtain ⟨_ | ⟨r, rs⟩, headers⟩ := suite
  · exact absurd rfl h
  · rfl

theorem eq_of_compile {timeout : Option UInt64} {base : Text} {set : CheckSet} {p : Program}
    (h : compile timeout base set = .ok p) : p = ⟨sourceOf timeout base set, unitsOf set⟩ := by
  obtain ⟨_ | ⟨r, rs⟩, headers⟩ | _ | ⟨s, ss⟩ := set
  · cases h
  · exact (Except.ok.inj h).symm
  · cases h
  · exact (Except.ok.inj h).symm

theorem closed_program (timeout : Option UInt64) (base : Text) (set : CheckSet) :
    ∀ i ∈ header ++ body timeout base set, i.Closed :=
  List.forall_mem_append.mpr ⟨closed_header, closed_body timeout base set⟩

theorem pieces_sourceOf (timeout : Option UInt64) (base : Text) (set : CheckSet) :
    Text.pieces '\n' (sourceOf timeout base set) =
      Instruction.lines 0 (header ++ body timeout base set) ++ [[]] := by
  rw [sourceOf, Instruction.render_eq,
    Text.pieces_lines (Instruction.break_not_mem_lines (closed_program timeout base set) 0)]

theorem reads_sourceOf (timeout : Option UInt64) (base : Text) (set : CheckSet) :
    Reads (sourceOf timeout base set)
      (Instruction.render 0 ((header ++ body timeout base set).map Instruction.blanked))
      ((header ++ body timeout base set).flatMap Instruction.raws) :=
  Instruction.reads_render (closed_program timeout base set) 0

variable {timeout : Option UInt64} {base base' : Text}

theorem skeleton_sourceOf_congr {set set' : CheckSet}
    (h : (body timeout base set).map Instruction.blanked =
      (body timeout base' set').map Instruction.blanked) :
    skeleton (sourceOf timeout base set) = skeleton (sourceOf timeout base' set') := by
  rw [(reads_sourceOf timeout base set).skeleton, (reads_sourceOf timeout base' set').skeleton,
    List.map_append, List.map_append, h]

theorem decoded_literals_sourceOf {set : CheckSet} {texts : List Text}
    (h : (body timeout base set).flatMap Instruction.raws = texts.map escaped) :
    (literals (sourceOf timeout base set)).map decoded? =
      ("@playwright/test".toList :: texts).map some := by
  rw [(reads_sourceOf timeout base set).literals, List.flatMap_append, raws_header, h,
    ← List.map_append, List.map_map]
  exact List.map_congr_left fun t _ => decoded?_escaped t

theorem map_blanked_body_ui {ss ss' : List Scenario}
    (h : ss.map (fun s => s.steps.map Step.blanked) = ss'.map fun s => s.steps.map Step.blanked) :
    (body timeout base (.ui ss)).map Instruction.blanked =
      (body timeout base' (.ui ss')).map Instruction.blanked := by
  rw [body, body, Browser.map_blanked_instructions,
    Browser.map_blanked_instructions timeout (Browser.tests base' ss'), Browser.map_blanked_tests,
    Browser.map_blanked_tests, h]

theorem map_blanked_body_api {suite suite' : ApiSuite}
    (hrequests : suite.requests.map (fun r => (r.method, r.body)) =
      suite'.requests.map fun r => (r.method, r.body))
    (hheaders : (suite.headers.map Prod.fst).dedup.length =
      (suite'.headers.map Prod.fst).dedup.length) :
    (body timeout base (.api suite)).map Instruction.blanked =
      (body timeout base' (.api suite')).map Instruction.blanked := by
  rw [body, body, Api.map_blanked_instructions, Api.map_blanked_instructions,
    Api.map_blanked_constants, Api.map_blanked_constants, Api.map_blanked_tests,
    Api.map_blanked_tests, hrequests, hheaders]

theorem skeleton_compile_ui {ss ss' : List Scenario}
    (h : ss.map (fun s => s.steps.map Step.blanked) = ss'.map fun s => s.steps.map Step.blanked) :
    (compile timeout base (.ui ss)).map (fun p => skeleton p.source) =
      (compile timeout base' (.ui ss')).map fun p => skeleton p.source := by
  by_cases hss : ss = []
  · have hss' : ss' = [] := by simpa [hss] using h.symm
    rw [hss, hss']
    rfl
  · have hss' : ss' ≠ [] := by
      rintro rfl
      exact hss (by simpa using h)
    rw [compile_ui timeout base hss, compile_ui timeout base' hss']
    exact congrArg Except.ok (skeleton_sourceOf_congr (map_blanked_body_ui h))

theorem skeleton_compile_api {suite suite' : ApiSuite}
    (hrequests : suite.requests.map (fun r => (r.method, r.body)) =
      suite'.requests.map fun r => (r.method, r.body))
    (hheaders : (suite.headers.map Prod.fst).dedup.length =
      (suite'.headers.map Prod.fst).dedup.length) :
    (compile timeout base (.api suite)).map (fun p => skeleton p.source) =
      (compile timeout base' (.api suite')).map fun p => skeleton p.source := by
  by_cases hrs : suite.requests = []
  · have hrs' : suite'.requests = [] := by simpa [hrs] using hrequests.symm
    obtain ⟨rs, headers⟩ := suite
    obtain ⟨rs', headers'⟩ := suite'
    rw [show rs = [] from hrs, show rs' = [] from hrs']
    rfl
  · have hrs' : suite'.requests ≠ [] := by
      intro hrs'
      exact hrs (by simpa [hrs'] using hrequests)
    rw [compile_api timeout base hrs, compile_api timeout base' hrs']
    exact congrArg Except.ok (skeleton_sourceOf_congr (map_blanked_body_api hrequests hheaders))

/-- Checks of one shape give programs with one skeleton, and the literals of a program read back as
the titles, addresses, paths and step texts that it is made of, in order. -/
theorem user_text_is_literal_content (timeout : Option UInt64) (base base' : Text) :
    (∀ ss ss' : List Scenario,
      ss.map (fun s => s.steps.map Step.blanked) = ss'.map (fun s => s.steps.map Step.blanked) →
      (compile timeout base (.ui ss)).map (fun p => skeleton p.source) =
        (compile timeout base' (.ui ss')).map fun p => skeleton p.source) ∧
    (∀ suite suite' : ApiSuite,
      suite.requests.map (fun r => (r.method, r.body)) =
        suite'.requests.map (fun r => (r.method, r.body)) →
      (suite.headers.map Prod.fst).dedup.length = (suite'.headers.map Prod.fst).dedup.length →
      (compile timeout base (.api suite)).map (fun p => skeleton p.source) =
        (compile timeout base' (.api suite')).map fun p => skeleton p.source) ∧
    (∀ ss : List Scenario, ss ≠ [] → ∃ p, compile timeout base (.ui ss) = .ok p ∧
      p.units.length = ss.length ∧
      (literals p.source).map decoded? = ("@playwright/test".toList ::
        (p.units.zip ss).flatMap fun b =>
          b.1 :: Address.resolve base b.2.startPath :: b.2.steps.flatMap (Step.texts base)).map
            some) ∧
    (∀ suite : ApiSuite, suite.requests ≠ [] →
      ∃ p titles, compile timeout base (.api suite) = .ok p ∧
      p.units = Api.reachabilityTitle :: titles ∧ titles.length = suite.requests.length ∧
      (literals p.source).map decoded? =
        ("@playwright/test".toList :: base :: suite.headers.toJson.texts ++
        Api.reachabilityTitle :: "/".toList ::
          (titles.zip suite.requests).flatMap fun b => Api.textsOf b.1 b.2).map some) := by
  refine ⟨fun ss ss' => skeleton_compile_ui, fun suite suite' => skeleton_compile_api,
    fun ss h => ?_, fun suite h => ?_⟩
  · refine ⟨_, compile_ui timeout base h, by simp, decoded_literals_sourceOf ?_⟩
    rw [body, Browser.raws_instructions, Browser.texts_tests]
  · refine ⟨_, _, compile_api timeout base h, Api.titles_eq_cons suite.requests,
      Api.length_tail_titles suite.requests, ?_⟩
    rw [List.cons_append]
    refine decoded_literals_sourceOf ?_
    rw [body, Api.raws_instructions, Api.texts_tests]

/-- A selector, a path and a header that try to leave their literals. -/
theorem user_text_is_literal_content_of_injection :
    (compile none "http://a".toList (.ui [⟨"t".toList, [], [.click "\"); test(\"".toList]⟩])).map
        (fun p => skeleton p.source) =
      (compile none "http://b".toList (.ui [⟨"u".toList, "x".toList, [.click "\\".toList]⟩])).map
        (fun p => skeleton p.source) ∧
    (compile none "http://a".toList
      (.api ⟨[⟨.get, "/\");".toList, none⟩], [("k".toList, "\"\x7d;".toList)]⟩)).map
        (fun p => skeleton p.source) =
      (compile none "http://b".toList (.api ⟨[⟨.get, "/".toList, none⟩], [("l".toList, [])]⟩)).map
        (fun p => skeleton p.source) ∧
    (∃ p, compile none "http://a".toList (.ui [⟨"t".toList, [], [.click "\"); test(\"".toList]⟩]) =
      .ok p ∧
      (literals p.source).map decoded? = ["@playwright/test".toList, "t".toList, "http://a".toList,
        "\"); test(\"".toList].map some) ∧
    (∃ p, compile none "http://a".toList
        (.api ⟨[⟨.get, "/\");".toList, none⟩], [("k".toList, "\"\x7d;".toList)]⟩) = .ok p ∧
      (literals p.source).map decoded? = ["@playwright/test".toList, "http://a".toList, "k".toList,
        "\"\x7d;".toList,
        "base URL reachable".toList, "/".toList, "GET /\");".toList, "/\");".toList, "GET".toList,
        "Endpoint not found (404): ".toList, "GET /\");".toList, "Server error ".toList,
          " for ".toList,
        "GET /\");".toList, ": ".toList].map some) := by
  obtain ⟨hui, hapi, huiTexts, hapiTexts⟩ :=
    user_text_is_literal_content none "http://a".toList "http://b".toList
  refine ⟨hui _ _ rfl, hapi _ _ rfl (by decide), ?_, ?_⟩
  · obtain ⟨p, hp, -, htexts⟩ :=
      huiTexts [⟨"t".toList, [], [.click "\"); test(\"".toList]⟩] (by simp)
    refine ⟨p, hp, htexts.trans ?_⟩
    have hunits : p.units = ["t".toList] := by
      rw [compile_ui _ _ (by simp), Except.ok.injEq] at hp
      rw [← hp]
      decide
    rw [hunits]
    decide
  · obtain ⟨p, titles, hp, hunits, -, htexts⟩ := hapiTexts
      ⟨[⟨.get, "/\");".toList, none⟩], [("k".toList, "\"\x7d;".toList)]⟩ (by simp)
    refine ⟨p, hp, htexts.trans ?_⟩
    have htitles : titles = ["GET /\");".toList] := by
      rw [compile_api _ _ (by simp), Except.ok.injEq] at hp
      rw [← hp, Api.titles_eq_cons, List.cons_inj_right] at hunits
      exact hunits.symm.trans (by decide)
    rw [htitles]
    decide

end Program
end TestBench
