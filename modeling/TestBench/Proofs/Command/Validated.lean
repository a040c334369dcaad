import TestBench.Command.Dispatch
import TestBench.Proofs.Command.Load
import TestBench.Proofs.Program.ApiFaithful

/-! Checks that are printed once they are valid, and given back. They are accepted again, and they
are the same checks, apart from numbers in the bodies of requests that are not read back from their
texts. -/
namespace TestBench

def Request.listText (rs : List Request) : Text := Json.indented 2 (.array (rs.map toJson))

def Headers.text (hs : Headers) : Text := Json.indented 2 hs.toJson

def Scenario.listText (ss : List Scenario) : Text := Json.indented 1 (CheckSet.toJson (.ui ss))

/-- The members of a suite, as an object has them. -/
def ApiSuite.formMembers (suite : ApiSuite) : List (Text × Json) :=
  [("headers".toList, suite.headers.toJson),
    ("requests".toList, .array (suite.requests.map Request.toJson))]

namespace CheckSet

/-- The parts of the document for valid checks that commands accept, with their names. -/
def printedParts : CheckSet → List Text
  | api suite => ["\"requests\": ".toList ++ Request.listText suite.requests,
      "\"headers\": ".toList ++ suite.headers.text]
  | ui scenarios => ["\"scenarios\": ".toList ++ Scenario.listText scenarios]

def requests : CheckSet → List Request
  | api suite => suite.requests
  | ui _ => []

/-- Checks with the bodies that are read from the texts of theirs. -/
def reread : CheckSet → CheckSet
  | api suite => api ⟨suite.requests.map Request.reread, suite.headers⟩
  | ui scenarios => ui scenarios

/-- The members of the document for valid checks, as an object has them. -/
def documentMembers (base : Text) (set : CheckSet) : List (Text × Json) :=
  [("baseUrl".toList, .string base), ("mode".toList, set.mode.toJson), ("ok".toList, .bool true),
    ("scenarios".toList, set.toJson)]

def document (base : Text) (set : CheckSet) : Text :=
  Screen.document (.object (documentMembers base set))

theorem isInfix_document (base : Text) (set : CheckSet) :
    "\"scenarios\": ".toList ++ Json.indented 1 set.toJson <:+: document base set := by
  have hmember : ("scenarios".toList, set.toJson) ∈ documentMembers base set := by
    simp [documentMembers]
  have hform : document base set = Json.indented 0 (.object (documentMembers base set)) ++ ['\n'] :=
    List.append_nil _
  rw [hform]
  exact (Json.isInfix_indented hmember 0).trans (List.prefix_append _ _).isInfix

theorem printedParts_isInfix (base : Text) (set : CheckSet) :
    ∀ part ∈ set.printedParts, part <:+: document base set := by
  have hset := isInfix_document base set
  cases set with
  | ui scenarios => exact List.forall_mem_singleton.mpr hset
  | api suite =>
    have hform : toJson (.api suite) = .object suite.formMembers := rfl
    rw [hform] at hset
    have hsuite {part : Text} (h : part <:+: Json.indented 1 (.object suite.formMembers)) :
        part <:+: document base (.api suite) :=
          (h.trans (List.suffix_append _ _).isInfix).trans hset
    have hrequests : "\"requests\": ".toList ++ Request.listText suite.requests <:+:
        Json.indented 1 (.object suite.formMembers) :=
      Json.isInfix_indented (k := "requests".toList) (List.mem_cons_of_mem _ List.mem_cons_self) 1
    have hheaders : "\"headers\": ".toList ++ suite.headers.text <:+:
        Json.indented 1 (.object suite.formMembers) :=
      Json.isInfix_indented (k := "headers".toList) List.mem_cons_self 1
    exact List.forall_mem_cons.mpr ⟨hsuite hrequests,
      List.forall_mem_singleton.mpr (hsuite hheaders)⟩

end CheckSet

theorem Headers.validate_toJson_of_sorted {v : Json} {hs : Headers}
    (h : validate v.sorted = .ok hs) :
    validate hs.toJson = .ok hs := by
  rcases v with _ | _ | _ | _ | _ | ms
  case null =>
    cases h
    rfl
  case object =>
    refine validate_toJson ?_
    rw [names_of_validate h]
    exact Json.sorted_sortMembers _
  all_goals cases h

namespace Request

/-- No number that is sent with a request is read as another one from its text. -/
def KeepsBody (r : Request) : Prop :=
  r.method.carriesBody = true →
    ∀ b ∈ r.body, ∀ x, .real x ∈ b.numbers → (Number.real x).reread = .real x

theorem sentBody_eq (r : Request) :
    r.sentBody = if r.method.carriesBody then r.body.map Json.compact else none := by
  obtain ⟨method, path, body⟩ := r
  cases method <;> rfl

theorem sentBody_reread {depth : Nat} {r : Request} (hwithin : ∀ b ∈ r.body, Json.Within depth b)
    (h : r.KeepsBody) :
    r.reread.sentBody = r.sentBody := by
  rw [sentBody_eq, sentBody_eq]
  by_cases hmethod : r.method.carriesBody = true
  · rw [reread_eq_self hwithin fun b hb => Json.stable_of_reals (h hmethod b hb)]
  · rw [if_neg hmethod]
    exact if_neg hmethod

end Request

namespace CheckSource

def ofPrinted (url : Text) : CheckSet → CheckSource
  | .api suite =>
    { mode := .api, baseUrl := url, requests := some (Request.listText suite.requests),
      headers := some suite.headers.text }
  | .ui scenarios => { mode := .ui, baseUrl := url, uiSpec := some (Scenario.listText scenarios) }

variable {url base : Text} {set : CheckSet}

theorem Loadable.within (h : Loadable set) :
    ∀ r ∈ set.requests, ∀ b ∈ r.body, Json.Within 125 b := by
  cases h with
  | api hrs _ => exact hrs.within
  | ui _ => exact fun _ h => nomatch h

theorem load_ofPrinted (hbase : validBase url = .ok base) (h : Loadable set) (cwd : Location)
    (d : Disk) : (ofPrinted url set).load cwd d = (.ok (set.reread, base), d) := by
  cases h with
  | @api rs hs hrs hnames =>
    have hrequests :
        Json.parse (Request.listText rs) =
        .ok (.array ((rs.map Request.reread).map Request.toJson)) := by
      rw [Request.listText]
      exact Request.parse_toJson hrs.within 2
    have hheaders : Json.parse hs.text = .ok hs.toJson := by
      rw [Headers.text]
      exact hs.parse_toJson 2
    have hrequestList : (ofPrinted url (.api ⟨rs, hs⟩)).requestList = .ok (rs.map Request.reread) :=
      requestList_of_text (s := ofPrinted url (.api ⟨rs, hs⟩)) rfl hrequests hrs.reread
    have hheaderList : (ofPrinted url (.api ⟨rs, hs⟩)).headerList = .ok hs :=
      headerList_of_text (s := ofPrinted url (.api ⟨rs, hs⟩)) rfl hheaders
        (Headers.validate_toJson hnames)
    have hload :=
      load_api (s := ofPrinted url (.api ⟨rs, hs⟩)) hbase rfl hrequestList hheaderList cwd d
    exact hload
  | @ui v ss hss =>
    have hscenarios : Json.parse (Scenario.listText ss) = .ok (CheckSet.toJson (.ui ss)) := by
      rw [Scenario.listText]
      exact Scenario.parse_toJson ss 1
    have hload :=
      load_ui (s := ofPrinted url (.ui ss)) hbase rfl rfl hscenarios
      (Scenario.validateAll_toJson hss) cwd d
    exact hload

end CheckSource

namespace CheckSet

theorem reread_eq_self {depth : Nat} {set : CheckSet}
    (hwithin : ∀ r ∈ set.requests, ∀ b ∈ r.body, Json.Within depth b)
    (h : ∀ r ∈ set.requests, ∀ b ∈ r.body, b.Stable) : set.reread = set := by
  cases set with
  | ui scenarios => rfl
  | api suite =>
    have hsame : suite.requests.map Request.reread = suite.requests :=
      (List.map_congr_left fun r hr => Request.reread_eq_self (hwithin r hr) (h r hr)).trans
        (List.map_id _)
    rw [reread, hsame]

end CheckSet

namespace Command

variable {s : CheckSource} {cwd : Location} {d d' : Disk} {base : Text} {set : CheckSet}

theorem validated_of_load (h : s.load cwd d = (.ok (set, base), d')) :
    validated cwd s d = (.ok ⟨set.document base, 0⟩, d') := by
  have houtcome : Action.outcome (s.load cwd) d = (.ok (.ok (set, base)), d') := by
    rw [Action.outcome, h]
  rw [validated, Action.bind_of_ok houtcome]
  rfl

theorem compiled_of_load {c : Config} {timeoutMs : Option UInt64} {p : Program}
    (h : s.load cwd d = (.ok (set, base), d'))
    (hp : Program.compile (timeoutMs.or c.defaults.timeoutMs) base set = .ok p) :
    compiled cwd c s timeoutMs d = (.ok ⟨p.source, 0⟩, d') := by
  rw [compiled, Action.bind_of_ok h]
  dsimp only
  rw [compileChecks, hp]
  rfl

theorem compile_of_loadable (h : CheckSource.Loadable set) (timeout : Option UInt64) (base : Text) :
    ∃ p p', Program.compile timeout base set = .ok p ∧
    Program.compile timeout base set.reread = .ok p' ∧
      (p.source = p'.source ↔ ∀ r ∈ set.requests, r.reread.sentBody = r.sentBody) := by
  cases h with
  | @api rs hs hrs _ =>
    have hne : rs.map Request.reread ≠ [] := by simpa using hrs.nonempty
    refine ⟨_, _, Program.compile_api timeout base hrs.nonempty,
      Program.compile_api timeout base hne, Program.sourceOf_api_eq_iff.trans ?_⟩
    constructor
    · rintro ⟨-, -, hsent⟩ r hr
      rw [List.map_map] at hsent
      exact (congrArg (fun m => m.2.2) (List.map_inj_left.mp hsent r hr)).symm
    · intro h
      refine ⟨rfl, fun _ => rfl, ?_⟩
      rw [List.map_map]
      exact List.map_congr_left fun r hr => by
        rw [Function.comp, Request.sent, Request.sent, h r hr]
        rfl
  | @ui v ss hss =>
    have hne := Scenario.ne_nil_of_validateAll hss
    exact ⟨_, _, Program.compile_ui timeout base hne, Program.compile_ui timeout base hne,
      iff_of_true rfl fun _ h => nomatch h⟩

/-- The form of valid checks is valid, and stands for the same checks; raw headers are a map. What
is printed of checks is accepted as well, with any base address that is normalized to the same one,
and only numbers in bodies can be other ones then. The program is the same one if the texts of all
bodies that are sent are, as they are if no number that is sent is read as another one. -/
theorem validated_again :
    (∀ v ss, Scenario.validateAll v = .ok ss →
      Scenario.validateAll (CheckSet.toJson (.ui ss)) = .ok ss) ∧
    (∀ (v h : Json) (rs : List Request) (hs : Headers),
      Request.validateAll v = .ok rs → Headers.validate h.sorted = .ok hs →
      ∃ requests headers, (CheckSet.toJson (.api ⟨rs, hs⟩)).get? "requests".toList = some requests ∧
        (CheckSet.toJson (.api ⟨rs, hs⟩)).get? "headers".toList = some headers ∧
        Request.validateAll requests = .ok rs ∧ Headers.validate headers = .ok hs) ∧
    ∀ cwd s d set base d', CheckSource.load cwd s d = (.ok (set, base), d') →
      (∃ text, validated cwd s d = (.ok ⟨text, 0⟩, d') ∧
        ∀ part ∈ set.printedParts, part <:+: text) ∧
      validBase s.baseUrl = .ok base ∧
      ∀ url, validBase url = .ok base → ∀ cwd₁ d₁,
        (CheckSource.ofPrinted url set).load cwd₁ d₁ = (.ok (set.reread, base), d₁) ∧
        ((∀ r ∈ set.requests, ∀ b ∈ r.body, ∀ x, .real x ∈ b.numbers →
          (Number.real x).reread = .real x) →
          set.reread = set) ∧
        ∀ c timeout, ∃ p p', compiled cwd c s timeout d = (.ok p, d') ∧
          compiled cwd₁ c (CheckSource.ofPrinted url set) timeout d₁ = (.ok p', d₁) ∧
          (p = p' ↔ ∀ r ∈ set.requests, r.reread.sentBody = r.sentBody) ∧
          ((∀ r ∈ set.requests, r.KeepsBody) → p = p') := by
  refine ⟨fun v ss h => Scenario.validateAll_toJson h, fun v h rs hs hrs hhs => ?_, ?_⟩
  · exact ⟨_, _, rfl, rfl,
      Request.validateAll_toJson (Request.ne_nil_of_validateAll hrs)
        (Request.settled_of_validateAll hrs),
      Headers.validate_toJson_of_sorted hhs⟩
  · intro cwd s d set base d' hload
    obtain ⟨hbase, hloadable⟩ := CheckSource.loadable_of_load hload
    refine ⟨⟨_, validated_of_load hload, CheckSet.printedParts_isInfix base set⟩, hbase, ?_⟩
    intro url hurl cwd₁ d₁
    have hagain := CheckSource.load_ofPrinted hurl hloadable cwd₁ d₁
    refine ⟨hagain, fun h => ?_, fun c timeout => ?_⟩
    · exact CheckSet.reread_eq_self hloadable.within fun r hr b hb =>
        Json.stable_of_reals (h r hr b hb)
    · obtain ⟨p, p', hp, hp', hsource⟩ :=
        compile_of_loadable hloadable (timeout.or c.defaults.timeoutMs) base
      have hsame : (⟨p.source, 0⟩ : Printed) = ⟨p'.source, 0⟩ ↔
          ∀ r ∈ set.requests, r.reread.sentBody = r.sentBody := by
        rw [Printed.mk.injEq, and_iff_left rfl, hsource]
      exact ⟨_, _, compiled_of_load hload hp, compiled_of_load hagain hp', hsame,
        fun h => hsame.mpr fun r hr => Request.sentBody_reread (hloadable.within r hr) (h r hr)⟩

def numberRequest (x : Binary64) : Request := ⟨.post, "/a".toList, some (.number (.real x))⟩

theorem printable_numberRequest (x : Binary64) : Request.Printable [numberRequest x] where
  nonempty := by simp
  settled := List.forall_mem_singleton.mpr ⟨rfl, rfl, by simp [numberRequest], rfl⟩
  within := List.forall_mem_singleton.mpr fun b hb => by
    cases hb
    exact .number ..

theorem reread_numberRequest {x y : Binary64} (h : (Number.real x).reread = .real y) :
    (numberRequest x).reread = numberRequest y :=
  congrArg (fun n => (⟨.post, "/a".toList, some (.number n)⟩ : Request)) h

def numberSource (requests : Text) : CheckSource :=
  { mode := .api, baseUrl := "http://x".toList, requests := some requests }

def noFiles : Disk := { entries := [] }

theorem load_numberSource {t : Text} {x y : Binary64} (ht : t = Request.listText [numberRequest x])
    (h : (Number.real x).reread = .real y) :
    (numberSource t).load [] noFiles = (.ok (.api ⟨[numberRequest y], []⟩, "http://x".toList),
      noFiles) := by
  have hrequests : (numberSource t).requestList = .ok [numberRequest y] := by
    rw [← reread_numberRequest h]
    exact CheckSource.requestList_of_text (congrArg some ht)
      (Request.parse_toJson (printable_numberRequest x).within 2) (printable_numberRequest x).reread
  exact CheckSource.load_api rfl rfl hrequests rfl [] noFiles

def steady : Binary64 := ⟨false, 6755399441055744, -52, by decide⟩

theorem reread_steady : (Number.real steady).reread = .real steady := by decide +kernel

/-- A suite with a number that is sent and a header that was given as a number. -/
def steadySuite : ApiSuite := ⟨[numberRequest steady], [("a".toList, "1".toList)]⟩

def waitingScenario : Scenario := ⟨"a".toList, "/".toList, [.waitFor none (some 5)]⟩

theorem validated_again_of_steady :
    Scenario.validateAll (CheckSet.toJson (.ui [waitingScenario])) = .ok [waitingScenario] ∧
    (∃ requests headers, (CheckSet.toJson (.api steadySuite)).get? "requests".toList =
      some requests ∧
      (CheckSet.toJson (.api steadySuite)).get? "headers".toList = some headers ∧
      Request.validateAll requests = .ok steadySuite.requests ∧
      Headers.validate headers = .ok steadySuite.headers) ∧
    ∃ p, compiled [] {} (numberSource (Request.listText [numberRequest steady])) none noFiles =
      (.ok p, noFiles) ∧
      compiled [] {} (.ofPrinted "http://x".toList (.api ⟨[numberRequest steady], []⟩))
        none noFiles =
        (.ok p, noFiles) := by
  have hscenarios : Scenario.validateAll (.array [.object [("name".toList, .string " a ".toList),
      ("steps".toList,
        .array [.object [("ms".toList, .ofUInt64 5),
        ("type".toList, .string "waitFor".toList)]])]]) =
      .ok [waitingScenario] := rfl
  have hrequests : Request.validateAll (.array [.object [("body".toList, .number (.real steady)),
      ("method".toList, .string "post".toList), ("path".toList, .string "a".toList)]]) =
        .ok steadySuite.requests := rfl
  have hheaders :
      Headers.validate (.sorted (.object [("a".toList, .number (.integer 1 (by decide)))])) =
        .ok steadySuite.headers := rfl
  refine ⟨validated_again.1 _ _ hscenarios, validated_again.2.1 _ _ _ _ hrequests hheaders, ?_⟩
  obtain ⟨-, -, hagain⟩ := validated_again.2.2 _ _ _ _ _ _ (load_numberSource rfl reread_steady)
  obtain ⟨-, -, hcompiled⟩ := hagain "http://x".toList rfl [] noFiles
  obtain ⟨p, p', hp, hp', -, hsame⟩ := hcompiled {} none
  have hkept : (numberRequest steady).KeepsBody := by
    intro _ b hb x hx
    cases hb
    cases List.mem_singleton.mp hx
    exact reread_steady
  obtain rfl : p = p' := hsame (List.forall_mem_singleton.mpr hkept)
  exact ⟨p, hp, hp'⟩

/-- A number that is printed with sixteen digits, and read from them as its neighbour. -/
def drifting : Binary64 := ⟨false, 6016103000389557, 74, by decide⟩

/-- The neighbour, which is printed with seventeen digits, and read from them as the first
number. -/
def drifted : Binary64 := ⟨false, 6016103000389556, 74, by decide⟩

theorem reread_drifting : (Number.real drifting).reread = .real drifted := by decide +kernel

theorem reread_drifted : (Number.real drifted).reread = .real drifting := by decide +kernel

/-- Requests with the number in a body that is sent. -/
def driftingRequests : Text :=
  ("[\n      \x7b\n        \"body\": 1.136409726661246e+38,\n        \"method\": \"POST\",\n" ++
    "        \"path\": \"/a\"\n      \x7d\n    ]").toList

/-- What is printed for the requests is accepted and compiled to another program. -/
theorem printed_body_drifts :
    ∃ set p p', (numberSource driftingRequests).load [] noFiles =
      (.ok (set, "http://x".toList), noFiles) ∧
      compiled [] {} (numberSource driftingRequests) none noFiles = (.ok p, noFiles) ∧
      compiled [] {} (.ofPrinted "http://x".toList set) none noFiles = (.ok p', noFiles) ∧
      p ≠ p' := by
  have hload := load_numberSource (t := driftingRequests) (by decide +kernel) reread_drifting
  have hloadable : CheckSource.Loadable (.api ⟨[numberRequest drifted], []⟩) :=
    .api (printable_numberRequest drifted) .nil
  obtain ⟨p, p', hp, hp', hsource⟩ := compile_of_loadable hloadable none "http://x".toList
  refine ⟨_, ⟨p.source, 0⟩, ⟨p'.source, 0⟩, hload, compiled_of_load hload hp,
    compiled_of_load (CheckSource.load_ofPrinted rfl hloadable [] noFiles) hp', fun heq => ?_⟩
  have hsent := hsource.mp (Printed.mk.inj heq).1 (numberRequest drifted) List.mem_cons_self
  rw [reread_numberRequest reread_drifted] at hsent
  exact absurd hsent (by decide +kernel)

end Command
end TestBench
