import TestBench.Command.Input
import TestBench.Proofs.Run.Action
import TestBench.Proofs.Scenario.Reread

/-! Loading checks. What a source has loaded is settled: its text can be printed and loaded
again. -/
namespace TestBench

theorem parse_of_readJson {name t : Text} {v : Json} (h : readJson name t = .ok v) :
    Json.parse t = .ok v :=
  eq_ok_of_mapError h

theorem readJson_of_parse {name t : Text} {v : Json} (h : Json.parse t = .ok v) :
    readJson name t = .ok v := by
  rw [readJson, h]
  rfl

theorem error_of_validBase {url : Text} {e : Error} (h : validBase url = .error e) :
    e ≠ .overflow := by
  rintro rfl
  rw [validBase] at h
  split at h <;> cases h

/-- Requests that can be printed and loaded again. -/
structure Request.Printable (rs : List Request) : Prop where
  nonempty : rs ≠ []
  settled : ∀ r ∈ rs, r.Settled
  within : ∀ r ∈ rs, ∀ b ∈ r.body, Json.Within 125 b

namespace Request

theorem printable_of_validateAll {v : Json} {rs : List Request} (hv : Json.Within Json.depthLimit v)
    (h : validateAll v = .ok rs) : Printable rs :=
  ⟨ne_nil_of_validateAll h, settled_of_validateAll h, within_body_of_validateAll hv h⟩

theorem printable_of_ofEndpoints {list : Text} {rs : List Request} (h : ofEndpoints list = .ok rs) :
    Printable rs := by
  rw [ofEndpoints] at h
  split at h
  · cases h
  · next hne =>
    cases h
    refine ⟨by simpa using hne, List.forall_mem_map.mpr fun path hpath => ?_,
      List.forall_mem_map.mpr fun _ _ _ hb => nomatch hb⟩
    obtain ⟨piece, -, hpiece⟩ := List.mem_filterMap.mp hpath
    obtain ⟨hblank, rfl⟩ := Text.trimmed?_eq_some_iff.mp hpiece
    refine settled_of_path ?_ .get none
    rw [Text.trim_trim]
    exact (Text.trim_ne_nil_iff piece).mpr hblank

theorem Printable.reread {rs : List Request} (h : Printable rs) :
    validateAll (.array ((rs.map Request.reread).map toJson)) = .ok (rs.map Request.reread) :=
  validateAll_toJson (by simpa using h.nonempty) (List.forall_mem_map.mpr fun r hr =>
    (h.settled r hr).reread)

end Request

namespace CheckSource

variable {s : CheckSource} {cwd : Location} {d d' : Disk} {base : Text} {set : CheckSet}

theorem printable_of_requestList {rs : List Request} (h : s.requestList = .ok rs) :
    Request.Printable rs := by
  rw [requestList] at h
  split at h
  · obtain ⟨raw, hraw, hrs⟩ := TestBench.eq_ok_of_bind h
    exact Request.printable_of_validateAll (Json.within_of_parse (parse_of_readJson hraw))
      (eq_ok_of_mapError hrs)
  · exact Request.printable_of_ofEndpoints (eq_ok_of_mapError h)
  · cases h

theorem sorted_of_headerList {hs : Headers} (h : s.headerList = .ok hs) :
    (Headers.names hs).Pairwise (· < ·) := by
  rw [headerList] at h
  split at h
  · obtain ⟨raw, hraw, hhs⟩ := TestBench.eq_ok_of_bind h
    exact Headers.sorted_names (Json.within_of_parse (parse_of_readJson hraw))
      (eq_ok_of_mapError hhs)
  · cases h
    exact .nil

/-- What can be loaded at all. -/
inductive Loadable : CheckSet → Prop
  | api {rs : List Request} {hs : Headers} (requests : Request.Printable rs)
      (headers : (Headers.names hs).Pairwise (· < ·)) : Loadable (.api ⟨rs, hs⟩)
  | ui {v : Json} {ss : List Scenario} (scenarios : Scenario.validateAll v = .ok ss) :
      Loadable (.ui ss)

theorem loadable_of_load (h : s.load cwd d = (.ok (set, base), d')) :
    validBase s.baseUrl = .ok base ∧ Loadable set := by
  obtain ⟨base', d₁, hlift, h⟩ := Action.eq_ok_of_bind h
  obtain ⟨hbase, rfl⟩ := Action.eq_ok_of_lift hlift
  cases hmode : s.mode with
  | api =>
    rw [hmode] at h
    obtain ⟨rs, d₂, hrs, h⟩ := Action.eq_ok_of_bind h
    obtain ⟨hs, d₃, hhs, h⟩ := Action.eq_ok_of_bind h
    cases h
    exact ⟨hbase, .api (printable_of_requestList (Action.eq_ok_of_lift hrs).1)
      (sorted_of_headerList (Action.eq_ok_of_lift hhs).1)⟩
  | ui =>
    rw [hmode] at h
    obtain ⟨raw, d₂, -, h⟩ := Action.eq_ok_of_bind h
    obtain ⟨ss, d₃, hss, h⟩ := Action.eq_ok_of_bind h
    cases h
    exact ⟨hbase, .ui (eq_ok_of_mapError (Action.eq_ok_of_lift hss).1)⟩

@[simp] theorem load_disk (s : CheckSource) (cwd : Location) (d : Disk) : (s.load cwd d).2 = d := by
  refine Action.bind_disk (Action.lift_disk ..) fun base => ?_
  cases s.mode with
  | api =>
    exact Action.bind_disk (Action.lift_disk ..) fun _ =>
      Action.bind_disk (Action.lift_disk ..) fun _ => rfl
  | ui =>
    have hfile (p : Path) : (readScenarioFile cwd p d).2 = d := by
      refine Action.bind_disk (Action.readText_disk ..) fun t => ?_
      cases isYamlFile p <;> exact Action.bind_disk (Action.lift_disk ..) fun _ => rfl
    have hraw : (s.rawScenarios cwd d).2 = d := by
      rw [rawScenarios]
      cases s.uiSpec with
      | some t => exact Action.lift_disk ..
      | none =>
        cases s.uiSpecFile with
        | some p => exact hfile p
        | none => rfl
    exact Action.bind_disk hraw fun _ => Action.bind_disk (Action.lift_disk ..) fun _ => rfl

theorem error_of_readJson {name t : Text} {e : Error} (h : readJson name t = .error e) :
    e ≠ .overflow := by
  obtain ⟨f, rfl⟩ := error_of_mapError h
  exact nofun

theorem error_of_requestList {e : Error} (h : s.requestList = .error e) : e ≠ .overflow := by
  rw [requestList] at h
  split at h
  · rcases error_of_bind h with h | ⟨raw, -, h⟩
    · exact error_of_readJson h
    · obtain ⟨f, rfl⟩ := error_of_mapError h
      exact nofun
  · obtain ⟨f, rfl⟩ := error_of_mapError h
    exact nofun
  · cases h
    exact nofun

theorem error_of_headerList {e : Error} (h : s.headerList = .error e) : e ≠ .overflow := by
  rw [headerList] at h
  split at h
  · rcases error_of_bind h with h | ⟨raw, -, h⟩
    · exact error_of_readJson h
    · obtain ⟨f, rfl⟩ := error_of_mapError h
      intro hoverflow
      cases hoverflow
  · cases h

theorem throwsOnly_readScenarioFile (cwd : Location) (p : Path) :
    (readScenarioFile cwd p).ThrowsOnly (· ≠ .overflow) := by
  refine Action.throwsOnly_bind (Action.throwsOnly_readText cwd p fun _ => nofun) fun t => ?_
  split
  · refine Action.throwsOnly_bind (Action.throwsOnly_lift fun e he => ?_) fun _ =>
      Action.throwsOnly_pure _
    rw [readYaml] at he
    split at he
    · cases he
    · cases he
      exact nofun
  · exact Action.throwsOnly_bind (Action.throwsOnly_lift fun _ => error_of_readJson) fun _ =>
      Action.throwsOnly_pure _

theorem throwsOnly_rawScenarios (cwd : Location) (s : CheckSource) :
    (s.rawScenarios cwd).ThrowsOnly (· ≠ .overflow) := by
  rw [rawScenarios]
  split
  · exact Action.throwsOnly_lift fun _ => error_of_readJson
  · exact throwsOnly_readScenarioFile cwd _
  · simp

/-- Whatever is wrong with a source, an answer tells of it. -/
theorem throwsOnly_load (cwd : Location) (s : CheckSource) :
    (s.load cwd).ThrowsOnly (· ≠ .overflow) := by
  refine Action.throwsOnly_bind (Action.throwsOnly_lift fun _ => error_of_validBase) fun base => ?_
  split
  · refine Action.throwsOnly_bind (Action.throwsOnly_lift fun _ => error_of_requestList)
      fun rs => ?_
    exact Action.throwsOnly_bind (Action.throwsOnly_lift fun _ => error_of_headerList) fun _ =>
      Action.throwsOnly_pure _
  · refine Action.throwsOnly_bind (throwsOnly_rawScenarios cwd s) fun raw => ?_
    refine Action.throwsOnly_bind (Action.throwsOnly_lift fun e he => ?_) fun _ =>
      Action.throwsOnly_pure _
    obtain ⟨f, rfl⟩ := error_of_mapError he
    exact nofun

variable {t : Text} {v : Json} {rs : List Request} {hs : Headers} {ss : List Scenario}

theorem requestList_of_text (ht : s.requests = some t) (hparse : Json.parse t = .ok v)
    (h : Request.validateAll v = .ok rs) : s.requestList = .ok rs := by
  rw [requestList, ht]
  dsimp only
  rw [readJson_of_parse hparse, ok_bind, h]
  rfl

theorem headerList_of_text (ht : s.headers = some t) (hparse : Json.parse t = .ok v)
    (h : Headers.validate v = .ok hs) : s.headerList = .ok hs := by
  rw [headerList, ht]
  dsimp only
  rw [readJson_of_parse hparse, ok_bind, h]
  rfl

theorem load_api (hbase : validBase s.baseUrl = .ok base) (hmode : s.mode = .api)
    (hrs : s.requestList = .ok rs) (hhs : s.headerList = .ok hs) (cwd : Location) (d : Disk) :
    s.load cwd d = (.ok (.api ⟨rs, hs⟩, base), d) := by
  rw [load, hbase, Action.bind_of_ok (Action.lift_ok base d), hmode]
  dsimp only
  rw [hrs, Action.bind_of_ok (Action.lift_ok rs d), hhs, Action.bind_of_ok (Action.lift_ok hs d)]
  rfl

theorem load_ui (hbase : validBase s.baseUrl = .ok base) (hmode : s.mode = .ui)
    (ht : s.uiSpec = some t) (hparse : Json.parse t = .ok v) (h : Scenario.validateAll v = .ok ss)
    (cwd : Location) (d : Disk) :
    s.load cwd d = (.ok (.ui ss, base), d) := by
  have hraw : s.rawScenarios cwd d = (.ok v, d) := by
    rw [rawScenarios, ht]
    dsimp only
    rw [readJson_of_parse hparse]
    rfl
  rw [load, hbase, Action.bind_of_ok (Action.lift_ok base d), hmode]
  dsimp only
  rw [Action.bind_of_ok hraw, h]
  rfl

end CheckSource
end TestBench
