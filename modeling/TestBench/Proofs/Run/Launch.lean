import TestBench.Proofs.Files.Tree
import TestBench.Proofs.Run.Creation
import TestBench.Run.Launch

/-! What a runner is started with. The paths that it is given are those that the harness uses, and
mean the same files to both whenever the configured directories are absolute. -/
namespace TestBench

namespace Session

variable {cwd : Location} {root : Path} {id : Text} {p : Program} {keep : Bool} {d d' : Disk}
  {s : Session}

theorem eq_of_create (h : create cwd root id p keep d = (.ok s, d')) :
    SessionId.isValid id = true ∧ s = ⟨id, Path.join root id, p.units, keep⟩ := by
  cases hid : SessionId.isValid id with
  | false =>
    rw [create_of_invalid hid] at h
    cases h
  | true =>
    refine ⟨rfl, ?_⟩
    rw [create, hid] at h
    obtain ⟨-, d₁, -, h⟩ := Action.eq_ok_of_bind h
    obtain ⟨-, d₂, -, h⟩ := Action.eq_ok_of_bind h
    obtain ⟨-, d₃, -, h⟩ := Action.eq_ok_of_bind h
    exact (Except.ok.inj (Prod.mk.inj h).1).symm

end Session

namespace Host

/-- A program can be started where its directory leads if that is one and no text has a zero
character. -/
structure Startable (h : Host) (l : Launch) (d : Disk) (place : Location) : Prop where
  clean : hasNul l = false
  leads : d.resolve h.cwd l.directory = .ok place
  directory : d.entry? place = some .directory

theorem start_eq_ok_iff {h : Host} {l : Launch} {d d' : Disk} {ending : Ending} :
    h.start l d = (.ok ending, d') ↔
      ∃ place, h.Startable l d place ∧ h.behave place l d = (.ok ending, d') := by
  constructor
  · intro hstart
    rw [start] at hstart
    split at hstart
    · cases hstart
    · next hclean =>
      split at hstart
      · next place hplace hfind =>
        obtain ⟨l', hl', he⟩ := Disk.find_eq_ok_iff.mp hfind
        rw [hplace] at hl'
        cases hl'
        exact ⟨place, ⟨by simpa using hclean, hplace, he⟩, hstart⟩
      all_goals cases hstart
  · rintro ⟨place, ⟨hclean, hplace, he⟩, hbehave⟩
    rw [start, hclean, hplace, Disk.find_of_resolve hplace he]
    exact hbehave

theorem start_cases (h : Host) (l : Launch) (d : Disk) :
    (∃ f, h.start l d = (.error f, d)) ∨
    h.start l d = h.behave (Path.locate h.cwd l.directory) l d := by
  rw [start]
  split
  · exact .inl ⟨_, rfl⟩
  · split
    · next hplace _ => exact .inr (by rw [Disk.eq_locate_of_resolve hplace])
    · exact .inl ⟨_, rfl⟩
    · exact .inl ⟨_, rfl⟩
    · exact .inl ⟨_, rfl⟩

/-- An absolute path as it is, any other one below the current directory. -/
def below (h : Host) (path : Path) : Path :=
  if Path.isAbsolute path then path else Path.join (Path.ofLocation h.cwd) path

/-- Where a program is: with a slash in its name it is a file, any other name is searched. -/
inductive Locates (h : Host) (d : Disk) (program : Text) : Path → Prop
  | file {place : Location} {content : Text.Utf8.Bytes} {x : Bool} (slash : '/' ∈ program)
      (leads : d.resolve h.cwd (h.below program) = .ok place)
      (file : d.entry? place = some (.file content x)) : Locates h d program (h.below program)
  | searched {path : Path} (name : '/' ∉ program) (found : h.search program = some path) :
    Locates h d program path

theorem resolveProgram_eq {h : Host} {program : Text} {d : Disk} : h.resolveProgram program d =
    (if '/' ∈ program then
      if d.isFile h.cwd (h.below program) then .ok (h.below program)
      else .error (h.runnerNotFound program)
    else (h.search program).elim (.error (h.runnerNotFound program)) .ok, d) := by
  rw [resolveProgram]
  split
  · rw [Action.bind_get]
    change (if d.isFile h.cwd (h.below program) then _ else _ : Action Path) d = _
    split <;> rfl
  · cases h.search program <;> rfl

theorem resolveProgram_eq_ok_iff {h : Host} {program : Text} {d d' : Disk} {path : Path} :
    h.resolveProgram program d = (.ok path, d') ↔ h.Locates d program path ∧ d' = d := by
  rw [resolveProgram_eq, Prod.mk.injEq, eq_comm (a := d)]
  refine and_congr_left' ?_
  constructor
  · intro hpath
    split at hpath
    · next hslash =>
      split at hpath
      · next hfile =>
        obtain ⟨l, content, x, hl, he⟩ := Disk.isFile_iff.mp hfile
        cases hpath
        exact .file hslash hl he
      · cases hpath
    · next hname =>
      cases hfound : h.search program with
      | none =>
        rw [hfound] at hpath
        cases hpath
      | some found =>
        rw [hfound] at hpath
        cases hpath
        exact .searched hname hfound
  · intro hlocates
    cases hlocates with
    | file hslash hl he => rw [if_pos hslash, if_pos (Disk.isFile_iff.mpr ⟨_, _, _, hl, he⟩)]
    | searched hname hfound => rw [if_neg hname, hfound, Option.elim_some]

end Host

namespace Session

@[simp] theorem readReport_disk (cwd : Location) (s : Session) (d : Disk) :
    (s.readReport cwd d).2 = d := by
  refine Action.bind_disk (Action.readText_disk ..) fun t => ?_
  cases Json.parse t <;> rfl

theorem execute_disk {h : Host} {s : Session} {o : RunOptions} {c : Config} {d : Disk}
    {program : Path} (hprogram : h.resolveProgram c.runner.program d = (.ok program, d)) :
    (s.execute h o c d).2 = (h.start (Launch.ofSession program s o c) d).2 := by
  rw [execute, Action.bind_of_ok hprogram, Action.bind_get]
  obtain ⟨result, d₁⟩ := h.start (Launch.ofSession program s o c) d
  rcases result with f | ⟨code, stdout, stderr⟩ | _ | _
  · rfl
  · have hset : ((set d₁ : Action Unit) d).2 = d₁ := rfl
    exact Action.bind_disk hset fun _ => Action.bind_disk (readReport_disk h.cwd s d₁) fun _ => rfl
  · rfl
  · rfl

end Session

namespace Launch

variable {program : Path} {s : Session} {o : RunOptions} {c : Config}

theorem config_mem_arguments :
    "--config=".toList ++ s.configFile ∈ (ofSession program s o c).arguments := by
  have hflags : "--config=".toList ++ s.configFile ∈ o.flags s :=
    List.mem_append_left _ (List.mem_append_left _ (List.mem_append_left _ List.mem_cons_self))
  exact List.mem_append_right _ hflags

theorem lookup_append_of_not_mem {env rest : List (Text × Text)} {v : Text}
    (h : ∀ x ∈ env, x.1 ≠ v) : (env ++ rest).lookup v = rest.lookup v := by
  have hnone : env.lookup v = none :=
    List.lookup_eq_none_iff.mpr fun x hx => bne_iff_ne.mpr (h x hx).symm
  rw [List.lookup_append, hnone, Option.none_or]

theorem lookup_reportVariable (h : ∀ x ∈ c.runner.environment, x.1 ≠ reportVariable) :
    (ofSession program s o c).environment.lookup reportVariable = some s.reportFile := by
  rw [ofSession, lookup_append_of_not_mem h]
  simp

theorem lookup_modulesVariable (h : ∀ x ∈ c.runner.environment, x.1 ≠ modulesVariable) :
    (ofSession program s o c).environment.lookup modulesVariable =
      c.runner.workingDir.map fun dir => Path.join dir "node_modules".toList := by
  have hne : (modulesVariable == reportVariable) = false := by decide
  rw [ofSession, lookup_append_of_not_mem h, List.lookup_cons, hne]
  cases c.runner.workingDir <;> simp

/-- For a session that has been made, the runner is told the configuration, the report and the
modules by the paths that the harness uses. They lead the runner to the same files if the configured
directories are absolute or it is started in the directory of the harness, and, for directories
whose paths do not lead up, only then. -/
theorem same_files (program : Path) (o : RunOptions) {h : Host} {root : Path} {id : Text}
    {p : Program} {keep : Bool} {d d' : Disk}
    (hs : Session.create h.cwd root id p keep d = (.ok s, d'))
    (henv : ∀ x ∈ c.runner.environment, x.1 ≠ reportVariable ∧ x.1 ≠ modulesVariable) :
    let l := ofSession program s o c
    let place := Path.locate h.cwd l.directory
    let modules (dir : Path) : Path := Path.join dir "node_modules".toList
    (∀ d, h.resolveProgram c.runner.program d = (.ok program, d) →
      (s.execute h o c d).2 = (h.start l d).2 ∧
        ((∃ f, h.start l d = (.error f, d)) ∨ h.start l d = h.behave place l d)) ∧
    ("--config=".toList ++ s.configFile ∈ l.arguments ∧
      l.environment.lookup reportVariable = some s.reportFile ∧
      l.environment.lookup modulesVariable = c.runner.workingDir.map modules) ∧
    (Path.isAbsolute root = true ∨ place = h.cwd →
      Path.locate place s.configFile = Path.locate h.cwd s.configFile ∧
        Path.locate place s.reportFile = Path.locate h.cwd s.reportFile) ∧
    (Path.parent ∉ Text.pieces '/' root →
      Path.locate place s.configFile = Path.locate h.cwd s.configFile ∨
          Path.locate place s.reportFile = Path.locate h.cwd s.reportFile →
        Path.isAbsolute root = true ∨ place = h.cwd) ∧
    ∀ dir, c.runner.workingDir = some dir →
      (Path.isAbsolute dir = true ∨ place = h.cwd →
        Path.locate place (modules dir) = Path.locate h.cwd (modules dir)) ∧
      (Path.parent ∉ Text.pieces '/' dir →
        Path.locate place (modules dir) = Path.locate h.cwd (modules dir) →
        Path.isAbsolute dir = true ∨ place = h.cwd) := by
  obtain ⟨hid, rfl⟩ := Session.eq_of_create hs
  intro l place modules
  have hname := SessionId.isName_of_isValid hid
  have hmodules : Path.IsName "node_modules".toList := by decide
  have hfile : ∀ n, Path.IsName n → (Path.locate place (Path.join (Path.join root id) n) =
      Path.locate h.cwd (Path.join (Path.join root id) n) ↔
        Path.locate place root = Path.locate h.cwd root) := by
    intro n hn
    rw [Path.locate_join hn, Path.locate_join hn, Path.locate_join hname, Path.locate_join hname,
      List.append_left_inj, List.append_left_inj]
  have hconfig := hfile _ isName_configFileName
  have hreport := hfile _ isName_reportFileName
  refine ⟨fun d hprogram => ⟨Session.execute_disk hprogram, h.start_cases l d⟩,
    ⟨config_mem_arguments, ?_, ?_⟩, ?_, ?_, ?_⟩
  · exact lookup_reportVariable fun x hx => (henv x hx).1
  · exact lookup_modulesVariable fun x hx => (henv x hx).2
  · exact fun habs => ⟨hconfig.mpr (Path.locate_congr habs), hreport.mpr (Path.locate_congr habs)⟩
  · intro hroot hsame
    refine (Path.locate_eq_locate_iff hroot).mp ?_
    rcases hsame with hsame | hsame
    · exact hconfig.mp hsame
    · exact hreport.mp hsame
  · intro dir _
    have hdir : Path.locate place (modules dir) = Path.locate h.cwd (modules dir) ↔
        Path.locate place dir = Path.locate h.cwd dir := by
      rw [Path.locate_join hmodules, Path.locate_join hmodules, List.append_left_inj]
    exact ⟨fun habs => hdir.mpr (Path.locate_congr habs),
      fun hparent hsame => (Path.locate_eq_locate_iff hparent).mp (hdir.mp hsame)⟩

/-- Absolute directories, with the runner started in its own project. -/
theorem same_files_of_absolute :
    let h : Host := ⟨[['w']], none, none, [], fun _ => none, fun _ _ d => (.ok .overdue, d)⟩
    let d : Disk := ⟨[([['w']], .directory)], fun _ => none⟩
    let s : Session := ⟨['a'], "/w/s/a".toList, [], false⟩
    let c : Config := { runner := { workingDir := some "/p".toList } }
    Session.create h.cwd "/w/s".toList ['a'] ⟨[], []⟩ false d =
        (.ok s, (Session.create h.cwd "/w/s".toList ['a'] ⟨[], []⟩ false d).2) ∧
      (∀ x ∈ c.runner.environment, x.1 ≠ reportVariable ∧ x.1 ≠ modulesVariable) ∧
      Path.locate [['p']] s.configFile = Path.locate h.cwd s.configFile ∧
      Path.locate [['p']] s.reportFile = Path.locate h.cwd s.reportFile ∧
      Path.locate [['p']] "/p/node_modules".toList =
        Path.locate h.cwd "/p/node_modules".toList := by
  intro h d s c
  have hs : Session.create h.cwd "/w/s".toList ['a'] ⟨[], []⟩ false d =
      (.ok s, (Session.create h.cwd "/w/s".toList ['a'] ⟨[], []⟩ false d).2) := Prod.ext rfl rfl
  have henv : ∀ x ∈ c.runner.environment, x.1 ≠ reportVariable ∧ x.1 ≠ modulesVariable :=
    fun x hx =>
    absurd hx List.not_mem_nil
  obtain ⟨-, -, hsame, -, hmodules⟩ := same_files ['r'] {} hs henv
  obtain ⟨hconfig, hreport⟩ := hsame (.inl rfl)
  exact ⟨hs, henv, hconfig, hreport, (hmodules _ rfl).1 (.inl rfl)⟩

/-- With a relative root the runner starts in the session and looks for its files below itself. -/
theorem relative_files_differ :
    let cwd : Location := [['w']]
    let s : Session := ⟨['a'], "s/a".toList, [], false⟩
    let l := ofSession ['r'] s {} {}
    let place := Path.locate cwd l.directory
    (Session.create cwd ['s'] ['a'] ⟨[], []⟩ false ⟨[([['w']], .directory)], fun _ => none⟩).1 =
      .ok s ∧
      "--config=".toList ++ s.configFile ∈ l.arguments ∧
      l.environment.lookup reportVariable = some s.reportFile ∧
      Path.locate place s.configFile = [['w'], ['s'], ['a'], ['s'], ['a'], configFileName] ∧
      Path.locate cwd s.configFile = [['w'], ['s'], ['a'], configFileName] ∧
      Path.locate place s.reportFile = [['w'], ['s'], ['a'], ['s'], ['a'], reportFileName] ∧
      Path.locate cwd s.reportFile = [['w'], ['s'], ['a'], reportFileName] :=
  ⟨rfl, config_mem_arguments, rfl, rfl, rfl, rfl, rfl⟩

end Launch
end TestBench
