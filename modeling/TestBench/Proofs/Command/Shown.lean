import TestBench.Command.Dispatch
import TestBench.Proofs.Command.Validated
import TestBench.Proofs.Run.Creation
import TestBench.Proofs.Text.Trim

/-! Programs that are shown, and programs that are run. A run normalizes the base address once more
than the command that shows its program does, which matters only if white space is left in front of
the slashes at its end. -/
namespace TestBench

namespace Address

variable {url base : Text}

@[simp] theorem dropTrailingSlashes_normalizeBase (url : Text) :
    dropTrailingSlashes (normalizeBase url) = normalizeBase url :=
  List.rdropWhile_idempotent (· = '/') (Text.trim url)

theorem length_dropTrailingSlashes_le (t : Text) : (dropTrailingSlashes t).length ≤ t.length :=
  (List.rdropWhile_prefix (· = '/') t).length_le

theorem normalizeBase_normalizeBase_iff (url : Text) :
    normalizeBase (normalizeBase url) = normalizeBase url ↔ Text.Trimmed (normalizeBase url) := by
  constructor
  · intro h
    -- Trimming cannot have made the address shorter, so it has not changed it.
    have hslashes := length_dropTrailingSlashes_le (Text.trim (normalizeBase url))
    rw [← normalizeBase, h] at hslashes
    have htrim := (Text.trim_isInfix (normalizeBase url)).eq_of_length_le hslashes
    rw [← htrim]
    exact Text.trimmed_trim _
  · intro h
    rw [normalizeBase, Text.trim_eq_self h, dropTrailingSlashes_normalizeBase]

end Address

theorem validBase_eq_ok_iff {url base : Text} :
    validBase url = .ok base ↔ base ≠ [] ∧ base = Address.normalizeBase url := by
  rw [validBase, Address.checkBase?]
  cases Address.normalizeBase url with
  | nil => simp
  | cons c t =>
    simp only [Except.ok.injEq, eq_comm (b := base)]
    refine (and_iff_right_of_imp ?_).symm
    rintro rfl
    exact List.cons_ne_nil c t

theorem validBase_again_iff {url base : Text} (h : validBase url = .ok base) :
    validBase base = .ok base ↔ Text.Trimmed base := by
  obtain ⟨hne, rfl⟩ := validBase_eq_ok_iff.mp h
  rw [validBase_eq_ok_iff, ← Address.normalizeBase_normalizeBase_iff,
    eq_comm (a := Address.normalizeBase url)]
  exact and_iff_right hne

namespace Command

variable {h : Host} {c : Config} {source : CheckSource} {timeout : Option UInt64}
  {printed : Printed} {d d₁ : Disk}

theorem eq_of_compiled (hshown : compiled h.cwd c source timeout d = (.ok printed, d₁)) :
    ∃ set base program, source.load h.cwd d = (.ok (set, base), d) ∧
      compileChecks (timeout.or c.defaults.timeoutMs) base set = .ok program ∧
      printed = ⟨program.source, 0⟩ := by
  obtain ⟨⟨set, base⟩, d₂, hload, hrest⟩ := Action.eq_ok_of_bind hshown
  obtain ⟨program, d₃, hcompile, hlast⟩ := Action.eq_ok_of_bind hrest
  have hdisk := source.load_disk h.cwd d
  rw [hload] at hdisk
  dsimp only at hdisk
  have hprinted := (Except.ok.inj (Prod.mk.inj hlast).1).symm
  exact ⟨set, base, program, hdisk ▸ hload, (Action.eq_ok_of_lift hcompile).1, hprinted⟩

theorem report_of_load {set : CheckSet} {base id : Text} {o : RunOptions} {keep : Bool}
    (hload : source.load h.cwd d = (.ok (set, base), d₁)) :
    report h c source id o keep d = runChecks h set base id o
      { c with harness :=
        { c.harness with keepSessions := c.harness.keepSessions || keep } } d₁ := by
  rw [report, Action.bind_eq, hload]
  rfl

end Command

def Session.followUp (h : Host) (o : RunOptions) (c : Config) (s : Session) : Action Report := do
  let raw ← Action.cleaningUp (s.execute h o c) (s.release h.cwd)
  Report.ofRaw raw

theorem runChecks_of_unused {h : Host} {set : CheckSet} {url base id : Text} {o : RunOptions}
    {c : Config} {program : Program} {root : Path} {d d' : Disk} (hbase : validBase url = .ok base)
    (hcompile : compileChecks o.timeoutMs base set = .ok program)
    (hroot : c.harness.sessionsDir.getD h.sessionsDir = root)
    (hunused : Session.Unused h.cwd root id d d') :
    runChecks h set url id o c d =
      Session.followUp h o c ⟨id, Path.join root id, program.units, c.harness.keepSessions⟩
        (d'.withSession (Session.place h.cwd root id) program.source) := by
  rw [runChecks, hbase, Action.bind_of_ok (Action.lift_ok base d), hcompile,
    Action.bind_of_ok (Action.lift_ok program d), hroot, Action.bind_of_ok hunused.create]
  rfl

namespace Command

/-- A run executes the program that is shown for the same checks, if the normalized base address
stays the same when it is normalized again, which it does unless white space is left at its end:
under an id that is not in use the program is in the file of the session when the runner starts. -/
theorem run_executes_shown {h : Host} {palette : Screen.Palette} {c : Config} {source : CheckSource}
    {timeout : Option UInt64} {printed : Printed} {d d₁ d₂ : Disk} {root : Path} {id : Text}
    (hshown : dispatch h palette c (.compile source timeout false) d = (.ok printed, d₁))
    (hroot : c.harness.sessionsDir.getD h.sessionsDir = root)
    (hunused : Session.Unused h.cwd root id d d₂) (headed : Bool) (workers : Option UInt32)
    (keep : Bool) :
    let o := optionsWith c headed workers timeout
    let kept := { c with harness :=
      { c.harness with keepSessions := c.harness.keepSessions || keep } }
    ∃ base, validBase source.baseUrl = .ok base ∧ (validBase base = .ok base ↔ Text.Trimmed base) ∧
      (Text.Trimmed base → ∃ (s : Session) (d₃ : Disk),
        report h c source id o keep d = s.followUp h o kept d₃ ∧
        s.directory = Path.join root id ∧
        d₃.entry? (Session.place h.cwd root id ++ [testFileName]) =
          some (.file (Text.Utf8.encode printed.text) false)) := by
  obtain ⟨set, base, program, hload, hcompile, rfl⟩ := eq_of_compiled hshown
  have hvalid := (CheckSource.loadable_of_load hload).1
  have hagain := validBase_again_iff hvalid
  refine ⟨base, hvalid, hagain, fun htrimmed => ?_⟩
  refine ⟨⟨id, Path.join root id, program.units, c.harness.keepSessions || keep⟩,
    d₂.withSession (Session.place h.cwd root id) program.source, ?_, rfl,
      Session.entry?_testFile_withSession _⟩
  rw [report_of_load hload]
  exact runChecks_of_unused (hagain.mpr htrimmed) hcompile hroot hunused

/-- One request to `/a` below an address. -/
def pathSource (url : Text) : CheckSource :=
  { mode := .api, baseUrl := url, endpoints := some "/a".toList }

def pathChecks : ApiSuite := ⟨[⟨.get, "/a".toList, none⟩], []⟩

/-- A configuration with its sessions in `/s`, which is there. -/
def sessionsConfig : Config := { harness := { sessionsDir := some "/s".toList } }

def sessionsDisk : Disk := ⟨[([['s']], .directory)], fun _ => none⟩

theorem load_pathSource {url base : Text} (h : validBase url = .ok base) (cwd : Location)
    (d : Disk) : (pathSource url).load cwd d = (.ok (.api pathChecks, base), d) :=
  CheckSource.load_api h rfl rfl rfl cwd d

theorem compile_pathChecks (base : Text) : Program.compile none base (.api pathChecks) =
    .ok ⟨Program.sourceOf none base (.api pathChecks), Api.titles pathChecks.requests⟩ :=
  Program.compile_api none base (List.cons_ne_nil _ _)

theorem unused_sessionsDisk : Session.Unused [] "/s".toList ['a'] sessionsDisk sessionsDisk where
  made := rfl
  leads := ⟨rfl, rfl⟩
  refuses _ := rfl
  valid := rfl
  fits := ⟨by decide, by decide⟩
  free l := by
    change sessionsDisk.entry? ([['s'], ['a']] ++ l) = none
    simp [sessionsDisk, Disk.entry?]

def idleHost : Host := ⟨[], none, none, [], fun _ => none, fun _ _ d => (.ok .interrupted, d)⟩

theorem compiled_pathSource {url base : Text} (hurl : validBase url = .ok base) :
    dispatch idleHost ⟨false⟩ sessionsConfig (.compile (pathSource url) none false) sessionsDisk =
      (.ok ⟨Program.sourceOf none base (.api pathChecks), 0⟩, sessionsDisk) := by
  have hcompile :
      Program.compile ((none : Option UInt64).or sessionsConfig.defaults.timeoutMs) base
      (.api pathChecks) =
        .ok ⟨Program.sourceOf none base (.api pathChecks), Api.titles pathChecks.requests⟩ :=
        compile_pathChecks base
  exact compiled_of_load (load_pathSource hurl [] sessionsDisk) hcompile

/-- An address that ends in a slash is normalized for good at once. -/
theorem run_executes_shown_of_slash :
    dispatch idleHost ⟨false⟩ sessionsConfig (.compile (pathSource "http://x/".toList) none false)
      sessionsDisk =
        (.ok ⟨Program.sourceOf none "http://x".toList (.api pathChecks), 0⟩, sessionsDisk) ∧
      Session.Unused [] "/s".toList ['a'] sessionsDisk sessionsDisk ∧
      ∃ (s : Session) (d : Disk),
        report idleHost sessionsConfig (pathSource "http://x/".toList) ['a']
            (optionsWith sessionsConfig false none none) true sessionsDisk =
              s.followUp idleHost (optionsWith sessionsConfig false none none)
              { sessionsConfig with harness :=
                { sessionsConfig.harness with keepSessions := true } } d ∧
          s.directory = "/s/a".toList ∧ d.entry? [['s'], ['a'], testFileName] =
            some (.file (Text.Utf8.encode
              (Program.sourceOf none "http://x".toList (.api pathChecks))) false) := by
  have hurl : validBase "http://x/".toList = .ok "http://x".toList := rfl
  obtain ⟨base, hbase, -, hrun⟩ :=
    run_executes_shown (compiled_pathSource hurl) rfl unused_sessionsDisk false none true
  obtain rfl : "http://x".toList = base := Except.ok.inj (hurl.symm.trans hbase)
  have htrimmed : Text.Trimmed "http://x".toList :=
    (Address.normalizeBase_normalizeBase_iff "http://x/".toList).mp rfl
  exact ⟨compiled_pathSource hurl, unused_sessionsDisk, hrun htrimmed⟩

/-- White space in front of the slash is left by the first normalization and lost by the second
one. -/
theorem shown_not_executed :
    ∃ shown written : Text,
      dispatch idleHost ⟨false⟩ sessionsConfig
        (.compile (pathSource "http://x /".toList) none false) sessionsDisk =
        (.ok ⟨shown, 0⟩, sessionsDisk) ∧
      Session.Unused [] "/s".toList ['a'] sessionsDisk sessionsDisk ∧
      (∃ (s : Session) (d : Disk),
        report idleHost sessionsConfig (pathSource "http://x /".toList) ['a']
            (optionsWith sessionsConfig false none none) false sessionsDisk =
              s.followUp idleHost (optionsWith sessionsConfig false none none) sessionsConfig d ∧
          s.directory = "/s/a".toList ∧
          d.entry? [['s'], ['a'], testFileName] = some (.file (Text.Utf8.encode written) false)) ∧
      written ≠ shown := by
  have hurl : validBase "http://x /".toList = .ok "http://x ".toList := rfl
  have hagain : validBase "http://x ".toList = .ok "http://x".toList := rfl
  have hcompile :
      compileChecks (optionsWith sessionsConfig false none none).timeoutMs "http://x".toList
        (.api pathChecks) = .ok ⟨Program.sourceOf none "http://x".toList (.api pathChecks),
          Api.titles pathChecks.requests⟩ := by
    change compileChecks none _ _ = _
    rw [compileChecks, compile_pathChecks]
    rfl
  have hrun :=
    runChecks_of_unused (h := idleHost) (c := sessionsConfig) hagain hcompile rfl
    unused_sessionsDisk
  refine ⟨_, Program.sourceOf none "http://x".toList (.api pathChecks), compiled_pathSource hurl,
    unused_sessionsDisk,
    ⟨_, _, (report_of_load (load_pathSource hurl [] sessionsDisk)).trans hrun, rfl, ?_⟩,
      fun heq => ?_⟩
  · exact Session.entry?_testFile_withSession _
  · have hbase := (Program.sourceOf_api_eq_iff.mp heq).1
    exact absurd hbase (by decide)

end Command
end TestBench
