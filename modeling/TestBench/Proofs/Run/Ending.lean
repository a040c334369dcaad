import TestBench.Proofs.Run.Launch

/-! How an execution ends. Its errors are neither ones of validation nor overflows, and there is a
result exactly if the runner leaves a report that can be read. -/
namespace TestBench

/-- An error that is found after validation and of which an answer tells. -/
def Error.IsOperational (e : Error) : Prop := e.isValidation = false ∧ e ≠ .overflow

namespace Session

variable {h : Host} {o : RunOptions} {c : Config} {s : Session} {d d' : Disk} {e : Error}
  {raw : RawOutput} {cwd : Location} {root : Path} {id : Text} {p : Program} {keep : Bool}

theorem throwsOnly_makeDirectory (cwd : Location) (s : Session) :
    (s.makeDirectory cwd).ThrowsOnly Error.IsOperational := by
  refine Action.throwsOnly_bind Action.throwsOnly_get fun d => ?_
  split <;> simp [Error.IsOperational, Error.isValidation]

theorem throwsOnly_writeFiles (cwd : Location) (s : Session) (p : Program) :
    (s.writeFiles cwd p).ThrowsOnly Error.IsOperational :=
  have hio (reason : Text) : (Error.io reason).IsOperational := ⟨rfl, nofun⟩
  Action.throwsOnly_bind (Action.throwsOnly_change hio _) fun _ => Action.throwsOnly_change hio _

theorem throwsOnly_create (hid : SessionId.isValid id = true) :
    (create cwd root id p keep).ThrowsOnly Error.IsOperational := by
  have hio (reason : Text) : (Error.io reason).IsOperational := ⟨rfl, nofun⟩
  rw [create, hid]
  refine Action.throwsOnly_bind (Action.throwsOnly_ensureDirectory hio cwd root) fun _ => ?_
  refine Action.throwsOnly_bind (throwsOnly_makeDirectory cwd _) fun _ => ?_
  refine Action.throwsOnly_bind (Action.throwsOnly_onError (throwsOnly_writeFiles cwd _ p) _)
    fun _ => ?_
  exact Action.throwsOnly_pure _

/-- Making a session is a matter of validation only if its id is not valid, and then nothing is
made. -/
theorem create_of_isValidation (h : create cwd root id p keep d = (.error e, d'))
    (he : e.isValidation = true) : d' = d := by
  cases hid : SessionId.isValid id with
  | false =>
    rw [create_of_invalid hid] at h
    exact (Prod.mk.inj h).2.symm
  | true =>
    have hoperational := throwsOnly_create hid d e (by rw [h])
    exact absurd he (by simp [hoperational.1])

theorem create_ne_overflow (h : (create cwd root id p keep d).1 = .error e) : e ≠ .overflow := by
  cases hid : SessionId.isValid id with
  | false =>
    rw [create_of_invalid hid] at h
    cases h
    exact nofun
  | true => exact (throwsOnly_create hid d e h).2

theorem throwsOnly_resolveProgram (h : Host) (program : Text) :
    (h.resolveProgram program).ThrowsOnly Error.IsOperational := by
  have hmissing : (h.runnerNotFound program).IsOperational := ⟨rfl, nofun⟩
  intro d e he
  rw [Host.resolveProgram_eq] at he
  split at he
  · split at he
    · cases he
    · cases he
      exact hmissing
  · cases hfound : h.search program with
    | some path =>
      rw [hfound] at he
      cases he
    | none =>
      rw [hfound] at he
      cases he
      exact hmissing

theorem throwsOnly_readReport (cwd : Location) (s : Session) :
    (s.readReport cwd).ThrowsOnly Error.IsOperational := by
  refine Action.throwsOnly_bind (Action.throwsOnly_readText cwd _ fun _ => ⟨rfl, nofun⟩) fun t => ?_
  cases Json.parse t <;> simp [Error.IsOperational, Error.isValidation]

theorem throwsOnly_execute (h : Host) (s : Session) (o : RunOptions) (c : Config) :
    (s.execute h o c).ThrowsOnly Error.IsOperational := by
  refine Action.throwsOnly_bind (throwsOnly_resolveProgram h _) fun program => ?_
  refine Action.throwsOnly_bind Action.throwsOnly_get fun d => ?_
  refine Action.throwsOnly_bind (Action.throwsOnly_set _) fun _ => ?_
  split
  case h_4 =>
    exact Action.throwsOnly_bind (throwsOnly_readReport h.cwd s) fun _ => Action.throwsOnly_pure _
  all_goals simp [Error.IsOperational, Error.isValidation]

/-- What a runner leaves behind for a session. Its program is there, and it behaves, in its
directory, so that it ends by itself, with whatever exit code, and leaves a text at the place of the
report that can be read as JSON. -/
inductive Leaves (h : Host) (o : RunOptions) (c : Config) (s : Session) (d : Disk) :
    RawOutput → Prop
  | intro {program : Path} {place file : Location} {code : Option Int}
      {stdout stderr content : Text.Utf8.Bytes} {x : Bool} {d₁ : Disk} {t : Text} {v : Json}
      (located : h.Locates d c.runner.program program)
      (startable : h.Startable (Launch.ofSession program s o c) d place)
      (ended : h.behave place (Launch.ofSession program s o c) d =
        (.ok (.exited code stdout stderr), d₁))
      (leads : d₁.resolve h.cwd s.reportFile = .ok file)
      (written : d₁.entry? file = some (.file content x))
      (text : Text.Utf8.decode? content = some t) (parsed : Json.parse t = .ok v) :
    Leaves h o c s d {
      structured := some v
      stdout := Text.Utf8.decodeLossy stdout
      stderr := Text.Utf8.decodeLossy stderr
      exitCode := code }

theorem readReport_eq_ok_iff {v : Json} : s.readReport cwd d = (.ok v, d') ↔
    d' = d ∧ ∃ t, d.readText cwd s.reportFile = .ok t ∧ Json.parse t = .ok v := by
  rw [readReport]
  dsimp only
  constructor
  · intro hv
    obtain ⟨t, d₁, ht, hv⟩ := Action.eq_ok_of_bind hv
    rw [Action.readText, Action.bind_get] at ht
    cases hr : d.readText cwd s.reportFile with
    | error f =>
      rw [hr] at ht
      cases ht
    | ok t' =>
      rw [hr] at ht
      cases ht
      cases hp : Json.parse t with
      | error f =>
        rw [hp] at hv
        cases hv
      | ok v' =>
        rw [hp] at hv
        cases hv
        exact ⟨rfl, t, rfl, hp⟩
  · rintro ⟨rfl, t, ht, hp⟩
    rw [Action.readText, bind_assoc, Action.bind_get, ht]
    dsimp only
    rw [pure_bind, hp]
    rfl

/-- An execution has a result exactly if its runner leaves something; the exit code does not
matter. -/
theorem execute_eq_ok_iff : (s.execute h o c d).1 = .ok raw ↔ s.Leaves h o c d raw := by
  constructor
  · intro hraw
    have hpair : s.execute h o c d = (.ok raw, (s.execute h o c d).2) := Prod.ext hraw rfl
    obtain ⟨program, d₁, hprogram, hrest⟩ := Action.eq_ok_of_bind hpair
    obtain ⟨hlocates, rfl⟩ := Host.resolveProgram_eq_ok_iff.mp hprogram
    rw [Action.bind_get] at hrest
    cases hstart : h.start (Launch.ofSession program s o c) d₁ with
    | mk result d₂ =>
      rw [hstart] at hrest
      dsimp only at hrest
      rw [Action.bind_set] at hrest
      rcases result with f | ⟨code, stdout, stderr⟩ | _ | _
      case ok.exited =>
        obtain ⟨v, d₃, hv, hlast⟩ := Action.eq_ok_of_bind hrest
        obtain ⟨-, t, ht, hparse⟩ := readReport_eq_ok_iff.mp hv
        obtain ⟨file, content, x, hleads, hwritten, htext⟩ := Disk.readText_eq_ok_iff.mp ht
        obtain ⟨place, hstartable, hended⟩ := Host.start_eq_ok_iff.mp hstart
        cases hlast
        exact ⟨hlocates, hstartable, hended, hleads, hwritten, htext, hparse⟩
      all_goals cases hrest
  · rintro ⟨hlocates, hstartable, hended, hleads, hwritten, htext, hparse⟩
    have hread := readReport_eq_ok_iff.mpr
      ⟨rfl, _, Disk.readText_eq_ok_iff.mpr ⟨_, _, _, hleads, hwritten, htext⟩, hparse⟩
    rw [execute, Action.bind_of_ok (Host.resolveProgram_eq_ok_iff.mpr ⟨hlocates, rfl⟩),
      Action.bind_get, Host.start_eq_ok_iff.mpr ⟨_, hstartable, hended⟩]
    dsimp only
    rw [Action.bind_set, Action.bind_of_ok hread]
    rfl

end Session

end TestBench
