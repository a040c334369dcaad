import TestBench.Proofs.Command.Shown
import TestBench.Proofs.Json.Reread
import TestBench.Proofs.Report.Duration
import TestBench.Proofs.Run.Ending

/-! The outcomes of a run. Whatever comes before the runner is one action, which does not depend on
how programs behave; an error of validation can only come from there. -/
namespace TestBench

namespace RunAnswer

/-- Exactly one of the three outcomes, which the state and the exit code tell apart. -/
structure Single (a : RunAnswer) : Prop where
  one : [a.report?.isSome, a.runnerError?.isSome, a.validationError?.isSome].count true = 1
  ok_iff : a.ok = true ↔ a.report?.isSome = true
  exitCode_eq : a.exitCode = if a.runnerError?.isSome then 1 else 0

variable {mode : Mode} {e : Error} {r : Report} {result : Except Error Report}

theorem single_ok (h : r.ok = true) : Single ⟨mode, .ok r⟩ where
  one := rfl
  ok_iff := by simp [ok, report?, h, Except.toOption]
  exitCode_eq := rfl

theorem single_error (mode : Mode) (e : Error) : Single ⟨mode, .error e⟩ := by
  cases h : e.isValidation <;> constructor <;>
    simp [report?, runnerError?, validationError?, ok, exitCode, Except.toOption, h]

@[simp] theorem report?_eq_some_iff : report? ⟨mode, result⟩ = some r ↔ result = .ok r := by
  cases result <;> simp [report?, Except.toOption]

theorem isSome_validationError?_iff :
    (validationError? ⟨mode, result⟩).isSome = true ↔
    ∃ e, result = .error e ∧ e.isValidation = true := by
  cases result with
  | ok r => simp [validationError?]
  | error e => cases h : e.isValidation <;> simp [validationError?, h]

end RunAnswer

namespace Session

variable {h : Host} {o : RunOptions} {c : Config} {s : Session} {d : Disk} {e : Error} {r : Report}

theorem fst_followUp (h : Host) (o : RunOptions) (c : Config) (s : Session) (d : Disk) :
    (s.followUp h o c d).1 = (s.execute h o c d).1 >>= Report.ofRaw := Action.fst_bind_lift _ _ d

theorem error_of_followUp (he : (s.followUp h o c d).1 = .error e) :
    e.IsOperational ∨ e = .overflow ∧ ∃ raw, s.Leaves h o c d raw ∧ Report.Overflows raw := by
  rw [fst_followUp] at he
  rcases error_of_bind he with he | ⟨raw, hraw, he⟩
  · exact .inl (throwsOnly_execute h s o c d e he)
  · obtain ⟨rfl, hsum⟩ := Report.ofRaw_eq_error_iff.mp he
    exact .inr ⟨rfl, raw, execute_eq_ok_iff.mp hraw, hsum⟩

theorem followUp_of_leaves {raw : RawOutput} (h₁ : s.Leaves h o c d raw) :
    (s.followUp h o c d).1 = Report.ofRaw raw := by
  rw [fst_followUp, execute_eq_ok_iff.mpr h₁, ok_bind]

theorem ok_of_followUp (hr : (s.followUp h o c d).1 = .ok r) :
    ∃ raw, s.Leaves h o c d raw ∧ Report.ofRaw raw = .ok r := by
  rw [fst_followUp] at hr
  obtain ⟨raw, hraw, hr⟩ := TestBench.eq_ok_of_bind hr
  exact ⟨raw, execute_eq_ok_iff.mp hraw, hr⟩

end Session

/-- The configuration of a run that may ask for its session to be kept. -/
def Config.keeping (c : Config) (keep : Bool) : Config :=
  { c with harness := { c.harness with keepSessions := c.harness.keepSessions || keep } }

namespace Printed

@[simp] theorem exitCode_ofAnswer (p : Screen.Palette) (format : Format) (a : RunAnswer) :
    (ofAnswer p format a).exitCode = a.exitCode := by
  cases format <;> rfl

end Printed

namespace Command

variable {h : Host} {c : Config} {source : CheckSource} {id : Text} {timeout : Option UInt64}
  {o : RunOptions} {keep : Bool} {d d' : Disk} {e : Error} {r : Report}

/-- The session of a run with its program, up to the start of the runner. -/
def prepared (h : Host) (c : Config) (source : CheckSource) (id : Text) (timeout : Option UInt64) :
    Action Session := do
  let (set, url) ← source.load h.cwd
  let base ← validBase url
  let program ← compileChecks timeout base set
  Session.create h.cwd (c.harness.sessionsDir.getD h.sessionsDir) id program c.harness.keepSessions

/-- A run in which a session is prepared and its runner leaves `raw`. -/
def Completes (h : Host) (c : Config) (source : CheckSource) (id : Text) (o : RunOptions) (d : Disk)
    (raw : RawOutput) : Prop :=
  ∃ s d₁, prepared h c source id o.timeoutMs d = (.ok s, d₁) ∧ Session.Leaves h o c s d₁ raw

theorem report_eq_prepared : report h c source id o keep d =
    (prepared h (c.keeping keep) source id o.timeoutMs >>= Session.followUp h o (c.keeping keep))
      d := by
  simp only [prepared, bind_assoc]
  rfl

theorem prepared_of_isValidation (h₁ : prepared h c source id timeout d = (.error e, d'))
    (he : e.isValidation = true) :
    d' = d := by
  rcases Action.error_of_bind h₁ with hload | ⟨⟨set, url⟩, d₁, hload, hrest⟩
  · have hdisk := source.load_disk h.cwd d
    rwa [hload] at hdisk
  obtain rfl : d₁ = d := by
    have hdisk := source.load_disk h.cwd d
    rwa [hload] at hdisk
  rcases Action.error_of_bind hrest with hbase | ⟨base, d₂, hbase, hrest⟩
  · exact (Prod.mk.inj hbase).2.symm
  obtain rfl := (Action.eq_ok_of_lift hbase).2
  rcases Action.error_of_bind hrest with hcompile | ⟨program, d₃, hcompile, hcreate⟩
  · exact (Prod.mk.inj hcompile).2.symm
  obtain rfl := (Action.eq_ok_of_lift hcompile).2
  exact Session.create_of_isValidation hcreate he

theorem prepared_ne_overflow (h₁ : (prepared h c source id timeout d).1 = .error e) :
    e ≠ .overflow := by
  have hpair :
      prepared h c source id timeout d = (.error e, (prepared h c source id timeout d).2) :=
    Prod.ext h₁ rfl
  rcases Action.error_of_bind hpair with hload | ⟨⟨set, url⟩, d₁, -, hrest⟩
  · exact source.throwsOnly_load h.cwd d e (by rw [hload])
  rcases Action.error_of_bind hrest with hbase | ⟨base, d₂, -, hrest⟩
  · exact error_of_validBase (Prod.mk.inj hbase).1
  rcases Action.error_of_bind hrest with hcompile | ⟨program, d₃, -, hcreate⟩
  · obtain ⟨f, rfl⟩ := error_of_mapError (Prod.mk.inj hcompile).1
    exact nofun
  · exact Session.create_ne_overflow (d := d₃) (congrArg Prod.fst hcreate)

theorem report_of_isValidation (h₁ : report h c source id o keep d = (.error e, d'))
    (he : e.isValidation = true) (b : Behaviour) :
    report { h with behave := b } c source id o keep d = (.error e, d) := by
  rw [report_eq_prepared] at h₁ ⊢
  rcases Action.error_of_bind h₁ with hprepared | ⟨s, d₁, -, hrun⟩
  · obtain rfl := prepared_of_isValidation hprepared he
    exact Action.bind_of_error hprepared
  · rcases Session.error_of_followUp (congrArg Prod.fst hrun) with hoperational | ⟨rfl, -⟩
    · rw [hoperational.1] at he
      cases he
    · cases he

variable {raw : RawOutput}

theorem report_of_completes (h₁ : Completes h (c.keeping keep) source id o d raw) :
    (report h c source id o keep d).1 = Report.ofRaw raw := by
  obtain ⟨s, d₁, hs, hleaves⟩ := h₁
  rw [report_eq_prepared, Action.bind_of_ok hs, Session.followUp_of_leaves hleaves]

theorem report_eq_ok_iff : (report h c source id o keep d).1 = .ok r ↔
    ∃ raw, Completes h (c.keeping keep) source id o d raw ∧ Report.ofRaw raw = .ok r := by
  constructor
  · intro hr
    rw [report_eq_prepared, Action.fst_bind_eq_ok_iff] at hr
    obtain ⟨s, d₁, hs, hr⟩ := hr
    obtain ⟨raw, hleaves, hr⟩ := Session.ok_of_followUp hr
    exact ⟨raw, ⟨s, d₁, hs, hleaves⟩, hr⟩
  · rintro ⟨raw, hcompletes, hr⟩
    rw [report_of_completes hcompletes, hr]

theorem report_eq_overflow_iff : (report h c source id o keep d).1 = .error .overflow ↔
    ∃ raw, Completes h (c.keeping keep) source id o d raw ∧ Report.Overflows raw := by
  constructor
  · intro he
    have hpair :
        report h c source id o keep d = (.error .overflow, (report h c source id o keep d).2) :=
      Prod.ext he rfl
    rw [report_eq_prepared] at hpair
    rcases Action.error_of_bind hpair with hprepared | ⟨s, d₁, hs, hrun⟩
    · exact absurd rfl (prepared_ne_overflow (congrArg Prod.fst hprepared))
    · rcases Session.error_of_followUp (congrArg Prod.fst hrun) with
        hoperational | ⟨-, raw, hleaves, hsum⟩
      · exact absurd rfl hoperational.2
      · exact ⟨raw, ⟨s, d₁, hs, hleaves⟩, hsum⟩
  · rintro ⟨raw, hcompletes, hsum⟩
    rw [report_of_completes hcompletes, Report.ofRaw_eq_error_iff]
    exact ⟨rfl, hsum⟩

theorem dispatch_run_of_ok {p : Screen.Palette} {headed : Bool} {workers : Option UInt32}
    {format : Format} {junit : Option Path}
    (hr : report h c source id (optionsWith c headed workers timeout) keep d = (.ok r, d')) :
    dispatch h p c (.run source id headed workers timeout keep format junit) d =
      (.ok (.ofAnswer p format ⟨source.mode, .ok r⟩), (writeJunit h.cwd id r junit d').2) := by
  have houtcome :
      Action.outcome (report h c source id (optionsWith c headed workers timeout) keep) d =
        (.ok (.ok r), d') := by
    rw [Action.outcome, hr]
  rw [dispatch]
  dsimp only
  rw [Action.bind_of_ok houtcome]
  cases junit <;> rfl

theorem dispatch_run_of_error {p : Screen.Palette} {headed : Bool} {workers : Option UInt32}
    {format : Format} {junit : Option Path}
    (hr : report h c source id (optionsWith c headed workers timeout) keep d = (.error e, d'))
    (he : e ≠ .overflow) :
    dispatch h p c (.run source id headed workers timeout keep format junit) d =
      (.ok (.ofAnswer p format ⟨source.mode, .error e⟩), d') := by
  have houtcome :
      Action.outcome (report h c source id (optionsWith c headed workers timeout) keep) d =
        (.ok (.error e), d') := by
    rw [Action.outcome, hr]
    cases e
    case overflow => exact absurd rfl he
    all_goals rfl
  rw [dispatch]
  dsimp only
  rw [Action.bind_of_ok houtcome]
  rfl

theorem dispatch_run_of_overflow {p : Screen.Palette} {headed : Bool} {workers : Option UInt32}
    {format : Format} {junit : Option Path}
    (hr : report h c source id (optionsWith c headed workers timeout) keep d =
      (.error .overflow, d')) :
    dispatch h p c (.run source id headed workers timeout keep format junit) d =
      (.error .overflow, d') := by
  have houtcome :
      Action.outcome (report h c source id (optionsWith c headed workers timeout) keep) d =
        (.error .overflow, d') := by
    rw [Action.outcome, hr]
  exact Action.bind_of_error houtcome

theorem ok_of_report (hr : (report h c source id o keep d).1 = .ok r) : r.ok = true := by
  obtain ⟨raw, -, hr⟩ := report_eq_ok_iff.mp hr
  obtain ⟨durationMs, -, rfl⟩ := Report.ofRaw_eq_ok_iff.mp hr
  rfl

theorem single_of_report {result : Except Error Report}
    (hr : (report h c source id o keep d).1 = result) (mode : Mode) :
    RunAnswer.Single ⟨mode, result⟩ := by
  cases result with
  | ok r => exact RunAnswer.single_ok (ok_of_report hr)
  | error e => exact RunAnswer.single_error mode e

theorem ofArguments_of_dispatch {p : Screen.Palette} {args : List Text} {i : Invocation} {d₀ : Disk}
    (hparse : parse args = .ok i)
    (hconfig : Config.load h i.config (Finished.openLog h d₀) = (.ok c, d)) :
    (∀ printed, i.command.dispatch h p c d = (.ok printed, d') →
      Finished.ofArguments h p args d₀ =
        ({ stdout := printed.text, exitCode := printed.exitCode }, d')) ∧
    (i.command.dispatch h p c d = (.error .overflow, d') →
      Finished.ofArguments h p args d₀ =
        ({ stderr := Error.overflow.message ++ ['\n'], exitCode := 101 }, d')) := by
  have hperform : i.perform h p (Finished.openLog h d₀) = i.command.dispatch h p c d := by
    rw [Invocation.perform, Action.bind_of_ok hconfig]
  rw [Finished.ofArguments, hparse]
  dsimp only
  rw [hperform]
  constructor
  · intro printed hdispatch
    rw [hdispatch]
  · intro hdispatch
    rw [hdispatch]

/-- A run whose durations do not overflow has exactly one of three outcomes. There is a report
exactly if the runner leaves one that can be read, whatever its exit code. An error of validation is
found before any runner starts and leaves the disk as it is. If the durations overflow, and only
then, the process breaks off and prints nothing. -/
theorem run_has_one_outcome (h : Host) (p : Screen.Palette) (c : Config) (source : CheckSource)
    (id : Text) (headed : Bool) (workers : Option UInt32) (timeout : Option UInt64) (keep : Bool)
    (format : Format) (junit : Option Path) (d : Disk) :
    let o := optionsWith c headed workers timeout
    let result := (report h c source id o keep d).1
    let answer : RunAnswer := ⟨source.mode, result⟩
    let command : Command := .run source id headed workers timeout keep format junit
    (∀ r, result = .ok r ↔
      ∃ raw, Completes h (c.keeping keep) source id o d raw ∧ Report.ofRaw raw = .ok r) ∧
    (result = .error .overflow ↔
      ∃ raw, Completes h (c.keeping keep) source id o d raw ∧ Report.Overflows raw) ∧
    (result = .error .overflow →
      (command.dispatch h p c d).1 = .error .overflow ∧
      ∀ args i d₀, parse args = .ok i → i.command = command →
        Config.load h i.config (Finished.openLog h d₀) = (.ok c, d) →
        Finished.ofArguments h p args d₀ =
          ({ stderr := Error.overflow.message ++ ['\n'], exitCode := 101 },
            (command.dispatch h p c d).2)) ∧
    (result ≠ .error .overflow →
      (command.dispatch h p c d).1 = .ok (.ofAnswer p format answer) ∧
      (Printed.ofAnswer p format answer).exitCode = answer.exitCode ∧
      answer.Single ∧
      (∀ r, answer.report? = some r ↔ result = .ok r) ∧
      (answer.validationError?.isSome = true → ∀ b : Behaviour,
        command.dispatch { h with behave := b } p c d = (.ok (.ofAnswer p format answer), d)) ∧
      ∀ args i d₀, parse args = .ok i → i.command = command →
        Config.load h i.config (Finished.openLog h d₀) = (.ok c, d) →
        Finished.ofArguments h p args d₀ =
          ({ stdout := (Printed.ofAnswer p format answer).text, exitCode := answer.exitCode },
            (command.dispatch h p c d).2)) := by
  intro o result answer command
  refine ⟨fun r => report_eq_ok_iff, report_eq_overflow_iff, fun hresult => ?_, fun hresult => ?_⟩
  · have hdispatch :
        command.dispatch h p c d = (.error .overflow, (report h c source id o keep d).2) :=
      dispatch_run_of_overflow (Prod.ext hresult rfl)
    refine ⟨congrArg Prod.fst hdispatch, fun args i d₀ hparse hcommand hconfig => ?_⟩
    rw [← hcommand] at hdispatch ⊢
    rw [(ofArguments_of_dispatch hparse hconfig).2 hdispatch, hdispatch]
  · have hexit := Printed.exitCode_ofAnswer p format answer
    have hdispatch : (command.dispatch h p c d).1 = .ok (.ofAnswer p format answer) := by
      cases hr : result with
      | ok r =>
        rw [dispatch_run_of_ok (Prod.ext hr rfl)]
        simp only [answer, hr]
      | error e =>
        rw [dispatch_run_of_error (Prod.ext hr rfl) fun he => hresult (he ▸ hr)]
        simp only [answer, hr]
    refine ⟨hdispatch, hexit, single_of_report rfl source.mode,
      fun r => RunAnswer.report?_eq_some_iff, fun hinvalid b => ?_,
      fun args i d₀ hparse hcommand hconfig => ?_⟩
    · obtain ⟨e, he, hvalidation⟩ := RunAnswer.isSome_validationError?_iff.mp hinvalid
      simp only [answer, he]
      exact dispatch_run_of_error (report_of_isValidation (Prod.ext he rfl) hvalidation b)
        fun hover => hresult (hover ▸ he)
    · have hpair : i.command.dispatch h p c d =
          (.ok (.ofAnswer p format answer), (command.dispatch h p c d).2) := by
        rw [hcommand]
        exact Prod.ext hdispatch rfl
      rw [← hexit]
      exact (ofArguments_of_dispatch hparse hconfig).1 _ hpair

theorem prepared_of_load {set : CheckSet} {url base : Text} {program : Program}
    (hload : source.load h.cwd d = (.ok (set, url), d)) (hbase : validBase url = .ok base)
    (hcompile : compileChecks timeout base set = .ok program) : prepared h c source id timeout d =
      Session.create h.cwd (c.harness.sessionsDir.getD h.sessionsDir) id program
        c.harness.keepSessions d := by
  rw [prepared, Action.bind_of_ok hload]
  dsimp only
  rw [hbase, Action.bind_of_ok (Action.lift_ok base d), hcompile,
    Action.bind_of_ok (Action.lift_ok program d)]

/-- A runner that leaves a value as its report for the session `a` below `/s`, and exits with
one. -/
def reporting (v : Json) : Host where
  cwd := []
  configHome := none
  dataHome := none
  tempDir := []
  search _ := some "/bin/npx".toList
  behave _ _ d := (.ok (.exited (some 1) [] []),
    d.put [['s'], ['a'], reportFileName] (.file (Text.Utf8.encode (Json.indented 0 v)) false))

/-- The session that such a runner is started for, and the disk with it. -/
def reportingSession : Session := ⟨['a'], "/s/a".toList, Api.titles pathChecks.requests, false⟩

def reportingDisk : Disk :=
  sessionsDisk.withSession [['s'], ['a']]
    (Program.sourceOf none "http://x".toList (.api pathChecks))

theorem completes_reporting {v : Json} (hwithin : Json.Within Json.depthLimit v)
    (hstable : v.Stable)
    (htext : Text.Utf8.decode? (Text.Utf8.encode (Json.indented 0 v)) = some (Json.indented 0 v)) :
    Completes (reporting v) (sessionsConfig.keeping false) (pathSource "http://x".toList) ['a']
      (optionsWith sessionsConfig false none none) sessionsDisk ⟨some v, [], [], some 1⟩ := by
  have hbase : validBase "http://x".toList = .ok "http://x".toList := rfl
  have hcompile : compileChecks none "http://x".toList (.api pathChecks) =
      .ok ⟨Program.sourceOf none "http://x".toList (.api pathChecks),
        Api.titles pathChecks.requests⟩ := by
    rw [compileChecks, compile_pathChecks]
    rfl
  have hprepared : prepared (reporting v) (sessionsConfig.keeping false)
      (pathSource "http://x".toList) ['a'] none sessionsDisk =
        Session.create [] "/s".toList ['a'] ⟨_, _⟩ false sessionsDisk :=
    prepared_of_load (load_pathSource hbase [] sessionsDisk) hbase hcompile
  have hstart : (reporting v).Startable
      (Launch.ofSession "/bin/npx".toList reportingSession
        (optionsWith sessionsConfig false none none) (sessionsConfig.keeping false))
      reportingDisk [['s'], ['a']] :=
    ⟨by decide +kernel, rfl, rfl⟩
  have hparse : Json.parse (Json.indented 0 v) = .ok v := by
    rw [Json.parse_indented hwithin, Json.mapNumbers_eq_self hwithin hstable]
  have hempty : Text.Utf8.decodeLossy [] = [] := by simp [Text.Utf8.decodeLossy, Text.Utf8.scan]
  have hleaves : Session.Leaves (reporting v) (optionsWith sessionsConfig false none none)
      (sessionsConfig.keeping false) reportingSession reportingDisk
      ⟨some v, Text.Utf8.decodeLossy [], Text.Utf8.decodeLossy [], some 1⟩ :=
    .intro (.searched (by decide) rfl) hstart rfl rfl rfl htext hparse
  rw [hempty] at hleaves
  exact ⟨_, _, hprepared.trans unused_sessionsDisk.create, hleaves⟩

def failedReport : Json := Report.testsReport [.object
  [("name".toList, .string ['a']), ("status".toList, .string "failed".toList)]]

/-- The runner exits with one because a test has failed, and there is a report. -/
theorem run_has_one_outcome_of_failure :
    ∃ r, (report (reporting failedReport) sessionsConfig (pathSource "http://x".toList) ['a']
        (optionsWith sessionsConfig false none none) false sessionsDisk).1 = .ok r ∧
      r.tests = [.failed ['a'] none none] ∧ RunAnswer.Single ⟨.api, .ok r⟩ ∧
      RunAnswer.report? ⟨.api, .ok r⟩ = some r ∧ RunAnswer.exitCode ⟨.api, .ok r⟩ = 0 := by
  have hwithin : Json.Within Json.depthLimit failedReport := by
    refine .object (by decide)
      (List.forall_mem_singleton.mpr (.array (List.forall_mem_singleton.mpr ?_)))
    exact .object (by decide)
      (List.forall_mem_cons.mpr ⟨.string .., List.forall_mem_singleton.mpr (.string ..)⟩)
  have hcompletes :=
    completes_reporting hwithin (Json.stable_of_reals fun x hx => by cases hx) (by decide +kernel)
  obtain ⟨r, hr⟩ : ∃ r, Report.ofRaw ⟨some failedReport, [], [], some 1⟩ = .ok r :=
    Report.exists_ofRaw_iff.mpr fun hsum => absurd hsum.2 (by decide +kernel)
  have htests : r.tests = [.failed ['a'] none none] := by
    rw [Report.tests_of_ofRaw hr]
    decide +kernel
  obtain ⟨hok, -, -, hanswer⟩ := run_has_one_outcome (reporting failedReport) ⟨false⟩ sessionsConfig
    (pathSource "http://x".toList) ['a'] false none none false .json none sessionsDisk
  have hresult := (hok r).mpr ⟨_, hcompletes, hr⟩
  obtain ⟨-, -, hsingle, hreport, -⟩ := hanswer fun he => by
    rw [hresult] at he
    cases he
  have hgiven := (hreport r).mpr hresult
  simp only [hresult] at hsingle hgiven
  exact ⟨r, hresult, htests, hsingle, hgiven, rfl⟩

def overflowingReport : Json := Report.testsReport
  [Report.timedTest "a" (.ofUInt64 18446744073709551615), Report.timedTest "b" (.ofUInt64 1)]

/-- The runner leaves a report that can be read, and the run has none of the outcomes. -/
theorem run_without_outcome :
    Completes (reporting overflowingReport) (sessionsConfig.keeping false)
      (pathSource "http://x".toList) ['a'] (optionsWith sessionsConfig false none none)
      sessionsDisk ⟨some overflowingReport, [], [], some 1⟩ ∧
    (dispatch (reporting overflowingReport) ⟨false⟩ sessionsConfig
      (.run (pathSource "http://x".toList) ['a'] false none none false .json none) sessionsDisk).1 =
        .error .overflow := by
  have hkeys : ["duration".toList, "name".toList, "status".toList].Pairwise (· < ·) := by decide
  have htest (name : String) (n : UInt64) : Json.Within 125 (Report.timedTest name (.ofUInt64 n)) :=
    .object hkeys (List.forall_mem_cons.mpr
      ⟨.number ..,
        List.forall_mem_cons.mpr ⟨.string .., List.forall_mem_singleton.mpr (.string ..)⟩⟩)
  have hwithin : Json.Within Json.depthLimit overflowingReport :=
    .object (by decide) (List.forall_mem_singleton.mpr (.array (List.forall_mem_cons.mpr
      ⟨htest .., List.forall_mem_singleton.mpr (htest ..)⟩)))
  have hstable : overflowingReport.Stable := Json.stable_of_reals fun x hx => by
    simp [overflowingReport, Report.testsReport, Report.timedTest, Json.numbers,
      Json.numbersOfMembers, Json.numbersOfItems, Number.ofUInt64] at hx
  have hcompletes := completes_reporting hwithin hstable (by decide +kernel)
  have hsum : Report.Overflows ⟨some overflowingReport, [], [], some 1⟩ :=
    ⟨Report.untimed_testsOnly _ (some 1), by decide +kernel⟩
  have hresult := report_eq_overflow_iff.mpr ⟨_, hcompletes, hsum⟩
  exact ⟨hcompletes, congrArg Prod.fst (dispatch_run_of_overflow (Prod.ext hresult rfl))⟩

end Command
end TestBench
