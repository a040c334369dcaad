import TestBench.Report.Basic
import TestBench.Run.Launch
import TestBench.Scenario.Address

/-! A whole run: checks are compiled, executed in a session of their own, and reported. -/
namespace TestBench

def compileChecks (timeout : Option UInt64) (base : Text) (set : CheckSet) :
    Except Error Program :=
  (Program.compile timeout base set).mapError fun f => .compile f.message

def validBase (url : Text) : Except Error Text :=
  match Address.checkBase? url with
  | some base => .ok base
  | none => .error (.validation "baseUrl is required".toList)

/-- The report on checks. The session ends with the run, however that ends. -/
def runChecks (h : Host) (set : CheckSet) (baseUrl id : Text) (o : RunOptions) (c : Config) :
    Action Report := do
  let base ← validBase baseUrl
  let program ← compileChecks o.timeoutMs base set
  let s ← Session.create h.cwd (c.harness.sessionsDir.getD h.sessionsDir) id program
    c.harness.keepSessions
  let raw ← Action.cleaningUp (s.execute h o c) (s.release h.cwd)
  Report.ofRaw raw

end TestBench
