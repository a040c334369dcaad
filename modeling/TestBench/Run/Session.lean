import TestBench.Program.Compile
import TestBench.Run.Action

/-! Sessions: the directories in which programs are executed. Making one is exclusive, so that two
runs never share a directory, and a session that is not kept takes its directory with it. -/
namespace TestBench

namespace SessionId

def isIdChar (c : Char) : Bool := c.isAlphanum || c = '-' || c = '_' || c = '.'

/-- Ids are names of letters, digits and a few marks, and neither of the two dot names. -/
def isValid (id : Text) : Bool :=
  !id.isEmpty && id ≠ Path.current && id ≠ Path.parent && id.all isIdChar

end SessionId

/-- A directory with one compiled program. -/
structure Session where
  id : Text
  directory : Path
  units : List Text
  keep : Bool
deriving DecidableEq

namespace Session

def testFile (s : Session) : Path := Path.join s.directory testFileName

def configFile (s : Session) : Path := Path.join s.directory configFileName

def reportFile (s : Session) : Path := Path.join s.directory reportFileName

def release (cwd : Location) (s : Session) (d : Disk) : Disk :=
  if s.keep then d else d.removeTree cwd s.directory

/-- The directory of a session, which may not be there yet. -/
def makeDirectory (cwd : Location) (s : Session) : Action Unit := do
  match (← get).createDirectory cwd s.directory with
  | .ok d => set d
  | .error .alreadyExists => throw (.sessionExists s.id)
  | .error fault => throw (.io fault.message)

def writeFiles (cwd : Location) (s : Session) (p : Program) : Action Unit := do
  Action.change fun d => d.writeText cwd s.testFile p.source
  Action.change fun d => d.writeText cwd s.configFile runnerConfig

/-- A new session below a root directory; one that cannot be filled ends at once. -/
def create (cwd : Location) (root : Path) (id : Text) (p : Program) (keep : Bool) :
    Action Session := do
  unless SessionId.isValid id do throw (.invalidSession id)
  Action.ensureDirectory cwd root
  let s : Session := ⟨id, Path.join root id, p.units, keep⟩
  s.makeDirectory cwd
  Action.onError (s.writeFiles cwd p) (s.release cwd)
  return s

end Session
end TestBench
