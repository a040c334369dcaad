import TestBench.Error
import TestBench.Files.Disk

/-! Actions on a disk. An action that fails leaves the disk as it is by then, so whoever has made
something cleans it up. -/
namespace TestBench

/-- A step that reads and changes the disk and may end in an error. -/
abbrev Action := ExceptT Error (StateM Disk)

namespace Action

/-- A change of the disk; a fault is an error of its own. -/
def change (f : Disk → Except DiskFault Disk) : Action Unit := do
  match f (← get) with
  | .ok d => set d
  | .error fault => throw (.io fault.message)

/-- A directory, unless something is there already. -/
def ensureDirectory (cwd : Location) (p : Path) : Action Unit := do
  let d ← get
  unless d.contains cwd p do
    let (result, d) := d.createDirectories cwd p
    set d
    match result with
    | .ok _ => return
    | .error fault => throw (.io fault.message)

def readText (cwd : Location) (p : Path) (onFault : DiskFault → Error) : Action Text := do
  match (← get).readText cwd p with
  | .ok t => return t
  | .error fault => throw (onFault fault)

/-- An action, and what has to be done on the disk afterwards, however it ends. -/
def cleaningUp (a : Action α) (f : Disk → Disk) : Action α := fun d =>
  let (result, d) := a d
  (result, f d)

/-- An action, and what has to be done on the disk if it fails. -/
def onError (a : Action α) (f : Disk → Disk) : Action α := fun d =>
  match a d with
  | (.ok x, d) => (.ok x, d)
  | (.error e, d) => (.error e, f d)

end Action
end TestBench
