import TestBench.Run.Session

/-! The options of a run, and the flags by which the test runner learns them. -/
namespace TestBench

structure RunOptions where
  headed : Bool := false
  workers : UInt32 := 1
  /-- The limit of each test in milliseconds. -/
  timeoutMs : Option UInt64 := none
deriving DecidableEq

namespace RunOptions

/-- The flags that come after the configured arguments; there is at least one worker. -/
def flags (o : RunOptions) (s : Session) : List Text :=
  ["--config=".toList ++ s.configFile, "--reporter=json".toList] ++
    (if o.headed then ["--headed".toList] else []) ++
    ["--workers=".toList ++ Text.ofNat (max o.workers.toNat 1)] ++
    (o.timeoutMs.map fun ms => "--timeout=".toList ++ Text.ofNat ms.toNat).toList

end RunOptions
end TestBench
