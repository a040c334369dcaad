import TestBench.Text.Basic

/-! What can go wrong outside the checks themselves. A failing test is never an error. Validation
errors are found before anything is executed; all others leave a run without a readable report. -/
namespace TestBench

/-- The causes of a run, or a command, that ends without a result. -/
inductive Error where
  | validation (reason : Text)
  | compile (reason : Text)
  | invalidSession (id : Text)
  | sessionExists (id : Text)
  | runnerNotFound (program hint : Text)
  | runnerSpawn (reason : Text)
  | runnerTimeout (seconds : UInt64)
  | cancelled
  | reportUnreadable (path reason : Text)
  | config (reason : Text)
  | configParse (reason : Text)
  | io (reason : Text)
  | fileRead (path reason : Text)
  /-- A sum that 64 bits cannot hold. The program breaks off there, and no answer tells of it. -/
  | overflow
deriving DecidableEq

namespace Error

def message : Error → Text
  | validation r => "Validation failed: ".toList ++ r
  | compile r => "Compilation failed: ".toList ++ r
  | invalidSession id =>
    "Invalid session id '".toList ++ id ++ "'. Use letters, digits, '-', '_' or '.'".toList
  | sessionExists id =>
    "Session '".toList ++ id ++
      "' already has a working directory. Session ids must be unique per run".toList
  | runnerNotFound program hint =>
    "Test runner '".toList ++ program ++
      "' not found. Install it or set [runner] program in ".toList ++ hint
  | runnerSpawn r => "Failed to start test runner: ".toList ++ r
  | runnerTimeout s =>
    "Test runner timed out after ".toList ++ Text.ofNat s.toNat ++
      " seconds and was killed".toList
  | cancelled => "Run cancelled; the test runner was stopped".toList
  | reportUnreadable path r =>
    "Runner report at '".toList ++ path ++ "' is unreadable: ".toList ++ r
  | config r => "Configuration error: ".toList ++ r
  | configParse r => "Invalid configuration file: ".toList ++ r
  | io r => "IO error: ".toList ++ r
  | fileRead path r => "Failed to read file '".toList ++ path ++ "': ".toList ++ r
  | overflow => "attempt to add with overflow".toList

/-- Whether the error was found before anything was executed. -/
def isValidation : Error → Bool
  | validation _ | invalidSession _ => true
  | _ => false

end Error
end TestBench
