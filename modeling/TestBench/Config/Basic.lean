import TestBench.Run.Options
import TestBench.Toml.Reader

/-! The configuration: how the test runner is started, where sessions live, and the defaults of
runs. Every setting has a default of its own, and unknown settings are ignored. -/
namespace TestBench

/-- How the test runner is started. -/
structure RunnerSetup where
  program : Text := "npx".toList
  arguments : List Text := ["playwright".toList, "test".toList]
  workingDir : Option Path := none
  environment : List (Text × Text) := []
deriving DecidableEq

/-- Where sessions live, whether they stay, and how long a runner may take. -/
structure HarnessSetup where
  sessionsDir : Option Path := none
  keepSessions : Bool := false
  processTimeout : UInt64 := 240
deriving DecidableEq

structure Config where
  runner : RunnerSetup := {}
  harness : HarnessSetup := {}
  defaults : RunOptions := {}
deriving DecidableEq

def RunnerSetup.ofToml? (v : Toml) : Option RunnerSetup := do
  let standard : RunnerSetup := {}
  let ms ← v.fields? ["program".toList, "args".toList, "working_dir".toList, "env".toList]
  let program ← Toml.field ms "program" standard.program Toml.text?
  let arguments ← Toml.field ms "args" standard.arguments Toml.texts?
  let workingDir ← Toml.field ms "working_dir" none fun v => v.text?.map some
  let environment ← Toml.field ms "env" [] Toml.textMembers?
  return { program, arguments, workingDir, environment }

def HarnessSetup.ofToml? (v : Toml) : Option HarnessSetup := do
  let standard : HarnessSetup := {}
  let ms ← v.fields? ["sessions_dir".toList, "keep_sessions".toList, "process_timeout_secs".toList]
  let sessionsDir ← Toml.field ms "sessions_dir" none fun v => v.text?.map some
  let keepSessions ← Toml.field ms "keep_sessions" false Toml.bool?
  let processTimeout ← Toml.field ms "process_timeout_secs" standard.processTimeout fun v =>
    (v.natUpTo? (UInt64.size - 1)).map UInt64.ofNat
  return { sessionsDir, keepSessions, processTimeout }

def RunOptions.ofToml? (v : Toml) : Option RunOptions := do
  let standard : RunOptions := {}
  let ms ← v.fields? ["workers".toList, "timeout_ms".toList, "headed".toList]
  let workers ← Toml.field ms "workers" standard.workers fun v =>
    (v.natUpTo? (UInt32.size - 1)).map UInt32.ofNat
  let timeoutMs ← Toml.field ms "timeout_ms" none fun v =>
    (v.natUpTo? (UInt64.size - 1)).map fun n => some (UInt64.ofNat n)
  let headed ← Toml.field ms "headed" false Toml.bool?
  return { headed, workers, timeoutMs }

namespace Config

def ofToml? (v : Toml) : Option Config := do
  let ms ← v.fields? ["runner".toList, "harness".toList, "defaults".toList]
  let runner ← Toml.field ms "runner" {} RunnerSetup.ofToml?
  let harness ← Toml.field ms "harness" {} HarnessSetup.ofToml?
  let defaults ← Toml.field ms "defaults" {} RunOptions.ofToml?
  return { runner, harness, defaults }

/-- A usable configuration names a program and leaves it time. -/
def check (c : Config) : Except Error Config :=
  if Text.isBlankText c.runner.program then
    .error (.config "runner.program must not be empty".toList)
  else if c.harness.processTimeout = 0 then
    .error (.config "harness.process_timeout_secs must be greater than zero".toList)
  else .ok c

def parse (t : Text) : Except Error Config :=
  match (Toml.parse? t).bind ofToml? with
  | some c => c.check
  | none => .error (.configParse "not a valid configuration".toList)

end Config
end TestBench
