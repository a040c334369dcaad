import TestBench.Json.Record
import TestBench.Outcome.Console
import TestBench.Outcome.Structured

/-! Results from whatever a test runner left behind. Four tiers are tried in order: entries of a
structured report, its counts, the console text, and the exit code, which always gives a result. -/
namespace TestBench

/-- What a runner left behind. -/
structure RawOutput where
  structured : Option Json
  stdout : Text
  stderr : Text
  exitCode : Option Int

namespace RawOutput

/-- Both streams without control sequences, one after the other. -/
def combinedText (raw : RawOutput) : Text :=
  if raw.stderr.isEmpty then Text.Ansi.strip raw.stdout
  else if raw.stdout.isEmpty then Text.Ansi.strip raw.stderr
  else Text.Ansi.strip (raw.stdout ++ '\n' :: raw.stderr)

/-- Output read without validation; an exit code has 32 bits. -/
def ofJson? (v : Json) : Option RawOutput := do
  let r ← Json.Record.ofJson?
    ["structured".toList, "stdout".toList, "stderr".toList, "exitCode".toList] v
  let structured ← r.spare "structured".toList some
  let stdout ← r.withDefault "stdout".toList [] Json.text?
  let stderr ← r.withDefault "stderr".toList [] Json.text?
  let exitCode ← r.spare "exitCode".toList (Json.intIn? (-2147483648) 2147483647)
  return { structured, stdout, stderr, exitCode }

end RawOutput

def collectionExitCode : Int := 2

def exitCodeTests (raw : RawOutput) (text : Text) : List TestResult :=
  if ConsoleLine.hasCollectionError text ∨ raw.exitCode = some collectionExitCode then
    [.failed "collection_error".toList (Text.trimmed? text)
      (some "Test collection failed".toList)]
  else
    let output := (Text.trimmed? raw.stderr).or (Text.trimmed? raw.stdout)
    match raw.exitCode with
    | some code =>
      if code = 0 then [.passed "test_execution".toList]
      else [.failed "test_execution".toList output
        (some ("Runner exited with code ".toList ++ Text.ofInt code))]
    | none =>
      [.failed "test_execution".toList output
        (some "Runner exited without a status code".toList)]

/-- Where results come from. -/
inductive Tier where
  | structuredRich
  | structuredLegacy
  | consoleText
  | exitCode
deriving DecidableEq, Repr

namespace Tier

def all : List Tier := [structuredRich, structuredLegacy, consoleText, exitCode]

def name : Tier → Text
  | structuredRich => "structuredRich".toList
  | structuredLegacy => "structuredLegacy".toList
  | consoleText => "consoleText".toList
  | exitCode => "exitCode".toList

def ofName? (t : Text) : Option Tier := all.find? fun s => s.name = t

def label : Tier → Text
  | structuredRich => "structured-rich".toList
  | structuredLegacy => "structured-legacy".toList
  | consoleText => "console-text".toList
  | exitCode => "exit-code".toList

end Tier

/-- Results and the tier that gave them. -/
structure Normalized where
  tier : Tier
  tests : List TestResult
deriving DecidableEq

def normalize (raw : RawOutput) : Normalized :=
  match raw.structured.bind Structured.richTests with
  | some tests => ⟨.structuredRich, tests⟩
  | none =>
    match raw.structured.bind Structured.legacyTests with
    | some tests => ⟨.structuredLegacy, tests⟩
    | none =>
      let text := raw.combinedText
      match Console.consoleTests text with
      | some tests => ⟨.consoleText, tests⟩
      | none => ⟨.exitCode, exitCodeTests raw text⟩

end TestBench
