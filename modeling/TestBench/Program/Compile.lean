import TestBench.Program.Api

/-! Programs compiled from checks, with the titles of their tests, and the fixed configuration of
the test runner. -/
namespace TestBench

def testFileName : Text := "scenarios.spec.mjs".toList

def configFileName : Text := "playwright.config.mjs".toList

def reportFileName : Text := "report.json".toList

/-- A compiled test program and the titles of its tests, in order. -/
structure Program where
  source : Text
  units : List Text
deriving DecidableEq

/-- Why checks cannot be compiled. -/
inductive CompileFault where
  | noRequests
  | noScenarios
deriving DecidableEq, Repr

def CompileFault.message : CompileFault → Text
  | noRequests => "no API requests to compile".toList
  | noScenarios => "no UI scenarios to compile".toList

namespace Program

def noticeLine : Instruction := .line [verbatim "// Generated by qa-harness. Do not edit."]

def header : List Instruction :=
  [noticeLine, .line [verbatim "import \x7b test, expect \x7d from \"@playwright/test\";"], .blank]

def body (timeout : Option UInt64) (base : Text) : CheckSet → List Instruction
  | .api suite => Api.instructions timeout base suite
  | .ui scenarios => Browser.instructions timeout (Browser.tests base scenarios)

def unitsOf : CheckSet → List Text
  | .api suite => Api.titles suite.requests
  | .ui scenarios => Titles.distinct (scenarios.map (·.name))

/-- The program of the checks; there has to be at least one. -/
def compile (timeout : Option UInt64) (base : Text) (set : CheckSet) :
    Except CompileFault Program :=
  match set with
  | .api ⟨[], _⟩ => .error .noRequests
  | .ui [] => .error .noScenarios
  | set => .ok ⟨Instruction.render 0 (header ++ body timeout base set), unitsOf set⟩

end Program

/-- The configuration that is written next to every test program. -/
def runnerConfig : Text :=
  Instruction.render 0
    [Program.noticeLine,
      .opening [verbatim "export default \x7b"],
      .line [verbatim "testDir: \".\","],
      .line [verbatim "testMatch: ", .quoted testFileName, verbatim ","],
      .line [verbatim "outputDir: \"test-results\","],
      .line [verbatim "fullyParallel: true,"],
      .line [verbatim "retries: 0,"],
      .line [verbatim "reporter: [[\"json\", \x7b outputFile: ", .quoted reportFileName,
        verbatim " \x7d]],"],
      .line [verbatim "use: \x7b headless: true \x7d,"],
      .closing [verbatim "\x7d;"]]

end TestBench
