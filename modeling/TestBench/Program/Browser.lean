import TestBench.Program.Source
import TestBench.Program.Titles
import TestBench.Scenario.Address
import TestBench.Scenario.Model

/-! Browser tests. A scenario becomes one test that opens the start page and then makes one
statement for each step, in order. -/
namespace TestBench
namespace Browser

/-- The statements of a browser test. -/
inductive Statement where
  | goto (target : Text)
  | click (selector : Text)
  | fill (selector value : Text)
  | press (selector key : Text)
  | pause (ms : UInt64)
  | awaitVisible (selector : Text)
  | refuseWait
  | seeVisible (selector : Text)
  | seeHidden (selector : Text)
  | seeText (selector value : Text)
  | seeUrl (value : Text)
  | seeTitle (value : Text)
deriving DecidableEq

/-- The statement of a step: targets are resolved, and a time to wait leaves the selector aside. -/
def Statement.ofStep (base : Text) : Step → Statement
  | .goto path => goto (Address.resolve base path)
  | .click s => click s
  | .fill s v => fill s v
  | .press s k => press s k
  | .waitFor _ (some ms) => pause ms
  | .waitFor (some s) none => awaitVisible s
  | .waitFor none none => refuseWait
  | .expectVisible s => seeVisible s
  | .expectHidden s => seeHidden s
  | .expectTextContains s v => seeText s v
  | .expectUrlContains v => seeUrl v
  | .expectTitleContains v => seeTitle v

def Statement.line : Statement → SourceLine
  | goto t => [verbatim "await page.goto(", .quoted t, verbatim ");"]
  | click s => [verbatim "await page.locator(", .quoted s, verbatim ").click();"]
  | fill s v =>
    [verbatim "await page.locator(", .quoted s, verbatim ").fill(", .quoted v, verbatim ");"]
  | press s k =>
    [verbatim "await page.locator(", .quoted s, verbatim ").press(", .quoted k, verbatim ");"]
  | pause ms =>
    [verbatim "await page.waitForTimeout(", .code (Text.ofNat ms.toNat), verbatim ");"]
  | awaitVisible s =>
    [verbatim "await page.locator(", .quoted s,
      verbatim ").waitFor(\x7b state: \"visible\" \x7d);"]
  | refuseWait => [verbatim "throw new Error(\"waitFor step needs a selector or ms\");"]
  | seeVisible s =>
    [verbatim "await expect(page.locator(", .quoted s, verbatim ")).toBeVisible();"]
  | seeHidden s =>
    [verbatim "await expect(page.locator(", .quoted s, verbatim ")).toBeHidden();"]
  | seeText s v =>
    [verbatim "await expect(page.locator(", .quoted s, verbatim ").first()).toContainText(",
      .quoted v, verbatim ");"]
  | seeUrl v =>
    [verbatim "await expect.poll(() => page.url()).toContain(", .quoted v, verbatim ");"]
  | seeTitle v =>
    [verbatim "await expect.poll(() => page.title()).toContain(", .quoted v, verbatim ");"]

/-- A browser test: its title, the page it opens, and its statements with the kinds of their
steps. -/
structure Test where
  title : Text
  start : Text
  body : List (StepKind × Statement)
deriving DecidableEq

def Test.ofScenario (base title : Text) (s : Scenario) : Test :=
  ⟨title, Address.resolve base s.startPath, s.steps.map fun st => (st.kind, .ofStep base st)⟩

/-- The tests of a list of scenarios, with distinct titles. -/
def tests (base : Text) (scenarios : List Scenario) : List Test :=
  (Titles.distinct (scenarios.map (·.name))).zipWith (Test.ofScenario base) scenarios

/-- The comment and the statement of each step, numbered from `n` on. -/
def bodyLines : (n : Nat) → List (StepKind × Statement) → List Instruction
  | _, [] => []
  | n, (kind, s) :: rest =>
    .line [verbatim "// step ", .code (Text.ofNat n), verbatim ": ", .code kind.name] ::
      .line s.line :: bodyLines (n + 1) rest

/-- The line that sets the time limit of a test, if there is one. -/
def timeoutLines : Option UInt64 → List Instruction
  | none => []
  | some ms => [.line [verbatim "test.setTimeout(", .code (Text.ofNat ms.toNat), verbatim ");"]]

def Test.instructions (timeout : Option UInt64) (t : Test) : List Instruction :=
  .opening [verbatim "test(", .quoted t.title, verbatim ", async (\x7b page \x7d) => \x7b"] ::
    timeoutLines timeout ++ .line (Statement.goto t.start).line :: bodyLines 1 t.body ++
    [.closing [verbatim "\x7d);"]]

/-- The tests one after another, with blank lines between them. -/
def instructions (timeout : Option UInt64) (ts : List Test) : List Instruction :=
  List.intercalate [.blank] (ts.map (Test.instructions timeout))

end Browser
end TestBench
