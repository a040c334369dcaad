import TestBench.Json.Printer
import TestBench.Report.Form
import TestBench.Text.Ansi

/-! Reports and answers as text for a terminal, with or without colors, and as JSON documents. -/
namespace TestBench
namespace Screen

/-- Whether colors are switched on. -/
structure Palette where
  color : Bool

def sequence (codes : String) : Text := Text.Ansi.escape :: '[' :: codes.toList ++ ['m']

def restyle (style : Text) : Text → Text
  | e :: '[' :: '0' :: 'm' :: t =>
    if e = Text.Ansi.escape then e :: '[' :: '0' :: 'm' :: style ++ restyle style t
    else e :: restyle style ('[' :: '0' :: 'm' :: t)
  | c :: t => c :: restyle style t
  | [] => []

def paint (p : Palette) (codes : String) (t : Text) : Text :=
  if p.color then sequence codes ++ restyle (sequence codes) t ++ sequence "0" else t

def red : String := "31"

def green : String := "32"

def yellow : String := "33"

def dimmed : String := "2"

def boldRed : String := "1;31"

def boldGreen : String := "1;32"

def printed (lines : List Text) : Text := lines.flatMap fun l => l ++ ['\n']

def testLines (p : Palette) (t : TestResult) : List Text :=
  let line (codes : String) (mark : Text) (rest : Text) : Text :=
    "  ".toList ++ paint p codes mark ++ ' ' :: t.name ++ rest
  let duration :=
    ' ' :: paint p dimmed ('(' :: Text.ofNat t.durationMs.toNat ++ " ms)".toList)
  let failure (label : Text) : List Text :=
    line red "✗".toList (paint p red label ++ duration) ::
      (Text.lines (t.errorSummary.getD [])).map fun l => "      ".toList ++ paint p dimmed l
  match t.status with
  | .passed => [line green "✓".toList duration]
  | .skipped => [line yellow "-".toList (' ' :: paint p dimmed "skipped".toList)]
  | .unknown => [line yellow "?".toList duration]
  | .failed => failure []
  | .timedOut | .interrupted => failure (" [".toList ++ t.status.name ++ [']'])

def summaryText (s : Summary) : Text :=
  Text.ofNat s.total ++ " tests: ".toList ++ Text.ofNat s.passed ++ " passed, ".toList ++
    Text.ofNat s.failed ++ " failed, ".toList ++ Text.ofNat s.skipped ++ " skipped in ".toList ++
    Text.ofNat s.durationMs.toNat ++ " ms".toList

def report (p : Palette) (r : Report) : Text :=
  printed (r.tests.flatMap (testLines p) ++
    [[], paint p (if r.hasFailures then boldRed else boldGreen) (summaryText r.summary)] ++
    (r.runnerError.map fun e => paint p yellow "Runner reported:".toList ++ ' ' :: e).toList)

def answer (p : Palette) (a : RunAnswer) : Text :=
  match a.result with
  | .ok r => report p r
  | .error e =>
    let label := if e.isValidation then "Invalid scenario:" else "Run failed:"
    printed [paint p boldRed label.toList ++ ' ' :: e.message]

def document (v : Json) : Text := printed [v.pretty]

end Screen
end TestBench
