import TestBench.Report.Basic
import TestBench.Scenario.Form

/-! The JSON forms of results, reports and answers, and reading reports back. -/
namespace TestBench

def Json.record (ms : List (String × Json)) : Json := .object (ms.map fun (k, v) => (k.toList, v))

def Json.nat? (v : Json) : Option Nat := v.toUInt64?.map UInt64.toNat

namespace TestResult

def toJson (t : TestResult) : Json :=
  .record [("name", .string t.name), ("status", .string t.status.name),
    ("durationMs", .ofUInt64 t.durationMs), ("error", .ofOption .string t.error),
    ("errorSummary", .ofOption .string t.errorSummary)]

def ofJson? (v : Json) : Option TestResult := do
  let r ← Json.Record.ofJson? ["name".toList, "status".toList, "durationMs".toList,
    "error".toList, "errorSummary".toList] v
  let name ← r.required "name".toList Json.text?
  let status ← r.required "status".toList fun v => v.enumName?.bind Status.ofName?
  let durationMs ← r.required "durationMs".toList Json.toUInt64?
  let error ← r.optional "error".toList Json.text?
  let errorSummary ← r.optional "errorSummary".toList Json.text?
  return { name, status, durationMs, error, errorSummary }

end TestResult

namespace Summary

def toJson (s : Summary) : Json :=
  .record [("total", .ofNat s.total), ("passed", .ofNat s.passed), ("failed", .ofNat s.failed),
    ("skipped", .ofNat s.skipped), ("durationMs", .ofUInt64 s.durationMs)]

def ofJson? (v : Json) : Option Summary := do
  let r ← Json.Record.ofJson? ["total".toList, "passed".toList, "failed".toList, "skipped".toList,
    "durationMs".toList] v
  let total ← r.required "total".toList Json.nat?
  let passed ← r.required "passed".toList Json.nat?
  let failed ← r.required "failed".toList Json.nat?
  let skipped ← r.required "skipped".toList Json.nat?
  let durationMs ← r.required "durationMs".toList Json.toUInt64?
  return { total, passed, failed, skipped, durationMs }

end Summary

namespace Report

def toJson (r : Report) : Json :=
  .object (presentMembers [("ok", some (.bool r.ok)), ("summary", some r.summary.toJson),
    ("tests", some (.array (r.tests.map TestResult.toJson))),
    ("runnerError", r.runnerError.map .string), ("tier", some (.string r.tier.name))])

def ofJson? (v : Json) : Option Report := do
  let r ← Json.Record.ofJson? ["ok".toList, "summary".toList, "tests".toList,
    "runnerError".toList, "tier".toList] v
  let ok ← r.required "ok".toList Json.bool?
  let summary ← r.required "summary".toList Summary.ofJson?
  let tests ← r.required "tests".toList (Json.listOf? TestResult.ofJson?)
  let runnerError ← r.spare "runnerError".toList Json.text?
  let tier ← r.required "tier".toList fun v => v.enumName?.bind Tier.ofName?
  return { ok, summary, tests, runnerError, tier }

end Report

def RunAnswer.toJson (a : RunAnswer) : Json :=
  .object (presentMembers [("ok", some (.bool a.ok)), ("mode", some a.mode.toJson),
    ("report", some (.ofOption Report.toJson a.report?)),
    ("runnerError", some (.ofOption .string a.runnerError?)),
    ("validationError", a.validationError?.map .string)])

end TestBench
