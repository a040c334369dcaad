import TestBench.Proofs.Json.Lookup
import TestBench.Proofs.Program.ApiText
import TestBench.Proofs.Program.Lines

/-! The lines of an API program. They depend on a request by its verb, its path and the text of the
body that is sent, and they tell all three. -/
namespace TestBench

open Literals

theorem List.map_eq_of_flatMap_eq {f : α → List β} {n : Nat} (hn : 0 < n)
    (hlen : ∀ a, (f a).length = n) {as bs : List α} (h : as.flatMap f = bs.flatMap f) :
    as.map f = bs.map f := by
  induction as generalizing bs with
  | nil =>
    cases bs with
    | nil => rfl
    | cons b bs =>
      have hcount := congrArg List.length h
      simp only [List.flatMap_nil, List.flatMap_cons, List.length_nil, List.length_append,
        hlen] at hcount
      omega
  | cons a as ih =>
    cases bs with
    | nil =>
      have hcount := congrArg List.length h
      simp only [List.flatMap_nil, List.flatMap_cons, List.length_nil, List.length_append,
        hlen] at hcount
      omega
    | cons b bs =>
      rw [List.flatMap_cons, List.flatMap_cons] at h
      obtain ⟨hfirst, hrest⟩ := List.append_inj h (by rw [hlen, hlen])
      rw [List.map_cons, List.map_cons, hfirst, ih hrest]

@[simp] theorem SourceLine.text_append (l m : SourceLine) : text (l ++ m) = text l ++ text m :=
  List.flatMap_append

/-- The body that is sent for a request, as text: only some verbs carry one. -/
def Request.sentBody (r : Request) : Option Text :=
  if r.method ∈ [.post, .put, .patch] then r.body.map Json.compact else none

def Request.sent (r : Request) : Method × Text × Option Text := (r.method, r.path, r.sentBody)

namespace Api

def Test.written (t : Test) : Text × Text × Method × Text × Option Text :=
  (t.title, t.label, t.method, t.path, t.data.map Json.compact)

@[simp] theorem written_ofRequest (title : Text) (r : Request) :
    (Test.ofRequest title r).written = (title, label r, r.sent) := by
  obtain ⟨method, path, body⟩ := r
  cases method <;> rfl

def dataText (body : Option Text) : Text := body.elim [] fun b => ", data: ".toList ++ b

@[simp] theorem text_dataPieces (data : Option Json) :
    SourceLine.text (dataPieces data) = dataText (data.map Json.compact) := by
  cases data with
  | none => rfl
  | some v => simp [dataPieces, dataText, SourceLine.text, Piece.text, verbatim]

theorem dataText_injective : Function.Injective dataText := by
  intro a b h
  cases a <;> cases b <;> simp_all [dataText]

def Test.fetchLine (t : Test) : SourceLine :=
  [verbatim "const res = await request.fetch(BASE_URL + ", .quoted t.path,
    verbatim ", \x7b method: ",
    .quoted t.method.name, verbatim ", headers: HEADERS, maxRedirects: 0"] ++ dataPieces t.data ++
    [verbatim " \x7d);"]

theorem text_fetchLine (t : Test) :
    t.fetchLine.text = "const res = await request.fetch(BASE_URL + ".toList ++
      (Json.quoted t.path ++
      (", \x7b method: ".toList ++
        (Json.quoted t.method.name ++ (", headers: HEADERS, maxRedirects: 0".toList ++
        (dataText (t.data.map Json.compact) ++ " \x7d);".toList))))) := by
  rw [Test.fetchLine, SourceLine.text_append, SourceLine.text_append, text_dataPieces]
  simp only [SourceLine.text, List.flatMap_cons, List.flatMap_nil, Piece.text, verbatim,
    List.append_nil, List.append_assoc]

theorem fetchLine_injective {t u : Test} (h : t.fetchLine.text = u.fetchLine.text) :
    (t.method, t.path, t.data.map Json.compact) = (u.method, u.path, u.data.map Json.compact) := by
  rw [text_fetchLine, text_fetchLine, List.append_cancel_left_eq] at h
  obtain ⟨hpath, hrest⟩ := quoted_append_inj h
  rw [List.append_cancel_left_eq] at hrest
  obtain ⟨hmethod, hdata⟩ := quoted_append_inj hrest
  rw [List.append_cancel_left_eq, List.append_cancel_right_eq] at hdata
  rw [hpath, Method.name_injective hmethod, dataText_injective hdata]

/-- What a test makes of the answer to its request, up to its end. -/
def checks (label : Text) : List Instruction :=
  [.line [verbatim "const status = res.status();"],
    .opening [verbatim "if (status === 404) \x7b"],
    .line [verbatim "throw new Error(\"Endpoint not found (404): \" + ", .quoted label,
      verbatim ");"],
    .closing [verbatim "\x7d"],
    .opening [verbatim "if (status >= 500) \x7b"],
    .line [verbatim "const body = (await res.text()).slice(0, ", .code (Text.ofNat errorBodyLimit),
      verbatim ");"],
    .line [verbatim "throw new Error(\"Server error \" + status + \" for \" + ", .quoted label,
      verbatim " + \": \" + body);"],
    .closing [verbatim "\x7d"],
    .line [verbatim "expect(ACCEPTED_STATUSES).toContain(status);"],
    closingLine]

theorem Test.instructions_eq (timeout : Option UInt64) (t : Test) :
    t.instructions timeout =
      openingLine t.title :: (Browser.timeoutLines timeout ++
        .line t.fetchLine :: checks t.label) := rfl

def Test.lines (timeout : Option UInt64) (t : Test) : List Text :=
  Instruction.lines 0 (.blank :: t.instructions timeout)

@[simp] theorem depthAfterAll_timeoutLines (depth : Nat) (timeout : Option UInt64) :
    Instruction.depthAfterAll depth (Browser.timeoutLines timeout) = depth := by
  cases timeout <;> rfl

theorem Test.lines_eq (timeout : Option UInt64) (t : Test) :
    t.lines timeout = [] :: (openingLine t.title).lineAt 0 ::
      (Instruction.lines 1 (Browser.timeoutLines timeout) ++
        Instruction.placed 1 t.fetchLine.text :: Instruction.lines 1 (checks t.label)) := by
  rw [lines, Test.instructions_eq, Instruction.lines, Instruction.lines]
  change _ :: _ :: Instruction.lines 1 _ = _
  rw [Instruction.lines_append, depthAfterAll_timeoutLines]
  rfl

@[simp] theorem lines_tests (timeout : Option UInt64) (ts : List Test) :
    Instruction.lines 0 (ts.flatMap fun t => .blank :: t.instructions timeout) =
      ts.flatMap (Test.lines timeout) := by
  have hdepth : ∀ t : Test, Instruction.depthAfterAll 0 (.blank :: t.instructions timeout) = 0 := by
    intro t
    cases timeout <;> rfl
  induction ts with
  | nil => rfl
  | cons t ts ih =>
    rw [List.flatMap_cons, List.flatMap_cons, Instruction.lines_append, hdepth, ih, Test.lines]

@[simp] theorem length_lines_test (timeout : Option UInt64) (t : Test) :
    (t.lines timeout).length = (Instruction.lines 1 (Browser.timeoutLines timeout)).length +
      13 := by
  rw [Test.lines_eq]
  simp only [List.length_cons, List.length_append]
  rfl

theorem lines_eq_of_written_eq {timeout : Option UInt64} {t u : Test} (h : t.written = u.written) :
    t.lines timeout = u.lines timeout := by
  simp only [Test.written, Prod.mk.injEq] at h
  obtain ⟨htitle, hlabel, hmethod, hpath, hdata⟩ := h
  have hfetch : t.fetchLine.text = u.fetchLine.text := by
    rw [text_fetchLine, text_fetchLine, hmethod, hpath, hdata]
  rw [Test.lines_eq, Test.lines_eq, htitle, hlabel, hfetch]

theorem sent_eq_of_lines_eq {timeout : Option UInt64} {t u : Test}
    (h : t.lines timeout = u.lines timeout) :
    (t.method, t.path, t.data.map Json.compact) = (u.method, u.path, u.data.map Json.compact) := by
  rw [Test.lines_eq, Test.lines_eq] at h
  -- The lines of the time limit are the same on both sides and cancel.
  have hrest := List.append_cancel_left (List.cons.inj (List.cons.inj h).2).2
  exact fetchLine_injective (Instruction.placed_injective 1 (List.cons.inj hrest).1)

end Api
end TestBench
