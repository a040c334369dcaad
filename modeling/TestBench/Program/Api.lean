import TestBench.Program.Browser
import TestBench.Scenario.Form

/-! API tests. One test asks whether the base address answers at all, then one test is made for each
request. Redirects are not followed, so that their statuses can be seen. -/
namespace TestBench
namespace Api

def reachableStatuses : List Nat := [200, 201, 202, 204, 301, 302, 303, 307, 308, 400, 401, 403]

def acceptedStatuses : List Nat :=
  [200, 201, 202, 204, 301, 302, 303, 307, 308, 400, 401, 403, 405, 409, 422]

def errorBodyLimit : Nat := 300

def reachabilityTitle : Text := "base URL reachable".toList

/-- A request test: its title, its label, and what it sends. -/
structure Test where
  title : Text
  label : Text
  method : Method
  path : Text
  data : Option Json

def label (r : Request) : Text := r.method.name ++ ' ' :: r.path

/-- The body is sent only with verbs that carry one. -/
def Test.ofRequest (title : Text) (r : Request) : Test :=
  ⟨title, Api.label r, r.method, r.path, if r.method.carriesBody then r.body else none⟩

/-- The titles of all tests, that of the first one included. -/
def titles (requests : List Request) : List Text :=
  Titles.distinct (reachabilityTitle :: requests.map label)

def tests (requests : List Request) : List Test :=
  (titles requests).tail.zipWith Test.ofRequest requests

def constants (base : Text) (headers : Headers) : List Instruction :=
  [.line [verbatim "const BASE_URL = ", .quoted base, verbatim ";"],
    .line [verbatim "const HEADERS = ", .value headers.toJson, verbatim ";"],
    .line [verbatim "const REACHABLE_STATUSES = ", .code (statusList reachableStatuses),
      verbatim ";"],
    .line [verbatim "const ACCEPTED_STATUSES = ", .code (statusList acceptedStatuses),
      verbatim ";"],
    .blank]

def openingLine (title : Text) : Instruction :=
  .opening [verbatim "test(", .quoted title, verbatim ", async (\x7b request \x7d) => \x7b"]

def closingLine : Instruction := .closing [verbatim "\x7d);"]

def reachabilityTest (timeout : Option UInt64) (title : Text) : List Instruction :=
  openingLine title :: Browser.timeoutLines timeout ++
    [.line [verbatim ("const res = await request.get(BASE_URL + \"/\", " ++
        "\x7b headers: HEADERS, maxRedirects: 0 \x7d);")],
      .line [verbatim "expect(REACHABLE_STATUSES).toContain(res.status());"],
      closingLine]

/-- The data of a request, if any is sent. -/
def dataPieces : Option Json → List Piece
  | none => []
  | some v => [verbatim ", data: ", .value v]

def Test.instructions (timeout : Option UInt64) (t : Test) : List Instruction :=
  openingLine t.title :: Browser.timeoutLines timeout ++
    [.line ([verbatim "const res = await request.fetch(BASE_URL + ", .quoted t.path,
        verbatim ", \x7b method: ", .quoted t.method.name,
        verbatim ", headers: HEADERS, maxRedirects: 0"] ++ dataPieces t.data ++
        [verbatim " \x7d);"]),
      .line [verbatim "const status = res.status();"],
      .opening [verbatim "if (status === 404) \x7b"],
      .line [verbatim "throw new Error(\"Endpoint not found (404): \" + ", .quoted t.label,
        verbatim ");"],
      .closing [verbatim "\x7d"],
      .opening [verbatim "if (status >= 500) \x7b"],
      .line [verbatim "const body = (await res.text()).slice(0, ",
        .code (Text.ofNat errorBodyLimit), verbatim ");"],
      .line [verbatim "throw new Error(\"Server error \" + status + \" for \" + ",
        .quoted t.label, verbatim " + \": \" + body);"],
      .closing [verbatim "\x7d"],
      .line [verbatim "expect(ACCEPTED_STATUSES).toContain(status);"],
      closingLine]

/-- The constants, the test of the base address, and the tests of the requests after blank lines. -/
def instructions (timeout : Option UInt64) (base : Text) (suite : ApiSuite) : List Instruction :=
  constants base suite.headers ++ reachabilityTest timeout ((titles suite.requests).headD []) ++
    (tests suite.requests).flatMap fun t => .blank :: t.instructions timeout

end Api
end TestBench
