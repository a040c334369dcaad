import TestBench.Decimal.Binary64
import TestBench.Outcome.Result
import TestBench.Text.Word

/-! What single lines of console output say: a test with its status word, a check mark with a title,
the header or the end of a failure block, counts of passed and failed tests, and elapsed times.
Letters of fixed words match without regard to case, the long s counting as an s. -/
namespace TestBench
namespace ConsoleLine

/-- Whether a character stands for a lower-case letter of a fixed word. -/
def standsFor (letter c : Char) : Bool :=
  c.toLower = letter || (letter = 's' && c.toNat = 0x17f)

/-- A fixed word at the start of a text, as it is written there, and what follows it. -/
def wordAt? : (word : Text) → Text → Option (Text × Text)
  | [], t => some ([], t)
  | _ :: _, [] => none
  | a :: word, c :: t =>
    if standsFor a c then (wordAt? word t).map fun (w, r) => (c :: w, r) else none

/-- What follows the white space at the start of a text, of which there has to be some. -/
def afterBlanks? : Text → Option Text
  | [] => none
  | c :: t => if Text.isBlank c then some (Text.trimStart t) else none

def statusWords : List Text := ["passed".toList, "failed".toList, "error".toList]

def statusWordAt? (t : Text) : Option Text :=
  (statusWords.findSome? fun w => wordAt? w t).bind fun (w, r) =>
    if Text.startsInWord r then none else some w

abbrev Named := Text × Text

def withStatus? (name rest : Text) : Option Named :=
  ((afterBlanks? rest).bind statusWordAt?).map fun w => (name, w)

def functionAt? (t : Text) : Option Named :=
  match t.span Text.isWordChar with
  | ([], _) => none
  | (name, '[' :: rest) =>
    (Text.splitOnce? ']' rest).bind fun (inside, rest) =>
      withStatus? (name ++ '[' :: inside ++ [']']) rest
  | (name, rest) => withStatus? name rest

def memberAt? (t : Text) : Option Named :=
  match t.span Text.isWordChar with
  | ([], _) => none
  | (_, ':' :: ':' :: rest) => functionAt? rest
  | _ => functionAt? t

def isPathChar (c : Char) : Bool :=
  Text.isWordChar c || c = '.' || c = '/' || c = '\\' || c = '-'

def qualified? : Text → Option Named
  | [] => none
  | c :: t =>
    ((if isPathChar c then (Text.dropPrefix? ".py::".toList t).bind memberAt? else none)).or
      (qualified? t)

def looseAt? (t : Text) : Option Named :=
  (Text.dropPrefix? "test_".toList t).bind fun t =>
    match t.span Text.isWordChar with
    | ([], _) => none
    | (name, rest) => withStatus? ("test_".toList ++ name) rest

def looseFrom? : (inWord : Bool) → Text → Option Named
  | _, [] => none
  | inWord, c :: t =>
    (if inWord then none else looseAt? (c :: t)).or (looseFrom? (Text.isWordChar c) t)

def named? (line : Text) : Option Named := (qualified? line).or (looseFrom? false line)

/-- A decimal number in ASCII digits with an optional fraction. -/
def binary64? (t : Text) : Option (Option Binary64) :=
  match Text.splitOnce? '.' t with
  | none => (Text.toNat? t).map fun n => Binary64.ofDecimal? false n 0
  | some (whole, places) =>
    (Text.toNat? (whole ++ places)).map fun n => Binary64.ofDecimal? false n (-places.length)

/-- A number of milliseconds; one beyond the range counts as the greatest. -/
def millisOf (x : Option Binary64) : UInt64 :=
  (x.map Binary64.toMillis).getD (UInt64.ofNatClamp UInt64.size)

/-- A number with an optional fraction, digits of any script, and what follows. -/
def numberAt? (t : Text) : Option (Text × Text) :=
  match t.span Text.isAnyDigit with
  | ([], _) => none
  | (whole, '.' :: rest) =>
    match rest.span Text.isAnyDigit with
    | ([], _) => some (whole, '.' :: rest)
    | (places, rest) => some (whole ++ '.' :: places, rest)
  | (whole, rest) => some (whole, rest)

/-- A line that begins with a check mark or a cross. -/
structure Checkmark where
  passed : Bool
  title : Text
  duration : Option Text
deriving DecidableEq

def mark? (c : Char) : Option Bool :=
  if c = '✓' ∨ c = '✔' ∨ c = '√' then some true
  else if c = '✗' ∨ c = '✘' ∨ c = '×' ∨ c = '✕' then some false
  else none

/-- The number in parentheses that ends a title, as in `(12 ms)`, and the title before it. -/
def titleDuration? (body : Text) : Option (Text × Text) := do
  let rest ← Text.dropPrefix? ")sm".toList body.reverse
  let (number, before) := (Text.trimStart rest).span (· ≠ '(')
  let before ← Text.dropPrefix? ['('] before
  let title ← afterBlanks? before
  match numberAt? number.reverse with
  | some (n, []) => if title.isEmpty then none else return (title.reverse, n)
  | _ => none

/-- A line of a check mark reporter: the mark, white space, a title and perhaps a duration. A title
of white space alone has to be more than the one blank after the mark. -/
def checkmark? (line : Text) : Option Checkmark :=
  match Text.trimStart line with
  | [] => none
  | c :: rest =>
    (mark? c).bind fun passed =>
      (afterBlanks? rest).bind fun body =>
        match Text.trimEnd body with
        | [] => if 1 < rest.length then some ⟨passed, [], none⟩ else none
        | body => match titleDuration? body with
          | some (title, n) => some ⟨passed, title, some n⟩
          | none => some ⟨passed, body, none⟩

/-- The milliseconds of a check mark line, zero if they are not stated in ASCII digits. -/
def Checkmark.millis (c : Checkmark) : UInt64 := ((c.duration.bind binary64?).map millisOf).getD 0

/-- The name in the header of a failure block: between two rules of five or more underscores and
white space. Three or more blanks stand for a name of one blank. -/
def blockHeader? (line : Text) : Option Text :=
  let (left, rest) := line.span (· = '_')
  let (right, before) := (Text.trimEnd rest).reverse.span (· = '_')
  if left.length < 5 ∨ right.length < 5 then none
  else if !(rest.head?.any Text.isBlank && before.head?.any Text.isBlank) then none
  else match Text.trim before.reverse with
    | [] => if 3 ≤ before.length then (before.drop 1).head?.map fun c => [c] else none
    | name => some name

def isBlockEnd (line : Text) : Bool := Text.startsWith "=====".toList line

/-- The first number that stands before white space and a fixed word; `run` holds the digits just
read, the last one first. -/
def countFrom? (word : Text) : (run : Text) → Text → Option Text
  | _, [] => none
  | run, c :: t =>
    if Text.isAnyDigit c then countFrom? word (c :: run) t
    else if !run.isEmpty && ((afterBlanks? (c :: t)).bind (wordAt? word)).isSome then
      some run.reverse
    else countFrom? word [] t

def passedCount? (line : Text) : Option Text := countFrom? "passed".toList [] line

def failedCount? (line : Text) : Option Text := countFrom? "failed".toList [] line

/-- The value of a count; one that is missing, in other digits or beyond 64 bits counts as zero. -/
def countValue (digits : Option Text) : Nat :=
  ((digits.bind Text.toNat?).filter (· < UInt64.size)).getD 0

def elapsedAt? (t : Text) : Option Text := do
  let rest ← (Text.dropPrefix? "in".toList t).bind afterBlanks?
  let (n, rest) ← numberAt? rest
  let rest ← Text.dropPrefix? ['s'] (Text.trimStart rest)
  if Text.startsInWord rest then none else some n

def lastElapsed : (inWord : Bool) → (last : Option Text) → Text → Option Text
  | _, last, [] => last
  | inWord, last, c :: t =>
    let here := if inWord then none else elapsedAt? (c :: t)
    lastElapsed (Text.isWordChar c) (here.or last) t

/-- The notice of errors while no test was collected, at the start of a text. -/
def collectionErrorAt (t : Text) : Bool :=
  Option.isSome do
    let t ← (Text.dropPrefix? "collected".toList t).bind afterBlanks?
    let t ← (Text.dropPrefix? ['0'] t).bind afterBlanks?
    let t ← Text.dropPrefix? "items".toList t
    let t ← Text.dropPrefix? ['/'] (Text.trimStart t)
    match (Text.trimStart t).span Text.isAnyDigit with
    | ([], _) => none
    | (_, t) => (afterBlanks? t).bind (Text.dropPrefix? "error".toList)

/-- Whether a text reports errors while no test was collected. -/
def hasCollectionError : Text → Bool
  | [] => false
  | c :: t => collectionErrorAt (c :: t) || hasCollectionError t

end ConsoleLine
end TestBench
