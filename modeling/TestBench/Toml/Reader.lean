import TestBench.Toml.Scalar

/-! Reading TOML documents: lines with pairs of keys and values, under headers. -/
namespace TestBench
namespace Toml

/-- How many levels of keys, arrays and braces there may be. -/
def depthLimit : Nat := 79

def skipBlank : (comment : Bool) → Text → Option Text
  | _, [] => some []
  | _, '\n' :: t => skipBlank false t
  | _, '\r' :: '\n' :: t => skipBlank false t
  | true, c :: t => if isPlain c then skipBlank true t else none
  | false, '#' :: t => skipBlank true t
  | false, c :: t => if isSpace c then skipBlank false t else some (c :: t)

def lineEnd? (t : Text) : Option Text :=
  let t := match skipSpace t with
    | '#' :: t => t.dropWhile isPlain
    | t => t
  match t with
  | [] => some []
  | t => newline? t

def isKeyChar (c : Char) : Bool := c.isAlphanum || c = '_' || c = '-'

def readKey : Text → Option (Text × Text)
  | '"' :: t => readBasic t
  | '\'' :: t => readLiteral t
  | t =>
    match t.span isKeyChar with
    | ([], _) => none
    | (k, t) => some (k, t)

/-- Keys with dots between them, and the blanks after them. -/
def readKeys : (limit : Nat) → Text → Option (List Text × Text)
  | 0, _ => none
  | limit + 1, t => do
    let (k, t) ← readKey (skipSpace t)
    match skipSpace t with
    | '.' :: t =>
      let (ks, t) ← readKeys limit t
      return (k :: ks, t)
    | t => return ([k], t)

def skipEquals? : Text → Option Text
  | '=' :: t => some (skipSpace t)
  | _ => none

mutual

/-- A value, with `depth` further levels allowed. -/
def readValue : (fuel depth : Nat) → Text → Option (Toml × Text)
  | 0, _, _ => none
  | fuel + 1, depth, t =>
    match t, depth with
    | '[' :: t, depth + 1 => do
      match ← skipBlank false t with
      | ']' :: t => return (.array [], t)
      | t =>
        let (vs, t) ← readItems fuel depth t
        return (.array vs, t)
    | '\x7b' :: t, depth + 1 =>
      match skipSpace t with
      | '\x7d' :: t => some (.table .braces [], t)
      | t => do
        let (pairs, t) ← readPairs fuel depth t
        let ms ← insertAll pairs []
        return (.table .braces ms, t)
    | t, _ => readScalar t

/-- The items of an array up to its closing bracket, before which a comma may stand. -/
def readItems : (fuel depth : Nat) → Text → Option (List Toml × Text)
  | 0, _, _ => none
  | fuel + 1, depth, t => do
    let (v, t) ← readValue fuel depth t
    match ← skipBlank false t with
    | ']' :: t => return ([v], t)
    | ',' :: t =>
      match ← skipBlank false t with
      | ']' :: t => return ([v], t)
      | t =>
        let (vs, t) ← readItems fuel depth t
        return (v :: vs, t)
    | _ => none

def readPairs : (fuel depth : Nat) → Text → Option (List (List Text × Toml) × Text)
  | 0, _, _ => none
  | fuel + 1, depth, t => do
    let (ks, t) ← readKeys depthLimit t
    let (v, t) ← readValue fuel depth (← skipEquals? t)
    match skipSpace t with
    | '\x7d' :: t => return ([(ks, v)], t)
    | ',' :: t =>
      let (pairs, t) ← readPairs fuel depth t
      return ((ks, v) :: pairs, t)
    | _ => none

end

/-- A line that is neither blank nor only a comment. -/
inductive Line where
  | pair (keys : List Text) (value : Toml)
  | header (repeated : Bool) (keys : List Text)

def readHeader (repeated : Bool) (t : Text) : Option (Line × Text) := do
  let (ks, t) ← readKeys depthLimit t
  let t ← Text.dropPrefix? (if repeated then "]]".toList else "]".toList) t
  return (.header repeated ks, t)

def readPair (t : Text) : Option (Line × Text) := do
  let (ks, t) ← readKeys depthLimit t
  let t ← skipEquals? t
  let (v, t) ← readValue (2 * t.length + 2) depthLimit t
  return (.pair ks v, t)

def readLine : Text → Option (Line × Text)
  | '[' :: '[' :: t => readHeader true t
  | '[' :: t => readHeader false t
  | t => readPair t

/-- The lines of a document; each one takes at least one character. -/
def readLines : (fuel : Nat) → Text → Option (List Line)
  | 0, _ => some []
  | fuel + 1, t =>
    match skipSpace t with
    | [] => some []
    | t =>
      match lineEnd? t with
      | some t => readLines fuel t
      | none => do
        let (l, t) ← readLine t
        let ls ← readLines fuel (← lineEnd? t)
        return l :: ls

/-- The pairs before the first header, and the sections. -/
def grouped : List Line → List (List Text × Toml) × List Section
  | [] => ([], [])
  | .pair ks v :: ls =>
    let (pairs, sections) := grouped ls
    ((ks, v) :: pairs, sections)
  | .header repeated ks :: ls =>
    let (pairs, sections) := grouped ls
    ([], ⟨repeated, ks, pairs⟩ :: sections)

def dropMark : Text → Text
  | c :: t => if c.toNat = 0xfeff then t else c :: t
  | [] => []

def parse? (t : Text) : Option Toml := do
  let t := dropMark t
  let (pairs, sections) := grouped (← readLines (t.length + 1) t)
  return .table .header (← build pairs sections)

end Toml
end TestBench
