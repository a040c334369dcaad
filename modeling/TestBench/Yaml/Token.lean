import TestBench.Yaml.Scalar

/-! The tokens of YAML texts. Outside of brackets and braces, indentation opens and closes
collections. Whether a scalar is a key shows only at the colon after it, so the places where a key
may have begun are kept until then. -/
namespace TestBench
namespace Yaml

inductive Token where
  | version (major minor : Nat)
  | tagHandle (handle meaning : Text)
  | documentStart
  | documentEnd
  | sequenceStart
  | mappingStart
  | blockEnd
  | entry
  | key
  | value
  | bracketOpen
  | bracketClose
  | braceOpen
  | braceClose
  | comma
  | anchor (name : Text)
  | alias (name : Text)
  | tag (handle suffix : Text)
  | scalar (plain : Bool) (text : Text)
deriving DecidableEq

/-- A place where a key may have begun: how many tokens come before it, and where it stands. A key
that begins at the indentation of a mapping has to be one. -/
structure KeyPlace where
  required : Bool
  position : Nat
  line : Nat
  column : Nat
  index : Nat

def keyLimit : Nat := 1024

/-- Reading in progress: the text that is left and where it begins, the indentations of the open
block collections, whether a key may begin here, the places of keys for every open bracket with the
one outside of all brackets as the last, and the tokens so far, the latest first. -/
structure Scanner where
  rest : Text
  line : Nat := 0
  column : Nat := 0
  index : Nat := 0
  indents : List Nat := []
  keyAllowed : Bool := true
  places : List (Option KeyPlace) := [none]
  count : Nat := 0
  tokens : List Token := []

namespace Scanner

def inFlow (s : Scanner) : Bool := 1 < s.places.length

def advance (s : Scanner) : Scanner :=
  match s.rest with
  | [] => s
  | c :: t =>
    if isBreak c then { s with rest := t, line := s.line + 1, column := 0, index := s.index + 1 }
    else { s with rest := t, column := s.column + 1, index := s.index + 1 }

def skip : Nat → Scanner → Scanner
  | 0, s => s
  | n + 1, s => skip n s.advance

def skipTo (s : Scanner) (rest : Text) : Scanner := s.skip (s.rest.length - rest.length)

def emit (s : Scanner) (t : Token) : Scanner :=
  { s with tokens := t :: s.tokens, count := s.count + 1 }

def insertAt (s : Scanner) (position : Nat) (t : Token) : Scanner :=
  let late := s.count - position
  { s with tokens := s.tokens.take late ++ t :: s.tokens.drop late, count := s.count + 1 }

/-- Over blanks, comments and line breaks. Tabs are blanks only where no key may begin. -/
def skipGap : (fuel : Nat) → (comment : Bool) → Scanner → Scanner
  | 0, _, s => s
  | fuel + 1, comment, s =>
    match s.rest with
    | [] => s
    | c :: _ =>
      if isBreak c then
        let s := s.advance
        skipGap fuel false (if s.inFlow then s else { s with keyAllowed := true })
      else if comment || c = ' ' || (c = '\t' && (s.inFlow || !s.keyAllowed)) then
        skipGap fuel comment s.advance
      else if c = '#' then skipGap fuel true s.advance
      else s

/-- Block collections that are indented further than a column end there. -/
def closeBeyond (s : Scanner) (column : Nat) : Scanner :=
  if s.inFlow then s
  else
    let closed := s.indents.takeWhile (column < ·)
    { s with
      indents := s.indents.drop closed.length
      tokens := closed.map (fun _ => .blockEnd) ++ s.tokens
      count := s.count + closed.length }

def closeAll (s : Scanner) : Scanner :=
  if s.inFlow then s
  else
    { s with
      indents := []
      tokens := s.indents.map (fun _ => .blockEnd) ++ s.tokens
      count := s.count + s.indents.length }

def openAt (s : Scanner) (column position : Nat) (t : Token) : Scanner :=
  if s.inFlow || s.indents.head?.any (column ≤ ·) then s
  else { s.insertAt position t with indents := column :: s.indents }

def dropPlace (s : Scanner) : Option Scanner :=
  match s.places with
  | some p :: ps => if p.required then none else some { s with places := none :: ps }
  | _ => some s

/-- Keys that have grown too long, or beyond their line, are none. -/
def dropStale (s : Scanner) : Option Scanner := do
  let places ← s.places.mapM fun place =>
    match place with
    | none => some none
    | some p =>
      if p.line < s.line ∨ p.index + keyLimit < s.index then
        if p.required then none else some none
      else some (some p)
  return { s with places }

def markPlace (s : Scanner) : Option Scanner :=
  if s.keyAllowed then do
    let s ← s.dropPlace
    let required := !s.inFlow && s.indents.head? = some s.column
    let place : KeyPlace := ⟨required, s.count, s.line, s.column, s.index⟩
    return { s with places := some place :: s.places.tail }
  else some s

def openFlow (s : Scanner) (t : Token) : Option Scanner := do
  let s ← s.markPlace
  return ({ s with places := none :: s.places, keyAllowed := true }.emit t).advance

def closeFlow (s : Scanner) (t : Token) : Option Scanner := do
  let s ← s.dropPlace
  let places := if s.inFlow then s.places.tail else s.places
  return ({ s with places, keyAllowed := false }.emit t).advance

def separate (s : Scanner) : Option Scanner := do
  let s ← s.dropPlace
  return ({ s with keyAllowed := true }.emit .comma).advance

def beginPart (s : Scanner) (collection part : Token) (keyAllowed : Bool) : Option Scanner := do
  if !s.inFlow && !s.keyAllowed then failure
  let s ← (s.openAt s.column s.count collection).dropPlace
  return ({ s with keyAllowed }.emit part).advance

def beginValue (s : Scanner) : Option Scanner :=
  match s.places with
  | some p :: ps =>
    let s := (s.insertAt p.position .key).openAt p.column p.position .mappingStart
    some ({ s with places := none :: ps, keyAllowed := false }.emit .value).advance
  | _ => do
    if !s.inFlow && !s.keyAllowed then failure
    let s := s.openAt s.column s.count .mappingStart
    return ({ s with keyAllowed := !s.inFlow }.emit .value).advance

def documentMark (s : Scanner) (t : Token) : Option Scanner := do
  let s ← s.closeAll.dropPlace
  return ({ s with keyAllowed := false }.emit t).skip 3

def isNameChar (c : Char) : Bool := c.isAlphanum || c = '_' || c = '-'

/-- The name of an anchor or an alias, which has to be followed by a gap or a mark. -/
def name (s : Scanner) (make : Text → Token) : Option Scanner := do
  let s := { ← s.markPlace with keyAllowed := false }
  let (n, rest) := (s.rest.drop 1).span isNameChar
  let ended := atGap rest || rest.head?.any fun c => c ∈ "?:,]\x7d%@\x60".toList
  if n.isEmpty || !ended then failure
  return (s.skipTo rest).emit (make n)

def isTagChar (angled : Bool) (c : Char) : Bool :=
  isNameChar c || c ∈ ";/?:@&=+$.%!~*'()".toList || (angled && c ∈ ",[]".toList)

/-- The handle of a tag: an exclamation mark, and perhaps a name with another one. -/
def tagHandle (t : Text) : Text × Text :=
  match (t.drop 1).span isNameChar with
  | (n, '!' :: rest) => ('!' :: n ++ ['!'], rest)
  | (n, rest) => ('!' :: n, rest)

/-- A tag: in angle brackets, with the handle of a directive, or local. -/
def readTag : Text → Option (Token × Text)
  | '!' :: '<' :: t =>
    match t.span (isTagChar true) with
    | (c :: uri, '>' :: rest) => some (.tag [] (c :: uri), rest)
    | _ => none
  | t =>
    let (handle, rest) := tagHandle t
    let (uri, rest) := rest.span (isTagChar false)
    if handle.length > 1 ∧ handle.getLast? = some '!' then
      if uri.isEmpty then none else some (.tag handle uri, rest)
    else
      match handle.drop 1 ++ uri with
      | [] => some (.tag [] ['!'], rest)
      | suffix => some (.tag ['!'] suffix, rest)

def tag (s : Scanner) : Option Scanner := do
  let s := { ← s.markPlace with keyAllowed := false }
  let (t, rest) ← readTag s.rest
  if !(atGap rest || (s.inFlow && rest.head? = some ',')) then failure
  return (s.skipTo rest).emit t

def readVersion (t : Text) : Option (Token × Text) := do
  let (major, t) := (t.dropWhile isBlank).span Text.isDigit
  let major ← Text.toNat? major
  let t ← Text.dropPrefix? ['.'] t
  let (minor, t) := t.span Text.isDigit
  return (.version major (← Text.toNat? minor), t)

def readHandle (t : Text) : Option (Token × Text) := do
  let t := t.dropWhile isBlank
  let (handle, t) := tagHandle (← (Text.dropPrefix? ['!'] t).map ('!' :: ·))
  if handle.length > 1 ∧ handle.getLast? ≠ some '!' then failure
  if !t.head?.any isBlank then failure
  let (meaning, t) := (t.dropWhile isBlank).span (isTagChar true)
  if meaning.isEmpty || !atGap t then failure
  return (.tagHandle handle meaning, t)

def directive (s : Scanner) : Option Scanner := do
  let s ← s.closeAll.dropPlace
  let (n, t) := (s.rest.drop 1).span isNameChar
  if !t.head?.any isBlank then failure
  let (token, t) ←
    if n = "YAML".toList then readVersion t
    else if n = "TAG".toList then readHandle t
    else none
  let t := t.dropWhile isBlank
  if !(t.head? = some '#' || atGap t) then failure
  let t := t.dropWhile fun c => !isBreak c
  return ({ s with keyAllowed := false }.skipTo (t.drop 1)).emit token

def quoted (s : Scanner) (read : Text → Option ScalarReading) : Option Scanner := do
  let s := { ← s.markPlace with keyAllowed := false }
  let r ← read (s.rest.drop 1)
  return (s.skipTo r.rest).emit (.scalar false r.text)

def block (s : Scanner) (literal : Bool) : Option Scanner := do
  let s := { ← s.dropPlace with keyAllowed := true }
  let r ← readBlock literal s.indents.head? (s.rest.drop 1)
  return (s.skipTo r.rest).emit (.scalar false r.text)

/-- A plain scalar; after a line break a key may begin. -/
def plain (s : Scanner) : Option Scanner := do
  let s ← s.markPlace
  let indent := s.indents.head?.elim 0 (· + 1)
  let r ← readPlain s.inFlow indent s.column (.blanks []) s.rest
  return ({ s with keyAllowed := r.broken }.skipTo r.rest).emit (.scalar true r.text)

def beginsPlain (inFlow : Bool) (c : Char) (t : Text) : Bool :=
  if c = '-' then !t.head?.any isBlank
  else if c = '?' || c = ':' then !inFlow && !atGap t
  else !(isBlank c || isBreak c || isFlowMark c || c ∈ "#&*!|>'\"%@\x60".toList)

/-- The next token; `c` and `t` are the text that is left. -/
def token (s : Scanner) (c : Char) (t : Text) : Option Scanner :=
  if s.column = 0 && c = '%' then s.directive
  else if s.column = 0 && atDocumentMark (c :: t) then
    s.documentMark (if c = '-' then .documentStart else .documentEnd)
  else match c with
    | '[' => s.openFlow .bracketOpen
    | '\x7b' => s.openFlow .braceOpen
    | ']' => s.closeFlow .bracketClose
    | '\x7d' => s.closeFlow .braceClose
    | ',' => s.separate
    | '*' => s.name .alias
    | '&' => s.name .anchor
    | '!' => s.tag
    | '\'' => s.quoted (readSingle false (.blanks []))
    | '"' => s.quoted (readDouble false (.blanks []))
    | c =>
      if c = '-' && atGap t then s.beginPart .sequenceStart .entry true
      else if c = '?' && (s.inFlow || atGap t) then s.beginPart .mappingStart .key (!s.inFlow)
      else if c = ':' && (s.inFlow || atGap t) then s.beginValue
      else if (c = '|' || c = '>') && !s.inFlow then s.block (c = '|')
      else if beginsPlain s.inFlow c t then s.plain
      else none

/-- The tokens up to the end of the text, each of which takes at least one character. -/
def run : (fuel : Nat) → Scanner → Option (List Token)
  | 0, _ => none
  | fuel + 1, s => do
    let s ← (skipGap (s.rest.length + 1) false s).dropStale
    match s.rest with
    | [] => return (← s.closeAll.dropPlace).tokens.reverse
    | c :: t => run fuel (← (s.closeBeyond s.column).token c t)

end Scanner

def isAllowed (c : Char) : Bool :=
  let n := c.toNat
  n = 9 || n = 10 || n = 13 || (0x20 ≤ n && n ≤ 0x7e) || n = 0x85 ||
    (0xa0 ≤ n && n ≤ 0xfffd) || 0x10000 ≤ n

/-- The tokens of a text; a mark of the byte order may stand in front. -/
def tokens? (t : Text) : Option (List Token) :=
  let t := match t with
    | c :: t => if c.toNat = 0xfeff then t else c :: t
    | [] => []
  if t.all isAllowed then Scanner.run (t.length + 1) { rest := normalize t } else none

end Yaml
end TestBench
