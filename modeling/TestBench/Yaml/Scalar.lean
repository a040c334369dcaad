import TestBench.Text.Basic

/-! The scalars of YAML: plain ones, quoted ones and blocks of lines. Line breaks inside plain and
quoted scalars are folded: a single one stands for a blank, and of several ones all but the first
stay. -/
namespace TestBench
namespace Yaml

def isBlank (c : Char) : Bool := c = ' ' || c = '\t'

/-- The line breaks; all but the two separators are the same one after `normalize`. -/
def isBreak (c : Char) : Bool := c = '\n' || c.toNat = 0x2028 || c.toNat = 0x2029

def normalize : Text → Text
  | [] => []
  | '\r' :: '\n' :: t => '\n' :: normalize t
  | c :: t => (if c = '\r' ∨ c.toNat = 0x85 then '\n' else c) :: normalize t

/-- Whether a blank, a line break or the end follows. -/
def atGap : Text → Bool
  | [] => true
  | c :: _ => isBlank c || isBreak c

/-- Whether a text begins with one of the two marks between documents. -/
def atDocumentMark : Text → Bool
  | '-' :: '-' :: '-' :: t => atGap t
  | '.' :: '.' :: '.' :: t => atGap t
  | _ => false

/-- What stands between the words of a scalar: blanks in one line, or a line break, none if it is
escaped, and the further ones after it. -/
inductive Gap where
  | blanks (text : Text)
  | breaks (first : Option Char) (more : Text)

namespace Gap

def addBlank (c : Char) : Gap → Gap
  | blanks t => blanks (t ++ [c])
  | breaks first more => breaks first more

def addBreak (c : Char) : Gap → Gap
  | blanks _ => breaks (some c) []
  | breaks first more => breaks first (more ++ [c])

def isBroken : Gap → Bool
  | blanks _ => false
  | breaks .. => true

def folded : Gap → Text
  | blanks t => t
  | breaks (some '\n') [] => [' ']
  | breaks (some '\n') more => more
  | breaks first more => first.toList ++ more

end Gap

/-- The characters that end a plain scalar inside brackets and braces. -/
def isFlowMark (c : Char) : Bool :=
  c = ',' || c = '[' || c = ']' || c = '\x7b' || c = '\x7d'

def endsPlain (inFlow : Bool) (c : Char) (t : Text) : Bool :=
  (c = ':' && atGap t) || (inFlow && isFlowMark c)

def isLostColon (inFlow : Bool) (c : Char) (t : Text) : Bool :=
  inFlow && c = ':' && t.head?.any fun d => isFlowMark d || d = '?'

/-- The result of reading a scalar: its text, whether a line break follows it, and the text after
it. -/
structure ScalarReading where
  text : Text
  broken : Bool
  rest : Text

def ScalarReading.prepend (t : Text) (r : ScalarReading) : ScalarReading :=
  { r with text := t ++ r.text }

/-- A plain scalar. Outside of brackets its further lines are indented by at least `indent`. -/
def readPlain (inFlow : Bool) (indent : Nat) : (column : Nat) → (gap : Gap) → Text →
    Option ScalarReading
  | _, gap, [] => some ⟨[], gap.isBroken, []⟩
  | column, gap, c :: t =>
    if isBlank c then
      if gap.isBroken && column < indent && c = '\t' then none
      else readPlain inFlow indent (column + 1) (gap.addBlank c) t
    else if isBreak c then readPlain inFlow indent 0 (gap.addBreak c) t
    else
      let starts := match gap with
        | .blanks [] => false
        | _ => true
      let stops := starts &&
        ((gap.isBroken && !inFlow && column < indent) ||
          (column = 0 && atDocumentMark (c :: t)) || c = '#')
      if stops then some ⟨[], gap.isBroken, c :: t⟩
      else if isLostColon inFlow c t then none
      else if endsPlain inFlow c t then some ⟨[], gap.isBroken, c :: t⟩
      else
        (readPlain inFlow indent (column + 1) (.blanks []) t).map
          (.prepend (gap.folded ++ [c]))

/-- A scalar in single quotes after the opening one; a quote inside is written twice. -/
def readSingle : (lineStart : Bool) → (gap : Gap) → Text → Option ScalarReading
  | _, _, [] => none
  | _, gap, '\'' :: '\'' :: t =>
    (readSingle false (.blanks []) t).map (.prepend (gap.folded ++ ['\'']))
  | lineStart, gap, c :: t =>
    if isBlank c then readSingle false (gap.addBlank c) t
    else if isBreak c then readSingle true (gap.addBreak c) t
    else if lineStart && atDocumentMark (c :: t) then none
    else if c = '\'' then some ⟨gap.folded, false, t⟩
    else (readSingle false (.blanks []) t).map (.prepend (gap.folded ++ [c]))

/-- The character after a backslash that is written with one character. -/
def shortEscape? (c : Char) : Option Char :=
  let table : List (Char × Nat) :=
    [('0', 0), ('a', 7), ('b', 8), ('t', 9), ('\t', 9), ('n', 10), ('v', 11), ('f', 12), ('r', 13),
      ('e', 27), (' ', 32), ('"', 34), ('/', 47), ('\\', 92), ('N', 0x85), ('_', 0xa0),
        ('L', 0x2028),
      ('P', 0x2029)]
  (table.lookup c).map Char.ofNat

def escaped? (gap : Gap) (c : Option Char) (r : Option ScalarReading) : Option ScalarReading := do
  let c ← c
  return (← r).prepend (gap.folded ++ [c])

def readDouble : (lineStart : Bool) → (gap : Gap) → Text → Option ScalarReading
  | _, _, [] => none
  | _, gap, '\\' :: 'x' :: a :: b :: t =>
    escaped? gap (Text.ofHexDigits? [a, b]) (readDouble false (.blanks []) t)
  | _, gap, '\\' :: 'u' :: a :: b :: c :: d :: t =>
    escaped? gap (Text.ofHexDigits? [a, b, c, d]) (readDouble false (.blanks []) t)
  | _, gap, '\\' :: 'U' :: a :: b :: c :: d :: e :: f :: g :: h :: t =>
    escaped? gap (Text.ofHexDigits? [a, b, c, d, e, f, g, h]) (readDouble false (.blanks []) t)
  | _, gap, '\\' :: c :: t =>
    if isBreak c then (readDouble true (.breaks none []) t).map (.prepend gap.folded)
    else escaped? gap (shortEscape? c) (readDouble false (.blanks []) t)
  | lineStart, gap, c :: t =>
    if isBlank c then readDouble false (gap.addBlank c) t
    else if isBreak c then readDouble true (gap.addBreak c) t
    else if (lineStart && atDocumentMark (c :: t)) || c = '\\' then none
    else if c = '"' then some ⟨gap.folded, false, t⟩
    else (readDouble false (.blanks []) t).map (.prepend (gap.folded ++ [c]))

/-- What becomes of the line breaks at the end of a block. -/
inductive Chomping where
  | strip
  | clip
  | keep
deriving DecidableEq

/-- The signs after the mark of a block: what becomes of its end, and how far it is indented. -/
def readBlockSigns : Text → Option ((Chomping × Option Nat) × Text)
  | t =>
    let chomping (c : Char) : Option Chomping :=
      if c = '+' then some .keep else if c = '-' then some .strip else none
    let digit (c : Char) : Option Nat :=
      if Text.isDigit c then some (Text.digitValue c) else none
    match t with
    | [] => some ((.clip, none), [])
    | c :: t =>
      match chomping c, digit c with
      | some k, _ =>
        match t with
        | d :: t' =>
          match digit d with
          | some 0 => none
          | some n => some ((k, some n), t')
          | none => some ((k, none), t)
        | [] => some ((k, none), [])
      | none, some 0 => none
      | none, some n =>
        match t with
        | d :: t' =>
          match chomping d with
          | some k => some ((k, some n), t')
          | none => some ((.clip, some n), t)
        | [] => some ((.clip, some n), [])
      | none, none => some ((.clip, none), c :: t)

/-- A line with the line break that ends it, if there is one. -/
structure BlockLine where
  content : Text
  ending : Option Char

def blockLines : Text → List BlockLine
  | [] => []
  | c :: t =>
    if isBreak c then ⟨[], some c⟩ :: blockLines t
    else match blockLines t with
      | [] => [⟨[c], none⟩]
      | l :: ls => ⟨c :: l.content, l.ending⟩ :: ls

namespace BlockLine

/-- The number of characters, with the line break. -/
def size (l : BlockLine) : Nat := l.content.length + l.ending.toList.length

/-- How many blanks a line begins with, up to a limit. -/
def leading (limit : Option Nat) (l : BlockLine) : Nat :=
  let n := (l.content.takeWhile (· = ' ')).length
  match limit with
  | some k => min k n
  | none => n

def hasTab (limit : Option Nat) (l : BlockLine) : Bool :=
  let n := l.leading limit
  (l.content.drop n).head? = some '\t' && limit.all (n < ·)

/-- Whether a line has nothing but its indentation and a line break. -/
def isEmpty (limit : Option Nat) (l : BlockLine) : Bool :=
  l.ending.isSome && l.leading limit = l.content.length

end BlockLine

/-- The line breaks of empty lines, the greatest indentation found, and the lines from the first one
on that is not empty. -/
def splitEmpty (limit : Option Nat) : (most : Nat) → List BlockLine →
    Option (Text × Nat × List BlockLine)
  | most, [] => some ([], most, [])
  | most, l :: ls =>
    let most := max most (l.leading limit)
    if l.hasTab limit then none
    else if l.isEmpty limit then
      (splitEmpty limit most ls).map fun (breaks, most, ls) => (l.ending.toList ++ breaks, most, ls)
    else some ([], most, l :: ls)

/-- The content of a block from a line on: `pending` is the line break before it, `breaks` are those
of the empty lines after that one, `spaced` tells whether the line before began with a blank. The
end of the block comes with the lines after it. -/
def readBlockLines (literal : Bool) (indent : Nat) :
    (fuel : Nat) → (pending : Option Char) → (breaks : Text) → (spaced : Bool) → List BlockLine →
    Option (Text × Option Char × Text × List BlockLine)
  | 0, _, _, _, _ => none
  | _ + 1, pending, breaks, _, [] => some ([], pending, breaks, [])
  | fuel + 1, pending, breaks, spaced, l :: ls => do
    let content := l.content.drop indent
    if l.leading (some indent) < indent ∨ (content = [] ∧ l.ending = none) then
      return ([], pending, breaks, l :: ls)
    let blank := content.head?.any isBlank
    let joint := if !literal && pending = some '\n' && !spaced && !blank then
        (if breaks.isEmpty then [' '] else [])
      else pending.toList
    let (more, _, ls) ← splitEmpty (some indent) 0 ls
    let (text, last, tail, ls) ← readBlockLines literal indent fuel l.ending more blank ls
    return (joint ++ breaks ++ content ++ text, last, tail, ls)

/-- A block of lines after its mark, below a collection that is indented by `outer`, or by
nothing. -/
def readBlock (literal : Bool) (outer : Option Nat) (t : Text) : Option ScalarReading := do
  let ((chomping, step), t) ← readBlockSigns t
  let t := match t.dropWhile isBlank with
    | '#' :: t => t.dropWhile fun c => !isBreak c
    | t => t
  if !atGap t then failure
  let lines := blockLines (t.drop 1)
  let given := step.map fun n => outer.getD 0 + n
  let (breaks, most, lines) ← splitEmpty given 0 lines
  let indent := given.getD (max 1 (max most (outer.elim 0 (· + 1))))
  let (text, last, tail, after) ←
    readBlockLines literal indent (lines.length + 1) none breaks false lines
  let ending := match chomping with
    | .strip => []
    | .clip => last.toList
    | .keep => last.toList ++ tail
  let left := after.foldl (fun n l => n + l.size) 0
  return ⟨text ++ ending, true, t.drop (t.length - left)⟩

end Yaml
end TestBench
