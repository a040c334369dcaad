import TestBench.Text.Basic

/-! The scripts in which test runners may be written: commands with quoted words, redirections,
pipes, conditions and loops, one command a line. -/
namespace TestBench
namespace Script

/-- A part of a word. What is not quoted may be split at its blanks. -/
inductive Piece where
  | text (quoted : Bool) (t : Text)
  | variable (quoted : Bool) (name : Text) (fallback : Option Text)
  | arguments (quoted : Bool)
  | output (quoted : Bool) (script : Text)
deriving DecidableEq

abbrev Word := List Piece

/-- What a redirection does with its stream. -/
inductive RedirectKind where
  | read
  | write
  | append
  | duplicate
  | here
deriving DecidableEq

/-- The parts of a line: words, redirections of a stream, and operators; line breaks are
operators. -/
inductive Lexeme where
  | word (line : Nat) (w : Word)
  | redirect (stream : Nat) (kind : RedirectKind)
  | operator (o : Text)
deriving DecidableEq

structure Redirect where
  stream : Nat
  kind : RedirectKind
  target : Word
deriving DecidableEq

/-- A command; simple ones carry the number of their line. -/
inductive Command where
  | nothing
  | simple (line : Nat) (assignments : List (Text × Word)) (words : List Word)
      (redirects : List Redirect)
  | group (body : Command) (redirects : List Redirect)
  | apart (body : Command) (redirects : List Redirect)
  | sequence (first second : Command)
  | both (first second : Command)
  | either (first second : Command)
  | negated (c : Command)
  | pipe (first second : Command)
  | conditional (test accepted refused : Command)
  | repeated (wanted : Bool) (test body : Command)
  | each (name : Text) (words : List Word) (body : Command)

def isBlank (c : Char) : Bool := c = ' ' || c = '\t'

def isMeta (c : Char) : Bool := isBlank c || c ∈ "\n;&|<>()".toList

def isNameStart (c : Char) : Bool := c.isAlpha || c = '_'

def isNameChar (c : Char) : Bool := c.isAlphanum || c = '_'

/-- The text up to the parenthesis that closes `depth` open ones, and what follows it. -/
def untilClosed : (depth : Nat) → Text → Option (Text × Text)
  | _, [] => none
  | depth, c :: t =>
    if c = ')' then
      match depth with
      | 0 => some ([], t)
      | depth + 1 => (untilClosed depth t).map fun (s, r) => (c :: s, r)
    else (untilClosed (if c = '(' then depth + 1 else depth) t).map fun (s, r) => (c :: s, r)

/-- What a dollar sign stands for, with the text after it. -/
def readDollar (quoted : Bool) : Text → Option (Piece × Text)
  | '\x7b' :: t => do
    let (inner, t) ← Text.splitOnce? '\x7d' t
    let (name, rest) := inner.span fun c => isNameChar c || c ∈ "@*#?$".toList
    match rest with
    | [] =>
      if name = ['@'] ∨ name = ['*'] then return (.arguments quoted, t)
      return (.variable quoted name none, t)
    | ':' :: '-' :: fallback | '-' :: fallback => return (.variable quoted name (some fallback), t)
    | _ => failure
  | '(' :: t => (untilClosed 0 t).map fun (s, t) => (.output quoted s, t)
  | c :: t =>
    if c = '@' ∨ c = '*' then some (.arguments quoted, t)
    else if c ∈ "#?$!".toList || Text.isDigit c then some (.variable quoted [c] none, t)
    else if isNameStart c then
      let (name, t) := (c :: t).span isNameChar
      some (.variable quoted name none, t)
    else some (.text quoted ['$'], c :: t)
  | [] => some (.text quoted ['$'], [])

def readQuoted : (fuel : Nat) → Text → Option (Word × Text)
  | 0, _ | _, [] => none
  | _ + 1, '"' :: t => some ([], t)
  | fuel + 1, '\\' :: '\n' :: t => readQuoted fuel t
  | fuel + 1, '\\' :: c :: t => do
    let (w, t) ← readQuoted fuel t
    return (.text true (if c ∈ "$\x60\"\\".toList then [c] else ['\\', c]) :: w, t)
  | fuel + 1, '$' :: t => do
    let (p, t) ← readDollar true t
    let (w, t) ← readQuoted fuel t
    return (p :: w, t)
  | fuel + 1, '\x60' :: t => do
    let (s, t) ← Text.splitOnce? '\x60' t
    let (w, t) ← readQuoted fuel t
    return (.output true s :: w, t)
  | fuel + 1, c :: t => do
    let (w, t) ← readQuoted fuel t
    return (.text true [c] :: w, t)

def readWord : (fuel : Nat) → Text → Option (Word × Text)
  | 0, _ => none
  | _, [] => some ([], [])
  | fuel + 1, c :: t =>
    if isMeta c then some ([], c :: t)
    else do
      let (ps, t) ← match c with
        | '\'' => (Text.splitOnce? '\'' t).map fun (s, t) => ([Piece.text true s], t)
        | '"' => (readQuoted (t.length + 1) t).map fun (w, t) => (Piece.text true [] :: w, t)
        | '$' => (readDollar false t).map fun (p, t) => ([p], t)
        | '\x60' => (Text.splitOnce? '\x60' t).map fun (s, t) => ([Piece.output false s], t)
        | '\\' =>
          match t with
          | '\n' :: t => some ([], t)
          | d :: t => some ([Piece.text true [d]], t)
          | [] => some ([Piece.text true ['\\']], [])
        | c => some ([Piece.text false [c]], t)
      let (w, t) ← readWord fuel t
      return (ps ++ w, t)

def Piece.bare? : Piece → Option Text
  | .text false t => some t
  | _ => none

def Piece.shown : Piece → Text
  | .text _ t => t
  | _ => []

def literal? (w : Word) : Option Text := (w.mapM Piece.bare?).map List.flatten

def plainText (w : Word) : Text := w.flatMap Piece.shown

def hereWord (expands : Bool) (t : Text) : Word :=
  if expands then
    ((readQuoted (t.length + 2) (t.flatMap (fun c => if c = '"' then ['\\', '"'] else [c])
    ++ ['"'])).map Prod.fst).getD []
  else [.text true t]

def untilMark (mark : Text) : List Text → List Text × List Text
  | [] => ([], [])
  | l :: ls =>
    if l = mark then ([], ls)
    else
      let (body, rest) := untilMark mark ls
      (l :: body, rest)

def takeHere (mark : Word) (t : Text) : Word × Text :=
  let (line, rest) := t.span (· ≠ '\n')
  let (body, after) := untilMark (plainText mark) (Text.pieces '\n' (rest.drop 1))
  let content := body.flatMap fun l => l ++ ['\n']
  (hereWord ((literal? mark).isSome) content, line ++ '\n' :: Text.unlines after)

def readRedirect (stream : Option Nat) : Text → Option (Lexeme × Text)
  | '>' :: '>' :: t => some (.redirect (stream.getD 1) .append, t)
  | '>' :: '&' :: t => some (.redirect (stream.getD 1) .duplicate, t)
  | '>' :: '|' :: t | '>' :: t => some (.redirect (stream.getD 1) .write, t)
  | '<' :: '<' :: t => some (.redirect (stream.getD 0) .here, t)
  | '<' :: t => some (.redirect (stream.getD 0) .read, t)
  | _ => none

def lexemes : (fuel : Nat) → (line : Nat) → Text → Option (List Lexeme)
  | 0, _, _ => none
  | _, _, [] => some []
  | fuel + 1, line, c :: t =>
    let operator (o : String) (line : Nat) (t : Text) : Option (List Lexeme) :=
      (lexemes fuel line t).map (.operator o.toList :: ·)
    if isBlank c then lexemes fuel line t
    else if c = '#' then lexemes fuel line (t.dropWhile (· ≠ '\n'))
    else if c = '\n' then operator "\n" (line + 1) t
    else match c, t with
      | '\\', '\n' :: t => lexemes fuel (line + 1) t
      | ';', t => operator ";" line t
      | '&', '&' :: t => operator "&&" line t
      | '&', t => operator ";" line t
      | '|', '|' :: t => operator "||" line t
      | '|', t => operator "|" line t
      | '(', t => operator "(" line t
      | ')', t => operator ")" line t
      | c, t =>
        let (stream, after) := match c :: t with
          | d :: m :: t => if Text.isDigit d ∧ (m = '<' ∨ m = '>') then
              (some (Text.digitValue d), m :: t) else (none, d :: m :: t)
          | t => (none, t)
        match readRedirect stream after with
        | some (.redirect n .here, t) => do
          let (mark, t) ← readWord (t.length + 1) (t.dropWhile isBlank)
          let (body, t) := takeHere mark t
          return .redirect n .here :: .word line body :: (← lexemes fuel line t)
        | some (l, t) => (lexemes fuel line t).map (l :: ·)
        | none => do
          let (w, t) ← readWord (t.length + 2) (c :: t)
          return .word line w :: (← lexemes fuel line t)

def isKeyword (k : String) : Lexeme → Bool
  | .word _ w => literal? w = some k.toList
  | _ => false

def expect (k : String) : List Lexeme → Option (List Lexeme)
  | l :: ls => if isKeyword k l then some ls else none
  | [] => none

def skipBreaks (ls : List Lexeme) : List Lexeme := ls.dropWhile (· = .operator ['\n'])

def skipEnds (ls : List Lexeme) : List Lexeme :=
  ls.dropWhile fun l => l = .operator ['\n'] || l = .operator [';']

def assignment? (w : Word) : Option (Text × Word) :=
  let (name, rest) := w.span fun p => p.bare?.any fun t => t.all isNameChar
  match rest with
  | .text false ['='] :: value =>
    let name := plainText name
    if name.head?.any isNameStart then some (name, value) else none
  | _ => none

def readParts : List Lexeme → List (Nat × Word) × List Redirect × List Lexeme
  | .word line w :: ls =>
    let (ws, rs, ls) := readParts ls
    ((line, w) :: ws, rs, ls)
  | .redirect n kind :: .word _ w :: ls =>
    let (ws, rs, ls) := readParts ls
    (ws, ⟨n, kind, w⟩ :: rs, ls)
  | ls => ([], [], ls)

def readSimple (ls : List Lexeme) : Option (Command × List Lexeme) :=
  match readParts ls with
  | ([], [], _) => none
  | (ws, rs, ls) =>
    let assignments := (ws.map fun w => assignment? w.2).takeWhile Option.isSome
    let words := (ws.drop assignments.length).map Prod.snd
    some (.simple ((ws.head?.map Prod.fst).getD 1) (assignments.filterMap id) words rs, ls)

def closers : List String := ["then", "else", "elif", "fi", "do", "done", "\x7d"]

def atEnd : List Lexeme → Bool
  | [] => true
  | l :: _ => l = .operator [')'] || closers.any fun k => isKeyword k l

mutual

def readList : (fuel : Nat) → List Lexeme → Option (Command × List Lexeme)
  | 0, _ => none
  | fuel + 1, ls =>
    let ls := skipEnds ls
    if atEnd ls then some (.nothing, ls)
    else do
      let (first, ls) ← readChain fuel ls
      match ls with
      | .operator ['\n'] :: _ | .operator [';'] :: _ =>
        let (rest, ls) ← readList fuel ls
        return (.sequence first rest, ls)
      | ls => if atEnd ls then some (first, ls) else none

def readChain : (fuel : Nat) → List Lexeme → Option (Command × List Lexeme)
  | 0, _ => none
  | fuel + 1, ls => do
    let (first, ls) ← readPipe fuel ls
    chainAfter fuel first ls

def chainAfter : (fuel : Nat) → Command → List Lexeme → Option (Command × List Lexeme)
  | 0, _, _ => none
  | fuel + 1, first, ls =>
    match ls with
    | .operator ['&', '&'] :: ls => do
      let (second, ls) ← readPipe fuel (skipBreaks ls)
      chainAfter fuel (.both first second) ls
    | .operator ['|', '|'] :: ls => do
      let (second, ls) ← readPipe fuel (skipBreaks ls)
      chainAfter fuel (.either first second) ls
    | ls => some (first, ls)

/-- Commands joined by pipes, perhaps negated. -/
def readPipe : (fuel : Nat) → List Lexeme → Option (Command × List Lexeme)
  | 0, _ => none
  | fuel + 1, ls =>
    match expect "!" ls with
    | some ls => (readPipe fuel ls).map fun (c, ls) => (.negated c, ls)
    | none => do
      let (first, ls) ← readCommand fuel ls
      match ls with
      | .operator ['|'] :: ls =>
        let (second, ls) ← readPipe fuel (skipBreaks ls)
        return (.pipe first second, ls)
      | ls => return (first, ls)

def readCommand : (fuel : Nat) → List Lexeme → Option (Command × List Lexeme)
  | 0, _ => none
  | _, [] => none
  | fuel + 1, l :: ls => do
    if l = .operator ['('] then
      match ← readList fuel ls with
      | (body, .operator [')'] :: ls) =>
        let (ws, rs, ls) := readParts ls
        if ws.isEmpty then return (.apart body rs, ls) else none
      | _ => none
    else if isKeyword "\x7b" l then
      let (body, ls) ← readList fuel ls
      let (ws, rs, ls) := readParts (← expect "\x7d" ls)
      if ws.isEmpty then return (.group body rs, ls) else none
    else if isKeyword "if" l then
      let (c, ls) ← readBranches fuel ls
      let (ws, rs, ls) := readParts ls
      if ws.isEmpty then return (.group c rs, ls) else none
    else if isKeyword "while" l ∨ isKeyword "until" l then
      let (test, ls) ← readList fuel ls
      let (body, ls) ← readList fuel (← expect "do" ls)
      let (ws, rs, ls) := readParts (← expect "done" ls)
      if ws.isEmpty then
        return (.group (.repeated (isKeyword "while" l) test body) rs, ls)
      else none
    else if isKeyword "for" l then
      let (ws, _, ls) := readParts ls
      match ws with
      | (_, name) :: (_, w) :: words =>
        if literal? w ≠ some "in".toList then failure
        let (body, ls) ← readList fuel (← expect "do" (skipEnds ls))
        let (more, rs, ls) := readParts (← expect "done" ls)
        if more.isEmpty then
          return (.group (.each (plainText name) (words.map Prod.snd) body) rs, ls)
        else none
      | _ => none
    else readSimple (l :: ls)

def readBranches : (fuel : Nat) → List Lexeme → Option (Command × List Lexeme)
  | 0, _ => none
  | fuel + 1, ls => do
    let (test, ls) ← readList fuel ls
    let (accepted, ls) ← readList fuel (← expect "then" ls)
    match expect "elif" ls with
    | some ls =>
      let (refused, ls) ← readBranches fuel ls
      return (.conditional test accepted refused, ls)
    | none =>
      match expect "else" ls with
      | some ls =>
        let (refused, ls) ← readList fuel ls
        return (.conditional test accepted refused, ← expect "fi" ls)
      | none => return (.conditional test accepted .nothing, ← expect "fi" ls)

end

def parse? (t : Text) : Option Command := do
  let ls ← lexemes (2 * t.length + 2) 1 t
  match ← readList (8 * ls.length + 8) ls with
  | (c, []) => return c
  | _ => none

end Script
end TestBench
