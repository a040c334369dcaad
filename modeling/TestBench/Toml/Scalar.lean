import TestBench.Toml.Basic

/-! The scalars of TOML: strings in four kinds of quotes, integers in four bases, real numbers, and
dates and times. Everything but a string ends where no more letters, digits or marks follow. -/
namespace TestBench
namespace Toml

def isSpace (c : Char) : Bool := c = ' ' || c = '\t'

def skipSpace (t : Text) : Text := t.dropWhile isSpace

/-- Characters that may stand in comments and strings: a tab, but no other control. -/
def isPlain (c : Char) : Bool := c = '\t' || (c.toNat ≥ 32 && c.toNat ≠ 127)

def newline? : Text → Option Text
  | '\n' :: t => some t
  | '\r' :: '\n' :: t => some t
  | _ => none

/-- The character after a backslash that is written with one letter. -/
def shortEscape? (c : Char) : Option Char :=
  if c = '"' ∨ c = '\\' then some c
  else if c = 'n' then some '\n'
  else if c = 'r' then some '\r'
  else if c = 't' then some '\t'
  else if c = 'b' then some (Char.ofNat 8)
  else if c = 'f' then some (Char.ofNat 12)
  else none

def cons? (c : Option Char) (r : Option (Text × Text)) : Option (Text × Text) := do
  let c ← c
  let (s, t) ← r
  return (c :: s, t)

def readBasic : Text → Option (Text × Text)
  | [] => none
  | '"' :: t => some ([], t)
  | '\\' :: 'u' :: a :: b :: c :: d :: t => cons? (Text.ofHexDigits? [a, b, c, d]) (readBasic t)
  | '\\' :: 'U' :: a :: b :: c :: d :: e :: f :: g :: h :: t =>
    cons? (Text.ofHexDigits? [a, b, c, d, e, f, g, h]) (readBasic t)
  | '\\' :: c :: t => cons? (shortEscape? c) (readBasic t)
  | c :: t => if isPlain c && c ≠ '\\' then cons? c (readBasic t) else none

/-- A string in three quotes up to the closing ones, before which two more may stand. A backslash at
the end of a line skips all blanks and line breaks that follow. -/
def readLong : (skipping : Bool) → Text → Option (Text × Text)
  | true, ' ' :: t | true, '\t' :: t | true, '\n' :: t | true, '\r' :: '\n' :: t => readLong true t
  | _, [] => none
  | _, '"' :: '"' :: '"' :: '"' :: '"' :: t => some (['"', '"'], t)
  | _, '"' :: '"' :: '"' :: '"' :: t => some (['"'], t)
  | _, '"' :: '"' :: '"' :: t => some ([], t)
  | _, '\\' :: 'u' :: a :: b :: c :: d :: t =>
    cons? (Text.ofHexDigits? [a, b, c, d]) (readLong false t)
  | _, '\\' :: 'U' :: a :: b :: c :: d :: e :: f :: g :: h :: t =>
    cons? (Text.ofHexDigits? [a, b, c, d, e, f, g, h]) (readLong false t)
  | _, '\\' :: c :: t =>
    if (newline? (skipSpace (c :: t))).isSome then readLong true t
    else cons? (shortEscape? c) (readLong false t)
  | _, '\r' :: '\n' :: t => cons? '\n' (readLong false t)
  | _, c :: t => if isPlain c || c = '\n' then cons? c (readLong false t) else none

/-- A string in single quotes, taken as it is. -/
def readLiteral (t : Text) : Option (Text × Text) :=
  match t.span fun c => isPlain c && c ≠ '\'' with
  | (s, '\'' :: t) => some (s, t)
  | _ => none

def readLongLiteral : Text → Option (Text × Text)
  | [] => none
  | '\'' :: '\'' :: '\'' :: '\'' :: '\'' :: t => some (['\'', '\''], t)
  | '\'' :: '\'' :: '\'' :: '\'' :: t => some (['\''], t)
  | '\'' :: '\'' :: '\'' :: t => some ([], t)
  | '\r' :: '\n' :: t => cons? '\n' (readLongLiteral t)
  | c :: t => if isPlain c || c = '\n' then cons? c (readLongLiteral t) else none

def dropNewline (t : Text) : Text := (newline? t).getD t

def readString : Text → Option (Text × Text)
  | '"' :: '"' :: '"' :: t => readLong false (dropNewline t)
  | '"' :: t => readBasic t
  | '\'' :: '\'' :: '\'' :: t => readLongLiteral (dropNewline t)
  | '\'' :: t => readLiteral t
  | _ => none

def plainDigits? (t : Text) : Option Text :=
  let groups := Text.pieces '_' t
  if groups.all fun g => !g.isEmpty && g.all fun c => (Text.hexValue? c).isSome then
    some groups.flatten
  else none

def splitSign : Text → Bool × Text
  | '-' :: t => (true, t)
  | '+' :: t => (false, t)
  | t => (false, t)

def wholeDigits? (t : Text) : Option Text := do
  let ds ← plainDigits? t
  if ds.all Text.isDigit && (ds.length = 1 || ds.head? ≠ some '0') then some ds else none

/-- An integer of 64 bits with a sign, or an unsigned one in another base. -/
def integer? (t : Text) : Option Int :=
  let based (base : Nat) (t : Text) : Option Int := do
    let n ← (plainDigits? t).bind (Text.ofDigits? base)
    if n ≤ 9223372036854775807 then some (n : Int) else none
  match t with
  | '0' :: 'x' :: t => based 16 t
  | '0' :: 'o' :: t => based 8 t
  | '0' :: 'b' :: t => based 2 t
  | t => do
    let (negative, t) := splitSign t
    let n := Text.digitsValue (← wholeDigits? t)
    let i : Int := if negative then -(n : Int) else n
    if -9223372036854775808 ≤ i ∧ i ≤ 9223372036854775807 then some i else none

def places? (t : Text) : Option Text := (plainDigits? t).filter fun ds => ds.all Text.isDigit

def exponent? (t : Text) : Option Int := do
  let (negative, t) := splitSign t
  let n := Text.digitsValue (← places? t)
  return if negative then -(n : Int) else n

/-- A real number has places or an exponent. One beyond all numbers is refused if it is positive. -/
def real? (t : Text) : Option (Option Binary64) := do
  let (negative, t) := splitSign t
  if t = "inf".toList ∨ t = "nan".toList then return none
  let (mantissa, exponent) := match t.span fun c => c ≠ 'e' && c ≠ 'E' with
    | (m, _ :: e) => (m, some e)
    | (m, []) => (m, none)
  let (whole, places) := match Text.splitOnce? '.' mantissa with
    | some (w, p) => (w, some p)
    | none => (mantissa, none)
  if exponent.isNone && places.isNone then failure
  let whole ← wholeDigits? whole
  let places ← match places with
    | some p => places? p
    | none => some []
  let exponent ← match exponent with
    | some e => exponent? e
    | none => some 0
  let value := Binary64.ofDecimal? negative (Text.digitsValue (whole ++ places))
    (exponent - places.length)
  if value.isNone && !negative then failure
  return value

def twoDigits? (low high : Nat) (t : Text) : Option Nat := do
  let n ← Text.toNat? t
  if t.length = 2 ∧ low ≤ n ∧ n ≤ high then some n else none

def daysIn (year month : Nat) : Nat :=
  if month = 2 then
    if year % 4 = 0 ∧ (year % 100 ≠ 0 ∨ year % 400 = 0) then 29 else 28
  else if month = 4 ∨ month = 6 ∨ month = 9 ∨ month = 11 then 30
  else 31

def isDate (t : Text) : Bool :=
  match Text.pieces '-' t with
  | [y, m, d] =>
    match Text.toNat? y, twoDigits? 1 12 m, twoDigits? 1 31 d with
    | some year, some month, some day => y.length = 4 && day ≤ daysIn year month
    | _, _, _ => false
  | _ => false

def isClock (h m : Text) : Bool := (twoDigits? 0 23 h).isSome && (twoDigits? 0 59 m).isSome

def isTime (t : Text) : Bool :=
  match Text.pieces ':' t with
  | [h, m, s] =>
    let (seconds, places) := match Text.splitOnce? '.' s with
      | some (s, p) => (s, (Text.toNat? p).isSome)
      | none => (s, true)
    isClock h m && (twoDigits? 0 60 seconds).isSome && places
  | _ => false

def isOffsetTime (t : Text) : Bool :=
  isTime t ||
    match t.getLast? with
    | some 'Z' | some 'z' => isTime t.dropLast
    | _ =>
      match t.drop (t.length - 6) with
      | sign :: rest =>
        (sign = '+' || sign = '-') && isTime (t.take (t.length - 6)) &&
          match Text.pieces ':' rest with
          | [h, m] => isClock h m
          | _ => false
      | [] => false

def isMoment (t : Text) : Bool :=
  isDate t || isTime t ||
    match t.drop 10 with
    | c :: rest => (c = 'T' || c = 't') && isDate (t.take 10) && isOffsetTime rest
    | [] => false

def isWordChar (c : Char) : Bool :=
  c.isAlphanum || c = '_' || c = '+' || c = '-' || c = '.' || c = ':'

def ofWord? (w : Text) : Option Toml :=
  if w = "true".toList then some (.bool true)
  else if w = "false".toList then some (.bool false)
  else if isMoment w then some (.moment w)
  else ((integer? w).map Toml.integer).or ((real? w).map .real)

/-- A scalar without quotes; a blank may stand between a date and a time. -/
def readWord (t : Text) : Option (Toml × Text) :=
  let (w, rest) := t.span isWordChar
  match rest with
  | ' ' :: c :: more =>
    if isDate w && Text.isDigit c then
      let (time, rest) := (c :: more).span isWordChar
      if isOffsetTime time then some (.moment (w ++ 'T' :: time), rest) else none
    else (ofWord? w).map (·, rest)
  | _ => (ofWord? w).map (·, rest)

def readScalar : Text → Option (Toml × Text)
  | '"' :: t => (readString ('"' :: t)).map fun (s, t) => (.string s, t)
  | '\'' :: t => (readString ('\'' :: t)).map fun (s, t) => (.string s, t)
  | t => readWord t

end Toml
end TestBench
