import TestBench.Json.Basic

/-! Reading JSON texts: strict syntax, strings without lone surrogates or raw controls, numbers in
the range of binary64, and a limit on how deep arrays and objects may be nested. -/
namespace TestBench
namespace Json

/-- Why a text is no JSON document. -/
inductive Fault where
  | endOfText
  | unexpected (c : Char)
  | badEscape
  | numberOutOfRange
  | tooDeep
deriving DecidableEq, Repr

def Fault.message : Fault → Text
  | endOfText => "unexpected end of text".toList
  | unexpected c => "unexpected character with code ".toList ++ Text.ofNat c.toNat
  | badEscape => "invalid escape".toList
  | numberOutOfRange => "number out of range".toList
  | tooDeep => "nested too deeply".toList

abbrev Reading (α : Type) := Except Fault (α × Text)

def isSpace (c : Char) : Bool := c = ' ' || c = '\n' || c = '\t' || c = '\r'

def skipSpace (t : Text) : Text := t.dropWhile isSpace

def faultAt : Text → Fault
  | [] => .endOfText
  | c :: _ => .unexpected c

def expectWord (word : Text) (t : Text) : Except Fault Text :=
  match Text.dropPrefix? word t with
  | some r => .ok r
  | none => .error (faultAt t)

def hex4? (a b c d : Char) : Option Nat := do
  let a ← Text.hexValue? a
  let b ← Text.hexValue? b
  let c ← Text.hexValue? c
  let d ← Text.hexValue? d
  return ((a * 16 + b) * 16 + c) * 16 + d

def isHighSurrogate (n : Nat) : Bool := 0xd800 ≤ n && n ≤ 0xdbff

def isLowSurrogate (n : Nat) : Bool := 0xdc00 ≤ n && n ≤ 0xdfff

def pairChar (high low : Nat) : Char :=
  Char.ofNat (0x10000 + (high - 0xd800) * 0x400 + (low - 0xdc00))

/-- The character after a backslash that is written with one letter. -/
def shortEscape? (c : Char) : Option Char :=
  if c = '"' ∨ c = '\\' ∨ c = '/' then some c
  else if c = 'n' then some '\n'
  else if c = 'r' then some '\r'
  else if c = 't' then some '\t'
  else if c = 'b' then some (Char.ofNat 8)
  else if c = 'f' then some (Char.ofNat 12)
  else none

/-- The characters of a string literal up to its closing quote. -/
def readString : Text → Reading Text
  | [] => .error .endOfText
  | '"' :: rest => .ok ([], rest)
  | '\\' :: 'u' :: a :: b :: c :: d :: rest =>
    match hex4? a b c d with
    | none => .error .badEscape
    | some n =>
      if isLowSurrogate n then .error .badEscape
      else if isHighSurrogate n then
        match rest with
        | '\\' :: 'u' :: e :: f :: g :: h :: rest =>
          match hex4? e f g h with
          | none => .error .badEscape
          | some m =>
            if isLowSurrogate m then
              (readString rest).map fun (s, r) => (pairChar n m :: s, r)
            else .error .badEscape
        | _ => .error .badEscape
      else (readString rest).map fun (s, r) => (Char.ofNat n :: s, r)
  | '\\' :: e :: rest =>
    match shortEscape? e with
    | none => .error .badEscape
    | some c => (readString rest).map fun (s, r) => (c :: s, r)
  | c :: rest =>
    if c.toNat < 32 ∨ c = '\\' then .error (.unexpected c)
    else (readString rest).map fun (s, r) => (c :: s, r)

/-- Takes over digits as long as the number stays within 64 bits; how many were taken. -/
def gather : (value : Nat) → (taken : Nat) → Text → Nat × Nat
  | value, taken, [] => (value, taken)
  | value, taken, c :: ds =>
    let next := value * 10 + Text.digitValue c
    if next < UInt64.size then gather next (taken + 1) ds else (value, taken)

def powerOfTen (n : Nat) : Binary64 := (Binary64.ofNat? (tens n)).getD (Binary64.zero false)

/-- A number times a power of ten, rounded after each step; a power beyond the 308th is taken in
several divisions, of which three leave nothing. -/
def scaleTen : (fuel : Nat) → Binary64 → Int → Option Binary64
  | 0, x, _ => some x
  | fuel + 1, x, exponent =>
    if exponent.natAbs ≤ 308 then
      if exponent ≥ 0 then Binary64.mul? x (powerOfTen exponent.natAbs)
      else Binary64.div? x (powerOfTen exponent.natAbs)
    else if x.significand = 0 then some x
    else if exponent ≥ 0 then none
    else (Binary64.div? x (powerOfTen 308)).bind fun y => scaleTen fuel y (exponent + 308)

/-- The binary64 number for a significand of 64 bits and a power of ten. -/
def realOf (negative : Bool) (significand : Nat) (exponent : Int) : Except Fault Number :=
  match (Binary64.ofNat? significand).bind fun x => scaleTen 4 x exponent with
  | some x => .ok (.real (if negative then x.neg else x))
  | none => .error .numberOutOfRange

/-- The digits at the start of a text, one at least. -/
def readDigits (t : Text) : Reading Text :=
  match t.span Text.isDigit with
  | ([], r) => .error (faultAt r)
  | (ds, r) => .ok (ds, r)

/-- The digits before the point: a zero stands alone. -/
def readWhole : Text → Reading Text
  | '0' :: rest =>
    if rest.head?.any Text.isDigit then .error (faultAt rest) else .ok (['0'], rest)
  | t => readDigits t

/-- The digits after a point, none without one. -/
def readFraction : Text → Reading Text
  | '.' :: rest => readDigits rest
  | t => .ok ([], t)

def readSignedDigits : Text → Reading Int
  | '+' :: rest => (readDigits rest).map fun (ds, r) => (Int.ofNat (Text.digitsValue ds), r)
  | '-' :: rest => (readDigits rest).map fun (ds, r) => (-Int.ofNat (Text.digitsValue ds), r)
  | rest => (readDigits rest).map fun (ds, r) => (Int.ofNat (Text.digitsValue ds), r)

/-- The exponent, if there is one. -/
def readExponent : Text → Reading (Option Int)
  | 'e' :: rest => (readSignedDigits rest).map fun (i, r) => (some i, r)
  | 'E' :: rest => (readSignedDigits rest).map fun (i, r) => (some i, r)
  | t => .ok (none, t)

/-- An integer literal as a number: minus zero and what does not fit 64 bits are binary64
numbers. -/
def integerOf (negative : Bool) (n : Nat) : Except Fault Number :=
  let i : Int := if negative then -(n : Int) else n
  if h : FitsInteger i ∧ ¬(negative ∧ n = 0) then .ok (.integer i h.1)
  else realOf negative n 0

def readUnsigned (negative : Bool) (t : Text) : Except Fault (Number × Text) := do
  let (whole, t) ← readWhole t
  let (places, t) ← readFraction t
  let (exponent, t) ← readExponent t
  let (value, taken) := gather 0 0 whole
  let dropped := whole.length - taken
  if dropped = 0 ∧ places = [] ∧ exponent = none then
    return (← integerOf negative value, t)
  else
    let (significand, used) := gather value 0 places
    return (← realOf negative significand (exponent.getD 0 + dropped - used), t)

def readNumber : Text → Reading Number
  | '-' :: t => readUnsigned true t
  | t => readUnsigned false t

mutual

/-- A value at the start of a text, with `depth` further levels of nesting allowed. -/
def readValue : (fuel : Nat) → (depth : Nat) → Text → Reading Json
  | 0, _, _ => .error .tooDeep
  | fuel + 1, depth, t =>
    match skipSpace t with
    | [] => .error .endOfText
    | '"' :: rest => (readString rest).map fun (s, r) => (string s, r)
    | '[' :: rest =>
      match depth with
      | 0 => .error .tooDeep
      | depth + 1 =>
        match skipSpace rest with
        | ']' :: r => .ok (array [], r)
        | rest => (readItems fuel depth rest).map fun (vs, r) => (array vs, r)
    | '\x7b' :: rest =>
      match depth with
      | 0 => .error .tooDeep
      | depth + 1 =>
        match skipSpace rest with
        | '\x7d' :: r => .ok (object [], r)
        | rest => (readMembers fuel depth rest).map fun (ms, r) => (object ms, r)
    | 'n' :: rest => (expectWord "ull".toList rest).map fun r => (null, r)
    | 't' :: rest => (expectWord "rue".toList rest).map fun r => (bool true, r)
    | 'f' :: rest => (expectWord "alse".toList rest).map fun r => (bool false, r)
    | t => (readNumber t).map fun (n, r) => (number n, r)

def readItems : (fuel : Nat) → (depth : Nat) → Text → Except Fault (List Json × Text)
  | 0, _, _ => .error .tooDeep
  | fuel + 1, depth, t => do
    let (v, t) ← readValue fuel depth t
    match skipSpace t with
    | ']' :: r => return ([v], r)
    | ',' :: r =>
      let (vs, r) ← readItems fuel depth r
      return (v :: vs, r)
    | t => .error (faultAt t)

def readMembers :
    (fuel : Nat) → (depth : Nat) → Text → Except Fault (List (Text × Json) × Text)
  | 0, _, _ => .error .tooDeep
  | fuel + 1, depth, t =>
    match skipSpace t with
    | '"' :: t => do
      let (k, t) ← readString t
      match skipSpace t with
      | ':' :: t =>
        let (v, t) ← readValue fuel depth t
        match skipSpace t with
        | '\x7d' :: r => return ([(k, v)], r)
        | ',' :: r =>
          let (ms, r) ← readMembers fuel depth r
          return ((k, v) :: ms, r)
        | t => .error (faultAt t)
      | t => .error (faultAt t)
    | t => .error (faultAt t)

end

/-- The value that a whole text stands for, its members as they are written. -/
def read (depth : Nat) (t : Text) : Except Fault Json := do
  let (v, t) ← readValue (2 * t.length + 2) depth t
  match skipSpace t with
  | [] => return v
  | t => .error (faultAt t)

def depthLimit : Nat := 127

/-- The value that a whole text stands for, objects taken as maps. -/
def parse (t : Text) : Except Fault Json := (read depthLimit t).map sorted

end Json
end TestBench
