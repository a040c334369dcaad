/-! Text as a list of characters: blanks, trimming, lines, cutting and joining.
White space is the Unicode property of that name, so a zero-width space is no blank. -/
namespace TestBench

/-- Text is kept as its characters, so that every operation is a list operation. -/
abbrev Text := List Char

namespace Text

def isBlank (c : Char) : Bool :=
  let n := c.toNat
  (9 ≤ n && n ≤ 13) || n == 0x20 || n == 0x85 || n == 0xa0 || n == 0x1680 ||
    (0x2000 ≤ n && n ≤ 0x200a) || n == 0x2028 || n == 0x2029 || n == 0x202f || n == 0x205f ||
    n == 0x3000

def trimStart (t : Text) : Text := t.dropWhile isBlank

def trimEnd (t : Text) : Text := (t.reverse.dropWhile isBlank).reverse

def trim (t : Text) : Text := trimEnd (trimStart t)

/-- Nothing but white space. -/
def isBlankText (t : Text) : Bool := t.all isBlank

/-- The trimmed text, unless nothing is left of it. -/
def trimmed? (t : Text) : Option Text :=
  match trim t with
  | [] => none
  | s => some s

/-- What follows `p` at the start of `t`. -/
def dropPrefix? : (p t : Text) → Option Text
  | [], t => some t
  | _ :: _, [] => none
  | a :: p, b :: t => if a = b then dropPrefix? p t else none

def startsWith (p t : Text) : Bool := (dropPrefix? p t).isSome

def endsWith (s t : Text) : Bool := startsWith s.reverse t.reverse

/-- The pieces between the separators; there is always at least one piece. -/
def pieces (sep : Char) : Text → List Text
  | [] => [[]]
  | c :: t =>
    if c = sep then [] :: pieces sep t
    else match pieces sep t with
      | [] => [[c]]
      | p :: ps => (c :: p) :: ps

def splitOnce? (sep : Char) : Text → Option (Text × Text)
  | [] => none
  | c :: t => if c = sep then some ([], t) else (splitOnce? sep t).map fun (a, b) => (c :: a, b)

/-- A line without the carriage return that belongs to its line break. -/
def dropReturn (l : Text) : Text := if l.getLast? = some '\r' then l.dropLast else l

/-- The lines of a text: each line break, with or without a carriage return, ends a line, and a
last line without a break counts unless it is empty. -/
def lines (t : Text) : List Text :=
  let ps := pieces '\n' t
  ps.dropLast.map dropReturn ++ (ps.getLast?.toList.filter fun l => !l.isEmpty)

/-- The first line that is not blank, trimmed. -/
def firstLine? (t : Text) : Option Text := (lines t).findSome? trimmed?

/-- The texts with `sep` between them. -/
def joinWith (sep : Text) (ts : List Text) : Text := List.intercalate sep ts

/-- Lines joined by line breaks, without one at the end. -/
def unlines (ts : List Text) : Text := joinWith ['\n'] ts

def indentation (depth : Nat) : Text := List.replicate (2 * depth) ' '

def byteLength (t : Text) : Nat := t.foldl (fun n c => n + c.utf8Size) 0

def ofNat (n : Nat) : Text := Nat.toDigits 10 n

def ofInt (i : Int) : Text := if i < 0 then '-' :: ofNat i.natAbs else ofNat i.natAbs

def isDigit (c : Char) : Bool := '0' ≤ c && c ≤ '9'

def digitValue (c : Char) : Nat := c.toNat - '0'.toNat

def digitsValue (t : Text) : Nat := t.foldl (fun n c => 10 * n + digitValue c) 0

/-- The number written in ASCII digits alone, one at least. -/
def toNat? (t : Text) : Option Nat :=
  if !t.isEmpty && t.all isDigit then some (digitsValue t) else none

def hexValue? (c : Char) : Option Nat :=
  if '0' ≤ c ∧ c ≤ '9' then some (c.toNat - 48)
  else if 'a' ≤ c ∧ c ≤ 'f' then some (c.toNat - 87)
  else if 'A' ≤ c ∧ c ≤ 'F' then some (c.toNat - 55)
  else none

/-- The number written in digits of a base up to sixteen, one at least. -/
def ofDigits? (base : Nat) : Text → Option Nat
  | [] => none
  | t => t.foldlM (fun n c =>
      (hexValue? c).bind fun d => if d < base then some (n * base + d) else none) 0

/-- The character with a code point written in hexadecimal digits. -/
def ofHexDigits? (t : Text) : Option Char :=
  (ofDigits? 16 t).bind fun n => if n.isValidChar then some (Char.ofNat n) else none

/-- The order of texts: by code points, a beginning before the whole. -/
def before : Text → Text → Bool
  | _, [] => false
  | [], _ :: _ => true
  | a :: s, b :: t => a < b || (a == b && before s t)

/-- Lower case for the ASCII letters, all other characters unchanged. -/
def toLowerAscii (t : Text) : Text := t.map Char.toLower

@[simp] theorem trimStart_nil : trimStart [] = [] := rfl

@[simp] theorem trimEnd_nil : trimEnd [] = [] := rfl

@[simp] theorem trim_nil : trim [] = [] := rfl

@[simp] theorem dropPrefix?_append (p t : Text) : dropPrefix? p (p ++ t) = some t := by
  induction p with
  | nil => cases t <;> rfl
  | cons a p ih => simp [dropPrefix?, ih]

theorem eq_append_of_dropPrefix? {p t r : Text} (h : dropPrefix? p t = some r) : t = p ++ r := by
  induction p generalizing t with
  | nil => cases t <;> simp_all [dropPrefix?]
  | cons a p ih =>
    cases t with
    | nil => simp [dropPrefix?] at h
    | cons b t =>
      by_cases hab : a = b
      · subst hab
        simp only [dropPrefix?, if_true] at h
        simp [ih h]
      · simp [dropPrefix?, hab] at h

/-- Splitting off a beginning is possible exactly when the text has it. -/
@[simp] theorem dropPrefix?_eq_some_iff {p t r : Text} : dropPrefix? p t = some r ↔ t = p ++ r :=
  ⟨eq_append_of_dropPrefix?, fun h => h ▸ dropPrefix?_append p r⟩

theorem pieces_ne_nil (sep : Char) (t : Text) : pieces sep t ≠ [] := by
  cases t with
  | nil => simp [pieces]
  | cons c t =>
    rw [pieces]
    split
    · simp
    · split <;> simp

end Text
end TestBench
