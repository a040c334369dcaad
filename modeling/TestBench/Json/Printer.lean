import TestBench.Decimal.Shortest
import TestBench.Json.Basic

/-! The compact and the indented text of JSON values, and string literals. -/
namespace TestBench
namespace Json

/-- Numbers are written without an exponent from one hundred-thousandth up to sixteen digits before
the point. -/
def numberLayout : Binary64.Layout := ⟨-5, 15, "e+".toList, "e-".toList⟩

def numberText : Number → Text
  | .integer i _ => Text.ofInt i
  | .real x => x.toText numberLayout

def hexDigit (n : Nat) : Char := Nat.digitChar n

/-- The form of a character in a string literal: only quotes, backslashes and controls are
escaped. -/
def quotedChar (c : Char) : Text :=
  if c = '"' then ['\\', '"']
  else if c = '\\' then ['\\', '\\']
  else if c = '\n' then ['\\', 'n']
  else if c = '\r' then ['\\', 'r']
  else if c = '\t' then ['\\', 't']
  else if c.toNat = 8 then ['\\', 'b']
  else if c.toNat = 12 then ['\\', 'f']
  else if c.toNat < 32 then
    ['\\', 'u', '0', '0', hexDigit (c.toNat / 16), hexDigit (c.toNat % 16)]
  else [c]

def quoted (t : Text) : Text := '"' :: t.flatMap quotedChar ++ ['"']

mutual

def compact : Json → Text
  | null => "null".toList
  | bool b => if b then "true".toList else "false".toList
  | number n => numberText n
  | string s => quoted s
  | array items => '[' :: Text.joinWith [','] (compactItems items) ++ [']']
  | object members => '\x7b' :: Text.joinWith [','] (compactMembers members) ++ ['\x7d']

def compactItems : List Json → List Text
  | [] => []
  | v :: vs => compact v :: compactItems vs

def compactMembers : List (Text × Json) → List Text
  | [] => []
  | (k, v) :: ms => (quoted k ++ ':' :: compact v) :: compactMembers ms

end

/-- Parts on lines of their own between brackets; without parts the brackets stand together. -/
def bracketed (opening closing : Char) (depth : Nat) : List Text → Text
  | [] => [opening, closing]
  | parts =>
    let inner := '\n' :: Text.indentation (depth + 1)
    opening :: inner ++ Text.joinWith (',' :: inner) parts ++
      '\n' :: Text.indentation depth ++ [closing]

mutual

/-- The text with every member and item on a line of its own, two blanks further in at each
depth. -/
def indented (depth : Nat) : Json → Text
  | array items => bracketed '[' ']' depth (indentedItems (depth + 1) items)
  | object members => bracketed '\x7b' '\x7d' depth (indentedMembers (depth + 1) members)
  | null => "null".toList
  | bool b => if b then "true".toList else "false".toList
  | number n => numberText n
  | string s => quoted s

def indentedItems (depth : Nat) : List Json → List Text
  | [] => []
  | v :: vs => indented depth v :: indentedItems depth vs

def indentedMembers (depth : Nat) : List (Text × Json) → List Text
  | [] => []
  | (k, v) :: ms => (quoted k ++ ": ".toList ++ indented depth v) :: indentedMembers depth ms

end

def pretty (v : Json) : Text := indented 0 v

end Json
end TestBench
