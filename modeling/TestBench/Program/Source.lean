import TestBench.Json.Printer

/-! Program source as lines made of pieces. User text reaches a program only inside the string
literals of quoted pieces and values; everything else is fixed code. -/
namespace TestBench

/-- A piece of a source line: code as it stands, a text as a string literal, or a JSON value as an
expression. -/
inductive Piece where
  | code (text : Text)
  | quoted (text : Text)
  | value (v : Json)

def Piece.text : Piece → Text
  | code t => t
  | quoted t => Json.quoted t
  | value v => v.compact

abbrev SourceLine := List Piece

def SourceLine.text (l : SourceLine) : Text := l.flatMap Piece.text

def verbatim (s : String) : Piece := .code s.toList

/-- A line of a program; opening lines move what follows further in and closing lines back out. -/
inductive Instruction where
  | line (l : SourceLine)
  | blank
  | opening (l : SourceLine)
  | closing (l : SourceLine)

namespace Instruction

/-- A line at a depth; an empty line is not indented. -/
def lineText (depth : Nat) (t : Text) : Text :=
  if t.isEmpty then ['\n'] else Text.indentation depth ++ t ++ ['\n']

/-- The depth after an instruction; nothing is less deep than zero. -/
def depthAfter (depth : Nat) : Instruction → Nat
  | line _ | blank => depth
  | opening _ => depth + 1
  | closing _ => depth - 1

def text (depth : Nat) : Instruction → Text
  | line l | opening l => lineText depth l.text
  | blank => ['\n']
  | closing l => lineText (depth - 1) l.text

def render : (depth : Nat) → List Instruction → Text
  | _, [] => []
  | depth, i :: is => i.text depth ++ render (i.depthAfter depth) is

def depthAfterAll (depth : Nat) (is : List Instruction) : Nat := is.foldl depthAfter depth

end Instruction

def statusList (codes : List Nat) : Text :=
  '[' :: Text.joinWith ", ".toList (codes.map Text.ofNat) ++ [']']

end TestBench
