import TestBench.Text.Basic

/-! XML elements and their text. Characters that XML cannot represent are left out. -/
namespace TestBench

/-- An element: without content, with text, or with elements. -/
inductive Xml where
  | leaf (name : Text) (attributes : List (Text × Text))
  | textual (name : Text) (attributes : List (Text × Text)) (text : Text)
  | branch (name : Text) (attributes : List (Text × Text)) (children : List Xml)

namespace Xml

def escapeChar (c : Char) : Text :=
  if c = '&' then "&amp;".toList
  else if c = '<' then "&lt;".toList
  else if c = '>' then "&gt;".toList
  else if c = '"' then "&quot;".toList
  else if c = '\'' then "&apos;".toList
  else if c = '\t' ∨ c = '\n' ∨ c = '\r' then [c]
  else if c.toNat < 32 ∨ c.toNat = 0xfffe ∨ c.toNat = 0xffff then []
  else [c]

def escape (t : Text) : Text := t.flatMap escapeChar

/-- The name and the attributes of a tag, without its brackets. -/
def tag (name : Text) (attributes : List (Text × Text)) : Text :=
  name ++ attributes.flatMap fun (k, v) => ' ' :: k ++ "=\"".toList ++ escape v ++ ['"']

def closingTag (name : Text) : Text := "</".toList ++ name ++ ['>']

mutual

/-- An element on lines of its own; the elements in it are two blanks further in. -/
def render (depth : Nat) : Xml → Text
  | leaf name attributes =>
    Text.indentation depth ++ '<' :: tag name attributes ++ "/>\n".toList
  | textual name attributes text =>
    Text.indentation depth ++ '<' :: tag name attributes ++ '>' :: escape text ++
      closingTag name ++ ['\n']
  | branch name attributes children =>
    Text.indentation depth ++ '<' :: tag name attributes ++ ">\n".toList ++
      renderAll (depth + 1) children ++ Text.indentation depth ++ closingTag name ++ ['\n']

def renderAll (depth : Nat) : List Xml → Text
  | [] => []
  | x :: xs => render depth x ++ renderAll depth xs

end

def declaration : Text := "<?xml version=\"1.0\" encoding=\"UTF-8\"?>\n".toList

def document (root : Xml) : Text := declaration ++ render 0 root

end Xml
end TestBench
