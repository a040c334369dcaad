import TestBench.Proofs.Text.Shape
import TestBench.Text.Ranges
import TestBench.Xml

/-! XML documents: which texts are well-formed, and what they say. The grammar is the one of XML 1.0
for documents of elements, attributes, text and references; comments, processing instructions,
marked sections and a document type are left out. What a text says is related to it part by part:
white space in an attribute stands for blanks, and a reference for its character. -/
namespace TestBench
namespace Xml

/-- What is in a document: text, and elements with attributes and what is in them. -/
inductive Node where
  | text (t : Text)
  | element (name : Text) (attributes : List (Text × Text)) (content : List Node)

namespace Node

def tag : Node → Text
  | text _ => []
  | element name _ _ => name

def attribute? (key : String) : Node → Option Text
  | text _ => none
  | element _ attributes _ => attributes.lookup key.toList

def isElement : Node → Bool
  | text _ => false
  | element _ _ _ => true

def elements : Node → List Node
  | text _ => []
  | element _ _ content => content.filter isElement

def ownText : Node → Text
  | text t => t
  | element _ _ _ => []

/-- The text in an element, without that of the elements in it. -/
def characters : Node → Text
  | text t => t
  | element _ _ content => content.flatMap ownText

end Node

/-- The elements of a document, without their attributes and texts. -/
inductive Outline where
  | mk (tag : Text) (elements : List Outline)

mutual

def Node.outline? : Node → Option Outline
  | .text _ => none
  | .element name _ content => some (.mk name (outlines content))

def outlines : List Node → List Outline
  | [] => []
  | n :: ns => n.outline?.toList ++ outlines ns

end

mutual

/-- The number of elements with a tag in a document, its root included. -/
def Node.count (tag : Text) : Node → Nat
  | .text _ => 0
  | .element name _ content => (if name = tag then 1 else 0) + countAll tag content

def countAll (tag : Text) : List Node → Nat
  | [] => 0
  | n :: ns => n.count tag + countAll tag ns

end

def isLegal (c : Char) : Bool :=
  let n := c.toNat
  n = 9 || n = 10 || n = 13 || (32 ≤ n && n ≤ 0xd7ff) || (0xe000 ≤ n && n ≤ 0xfffd) || 0x10000 ≤ n

def isSpace (c : Char) : Bool := c = ' ' || c = '\t' || c = '\r' || c = '\n'

def nameStartRanges : List (Nat × Nat) :=
  [(0x3a, 0x3a), (0x41, 0x5a), (0x5f, 0x5f), (0x61, 0x7a), (0xc0, 0xd6), (0xd8, 0xf6),
    (0xf8, 0x2ff), (0x370, 0x37d),
   (0x37f, 0x1fff), (0x200c, 0x200d), (0x2070, 0x218f), (0x2c00, 0x2fef), (0x3001, 0xd7ff),
     (0xf900, 0xfdcf),
   (0xfdf0, 0xfffd), (0x10000, 0xeffff)]

def isNameStart (c : Char) : Bool := Text.inRanges nameStartRanges c.toNat

def nameInnerRanges : List (Nat × Nat) :=
  [(0x2d, 0x2e), (0x30, 0x39), (0xb7, 0xb7), (0x300, 0x36f), (0x203f, 0x2040)]

def isNameChar (c : Char) : Bool := isNameStart c || Text.inRanges nameInnerRanges c.toNat

def IsName : Text → Prop
  | [] => False
  | c :: t => isNameStart c = true ∧ ∀ d ∈ t, isNameChar d = true

instance : (t : Text) → Decidable (IsName t)
  | [] => inferInstanceAs (Decidable False)
  | c :: t =>
    decidable_of_iff (isNameStart c = true ∧
      t.all isNameChar = true) (and_congr_right' List.all_eq_true)

/-- Every line break as a line feed: a carriage return before a line feed is left out, any other one
is replaced. -/
def lineEnds : Text → Text
  | [] => []
  | c :: t =>
    if c = '\r' then if t.head? = some '\n' then lineEnds t else '\n' :: lineEnds t
    else c :: lineEnds t

def entities : List (Text × Char) :=
  [("amp".toList, '&'), ("lt".toList, '<'), ("gt".toList, '>'), ("quot".toList, '"'),
    ("apos".toList, '\'')]

def charOfCode? (base : Nat) (digits : Text) : Option Char :=
  ((Text.ofDigits? base digits).map Char.ofNat).filter isLegal

def referent? : Text → Option Char
  | '#' :: 'x' :: digits => charOfCode? 16 digits
  | '#' :: digits => charOfCode? 10 digits
  | name => entities.lookup name

/-- What a written text stands for: references stand for characters, and other characters for
themselves. -/
inductive Stands : Text → Text → Prop
  | nil : Stands [] []
  | plain {c : Char} {w t : Text} (hc : c ≠ '&') (h : Stands w t) : Stands (c :: w) (c :: t)
  | reference {name w t : Text} {c : Char} (hname : ';' ∉ name) (hc : referent? name = some c)
      (h : Stands w t) :
      Stands ('&' :: (name ++ ';' :: w)) (c :: t)

/-- White space within the value of an attribute is a blank. -/
def spaced (c : Char) : Char := if isSpace c then ' ' else c

/-- An attribute: a name, an equals sign, and a value between quotes of one kind. -/
inductive Attribute : Text → Text × Text → Prop
  | mk {name before after written value : Text} {quote : Char} (hname : IsName name)
      (hbefore : before ∈ Shape.run isSpace) (hafter : after ∈ Shape.run isSpace)
        (hquote : quote = '"' ∨ quote = '\'')
      (hclosed : quote ∉ written) (hless : '<' ∉ written)
        (hvalue : Stands (written.map spaced) value) :
      Attribute (name ++ (before ++ '=' :: (after ++ quote :: (written ++ [quote])))) (name, value)

/-- Attributes with white space before each of them, and perhaps behind the last one. -/
inductive Attributes : Text → List (Text × Text) → Prop
  | last {s : Text} (hs : s ∈ Shape.run isSpace) : Attributes s []
  | more {s a t : Text} {p : Text × Text} {ps : List (Text × Text)} (hs : s ∈ Shape.someRun isSpace)
      (ha : Attribute a p) (h : Attributes t ps) : Attributes (s ++ (a ++ t)) (p :: ps)

/-- A name and attributes, of which no two have the same name. -/
def Tag (t name : Text) (attributes : List (Text × Text)) : Prop :=
  IsName name ∧ (attributes.map Prod.fst).Nodup ∧ ∃ a, t = name ++ a ∧ Attributes a attributes

def textNodes : Text → List Node
  | [] => []
  | c :: t => [.text (c :: t)]

/-- Text between tags: it has no `<`, and not the end of a marked section. -/
def Data (w : Text) (nodes : List Node) : Prop :=
  '<' ∉ w ∧ ¬"]]>".toList <:+: w ∧ ∃ t, Stands w t ∧ nodes = textNodes t

mutual

/-- An element: an empty one, or a start tag, the content, and an end tag of the same name. -/
inductive Element : Text → Node → Prop
  | empty {t name : Text} {attributes : List (Text × Text)} (htag : Tag t name attributes) :
      Element ('<' :: (t ++ "/>".toList)) (.element name attributes [])
  | filled {t name c s : Text} {attributes : List (Text × Text)} {content : List Node}
      (htag : Tag t name attributes)
      (hc : Content c content) (hs : s ∈ Shape.run isSpace) :
      Element ('<' :: (t ++ '>' :: (c ++ "</".toList ++ name ++ s ++ ['>'])))
        (.element name attributes content)

/-- Text and elements. -/
inductive Content : Text → List Node → Prop
  | last {d : Text} {nodes : List Node} (hd : Data d nodes) : Content d nodes
  | more {d e c : Text} {before after : List Node} {n : Node} (hd : Data d before)
      (he : Element e n)
      (hc : Content c after) : Content (d ++ (e ++ c)) (before ++ n :: after)

end

def declarations : List (List (Text × Text)) :=
  [[("version".toList, "1.0".toList)],
    [("version".toList, "1.0".toList), ("encoding".toList, "UTF-8".toList)]]

/-- The declaration of a document, or nothing. -/
def Declaration (d : Text) : Prop :=
  d = [] ∨
  ∃ a attributes, d = "<?xml".toList ++ (a ++ "?>".toList) ∧ Attributes a attributes ∧
    attributes ∈ declarations

/-- A well-formed document: it has legal characters only, and, all line breaks being line feeds, it
is one element behind an optional declaration, with white space around it. -/
def IsDocument (document : Text) (root : Node) : Prop :=
  (∀ c ∈ document, isLegal c = true) ∧
  ∃ d s e s', lineEnds document = d ++ (s ++ (e ++ s')) ∧ Declaration d ∧ s ∈ Shape.run isSpace ∧
    Element e root ∧
    s' ∈ Shape.run isSpace

end Xml
end TestBench
