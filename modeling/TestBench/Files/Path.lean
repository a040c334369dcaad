import TestBench.Text.Basic

/-! Paths as they are written, and the places they lead to. A place is the list of the names that
lead there from the root; a path leads to a place from the directory in which it is read. -/
namespace TestBench

abbrev Path := Text

abbrev Location := List Text

namespace Path

def isAbsolute (p : Path) : Bool := p.head? = some '/'

/-- The path `q` read from `p`: an absolute one stands for itself. -/
def join (p q : Path) : Path :=
  if isAbsolute q || p.isEmpty then q
  else if p.getLast? = some '/' then p ++ q
  else p ++ '/' :: q

def current : Text := ['.']

def parent : Text := ['.', '.']

def enter (l : Location) (name : Text) : Location :=
  if name = [] ∨ name = current then l
  else if name = parent then l.dropLast
  else l ++ [name]

def start (cwd : Location) (p : Path) : Location := if isAbsolute p then [] else cwd

def locate (cwd : Location) (p : Path) : Location := (Text.pieces '/' p).foldl enter (start cwd p)

/-- The names of a path that matter: empty ones and dots are left out, except for a dot in front. -/
def names (p : Path) : List Text :=
  match (Text.pieces '/' p).filter fun n => !n.isEmpty with
  | [] => []
  | n :: ns => (if n = current && isAbsolute p then [] else [n]) ++ ns.filter (· ≠ current)

/-- The paths of the directories above, the nearest first. -/
def above (p : Path) : List Path :=
  let ns := (names p).dropLast
  let root : Text := if isAbsolute p then ['/'] else []
  (List.range ns.length).reverse.map fun k => root ++ Text.joinWith ['/'] (ns.take (k + 1))

/-- The last name, unless it leads up or stays. -/
def fileName? (p : Path) : Option Text :=
  (names p).getLast?.filter fun n => n ≠ parent && n ≠ current

/-- What follows the last dot of the last name; a dot that begins the name does not count. -/
def extension? (p : Path) : Option Text :=
  (fileName? p).bind fun n =>
    match n.reverse.span (· ≠ '.') with
    | (_, []) | (_, [_]) => none
    | (ending, _) => some ending.reverse

def ofLocation (l : Location) : Path := '/' :: Text.joinWith ['/'] l

@[simp] theorem join_of_isAbsolute {p q : Path} (h : isAbsolute q = true) : join p q = q := by
  simp [join, h]

@[simp] theorem enter_nil (l : Location) : enter l [] = l := by simp [enter]

end Path
end TestBench
