import TestBench.Yaml.Token

/-! The nodes of YAML documents, read from their tokens. Aliases stand for the nodes that were
anchored under their names before, the latest of each name. -/
namespace TestBench
namespace Yaml

/-- A node with its tag; a scalar also with the way it was written. -/
inductive Node where
  | scalar (tag : Option Text) (plain : Bool) (text : Text)
  | sequence (tag : Option Text) (items : List Node)
  | mapping (tag : Option Text) (pairs : List (Node × Node))

def Node.empty : Node := .scalar none true []

abbrev Anchors := List (Text × Option Node)

/-- Reading in progress: the tokens that are left, and the anchors so far. -/
structure NodeReader where
  tokens : List Token
  anchors : Anchors := []

abbrev NodeReading := StateT NodeReader Option

namespace NodeReading

def peek : NodeReading (Option Token) := do return (← get).tokens.head?

def skip : NodeReading Unit := modify fun r => { r with tokens := r.tokens.tail }

/-- Whether a token is next, which is then taken. -/
def take (t : Token) : NodeReading Bool := do
  if (← peek) = some t then
    skip
    return true
  return false

def separator : NodeReading Unit := do
  unless ← take .comma do failure

def isAt (ts : List Token) : NodeReading Bool := do
  match ← peek with
  | none => return true
  | some t => return ts.contains t

def announce (name : Text) : NodeReading Nat := do
  let r ← get
  set { r with anchors := (name, none) :: r.anchors }
  return r.anchors.length

def define (name : Text) (place : Nat) (n : Node) : NodeReading Unit :=
  modify fun r =>
    { r with anchors := r.anchors.set (r.anchors.length - 1 - place) (name, some n) }

def resolveTag (handles : List (Text × Text)) (handle suffix : Text) : NodeReading Text :=
  if handle.isEmpty then return suffix
  else match handles.lookup handle with
    | some meaning => return meaning ++ suffix
    | none => failure

/-- The anchor and the tag of a node, in either order. -/
def properties (handles : List (Text × Text)) : NodeReading (Option (Text × Nat) × Option Text) :=
  do
  match ← peek with
  | some (.anchor name) =>
    skip
    let place ← announce name
    match ← peek with
    | some (.tag handle suffix) =>
      skip
      return (some (name, place), some (← resolveTag handles handle suffix))
    | _ => return (some (name, place), none)
  | some (.tag handle suffix) =>
    skip
    let tag ← resolveTag handles handle suffix
    match ← peek with
    | some (.anchor name) =>
      skip
      return (some (name, ← announce name), some tag)
    | _ => return (none, some tag)
  | _ => return (none, none)

def scalarTag (tag : Option Text) : Option Text := tag.filter (· ≠ ['!'])

mutual

/-- A node. Block collections are possible where `block` says so, and sequences without indentation
of their own where `unindented` does. -/
def node (handles : List (Text × Text)) : (fuel : Nat) → (block unindented : Bool) →
    NodeReading Node
  | 0, _, _ => failure
  | fuel + 1, block, unindented => do
    if let some (.alias name) ← peek then
      skip
      match (← get).anchors.lookup name with
      | some (some n) => return n
      | _ => failure
    else
      let (anchor, tag) ← properties handles
      let n ← content handles fuel block unindented (anchor.isSome || tag.isSome) tag
      match anchor with
      | some (name, place) => define name place n
      | none => pure ()
      return n

def content (handles : List (Text × Text)) : (fuel : Nat) → (block unindented marked : Bool) →
    (tag : Option Text) → NodeReading Node
  | 0, _, _, _, _ => failure
  | fuel + 1, block, unindented, marked, tag => do
    match ← peek with
    | some (.scalar plain text) =>
      skip
      return .scalar (scalarTag tag) plain text
    | some .bracketOpen =>
      skip
      return .sequence tag (← flowItems handles fuel true)
    | some .braceOpen =>
      skip
      return .mapping tag (← flowPairs handles fuel true)
    | some .entry =>
      if unindented then return .sequence tag (← unindentedItems handles fuel)
      else if marked then return .scalar tag true []
      else failure
    | some .sequenceStart =>
      if block then
        skip
        return .sequence tag (← blockItems handles fuel)
      else if marked then return .scalar tag true []
      else failure
    | some .mappingStart =>
      if block then
        skip
        return .mapping tag (← blockPairs handles fuel)
      else if marked then return .scalar tag true []
      else failure
    | _ => if marked then return .scalar tag true [] else failure

def nodeUnless (handles : List (Text × Text)) : (fuel : Nat) → (ends : List Token) →
    (block unindented : Bool) → NodeReading Node
  | 0, _, _, _ => failure
  | fuel + 1, ends, block, unindented => do
    if ← isAt ends then return .empty
    node handles fuel block unindented

def blockItems (handles : List (Text × Text)) : (fuel : Nat) → NodeReading (List Node)
  | 0 => failure
  | fuel + 1 => do
    if ← take .entry then
      let n ← nodeUnless handles fuel [.entry, .blockEnd] true false
      return n :: (← blockItems handles fuel)
    else if ← take .blockEnd then return []
    else failure

def unindentedItems (handles : List (Text × Text)) : (fuel : Nat) → NodeReading (List Node)
  | 0 => failure
  | fuel + 1 => do
    if ← take .entry then
      let n ← nodeUnless handles fuel [.entry, .key, .value, .blockEnd] true false
      return n :: (← unindentedItems handles fuel)
    else return []

def blockPairs (handles : List (Text × Text)) : (fuel : Nat) →
    NodeReading (List (Node × Node))
  | 0 => failure
  | fuel + 1 => do
    if ← take .key then
      let k ← nodeUnless handles fuel [.key, .value, .blockEnd] true true
      let v ←
        if ← take .value then nodeUnless handles fuel [.key, .value, .blockEnd] true true
        else pure Node.empty
      return (k, v) :: (← blockPairs handles fuel)
    else if ← take .blockEnd then return []
    else failure

/-- The items between brackets up to the closing one; a key among them makes a mapping of one
pair. -/
def flowItems (handles : List (Text × Text)) : (fuel : Nat) → (first : Bool) →
    NodeReading (List Node)
  | 0, _ => failure
  | fuel + 1, first => do
    if ← take .bracketClose then return []
    unless first do separator
    if ← take .bracketClose then return []
    if ← take .key then
      let k ← nodeUnless handles fuel [.value, .comma, .bracketClose] false false
      let v ←
        if ← take .value then nodeUnless handles fuel [.comma, .bracketClose] false false
        else pure Node.empty
      return .mapping none [(k, v)] :: (← flowItems handles fuel false)
    let n ← node handles fuel false false
    return n :: (← flowItems handles fuel false)

def flowPairs (handles : List (Text × Text)) : (fuel : Nat) → (first : Bool) →
    NodeReading (List (Node × Node))
  | 0, _ => failure
  | fuel + 1, first => do
    if ← take .braceClose then return []
    unless first do separator
    if ← take .braceClose then return []
    if ← take .key then
      let k ← nodeUnless handles fuel [.value, .comma, .braceClose] false false
      let v ←
        if ← take .value then nodeUnless handles fuel [.comma, .braceClose] false false
        else pure Node.empty
      return (k, v) :: (← flowPairs handles fuel false)
    let k ← node handles fuel false false
    return (k, .empty) :: (← flowPairs handles fuel false)

end

def standardHandles : List (Text × Text) :=
  [("!".toList, "!".toList), ("!!".toList, "tag:yaml.org,2002:".toList)]

/-- The directives before a document: one version at most, and different handles. -/
def directives : (fuel : Nat) → (versions : Nat) → (handles : List (Text × Text)) →
    NodeReading (List (Text × Text))
  | 0, _, handles => return handles
  | fuel + 1, versions, handles => do
    match ← peek with
    | some (.version major minor) =>
      skip
      if versions = 0 ∧ major = 1 ∧ (minor = 1 ∨ minor = 2) then directives fuel 1 handles
      else failure
    | some (.tagHandle handle meaning) =>
      skip
      if (handles.lookup handle).isSome then failure
      directives fuel versions (handles ++ [(handle, meaning)])
    | _ => return handles

def atDirective : NodeReading Bool := do
  match ← peek with
  | some (.version ..) | some (.tagHandle ..) => return true
  | _ => return false

/-- The only document of a text, none if there is nothing but gaps and comments. -/
def document : NodeReading (Option Node) := do
  let size := (← get).tokens.length
  let fuel := 4 * size + 4
  if (← peek).isNone then return none
  let announced ← atDirective
  let own ← directives size 0 []
  let handles := own ++ standardHandles
  let n ←
    if ← take .documentStart then
      match ← peek with
      | some .documentStart | some .documentEnd => pure Node.empty
      | _ =>
        if ← atDirective then pure Node.empty else nodeUnless handles fuel [] true false
    else if announced then failure
    else node handles fuel true false
  if (← get).tokens.any (· ≠ .documentEnd) then failure
  return some n

end NodeReading

def document? (t : Text) : Option (Option Node) := do
  let tokens ← tokens? t
  return (← NodeReading.document.run { tokens }).1

end Yaml
end TestBench
