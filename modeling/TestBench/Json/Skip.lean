import TestBench.Json.Reader

/-! Values that nobody looks at. Their syntax counts, but neither the size of their numbers, nor
whether their surrogates come in pairs, nor how deep they are nested. A record is read from a text
by skipping the members that it does not know. -/
namespace TestBench
namespace Json

def skipString : Text → Except Fault Text
  | [] => .error .endOfText
  | '"' :: rest => .ok rest
  | '\\' :: 'u' :: a :: b :: c :: d :: rest =>
    if (hex4? a b c d).isSome then skipString rest else .error .badEscape
  | '\\' :: e :: rest => if (shortEscape? e).isSome then skipString rest else .error .badEscape
  | c :: rest => if c.toNat < 32 ∨ c = '\\' then .error (.unexpected c) else skipString rest

def skipNumber (t : Text) : Except Fault Text := do
  let (_, t) ← readWhole t
  let (_, t) ← readFraction t
  let (_, t) ← readExponent t
  return t

mutual

def skipValue : (fuel : Nat) → Text → Except Fault Text
  | 0, _ => .error .tooDeep
  | fuel + 1, t =>
    match skipSpace t with
    | [] => .error .endOfText
    | '"' :: rest => skipString rest
    | '[' :: rest =>
      match skipSpace rest with
      | ']' :: r => .ok r
      | rest => skipItems fuel rest
    | '\x7b' :: rest =>
      match skipSpace rest with
      | '\x7d' :: r => .ok r
      | rest => skipMembers fuel rest
    | 'n' :: rest => expectWord "ull".toList rest
    | 't' :: rest => expectWord "rue".toList rest
    | 'f' :: rest => expectWord "alse".toList rest
    | '-' :: rest => skipNumber rest
    | t => skipNumber t

/-- What follows the items of an array and its closing bracket. -/
def skipItems : (fuel : Nat) → Text → Except Fault Text
  | 0, _ => .error .tooDeep
  | fuel + 1, t => do
    let t ← skipValue fuel t
    match skipSpace t with
    | ']' :: r => return r
    | ',' :: r => skipItems fuel r
    | t => .error (faultAt t)

/-- What follows the members of an object and its closing brace. -/
def skipMembers : (fuel : Nat) → Text → Except Fault Text
  | 0, _ => .error .tooDeep
  | fuel + 1, t =>
    match skipSpace t with
    | '"' :: t => do
      let t ← skipString t
      match skipSpace t with
      | ':' :: t =>
        let t ← skipValue fuel t
        match skipSpace t with
        | '\x7d' :: r => return r
        | ',' :: r => skipMembers fuel r
        | t => .error (faultAt t)
      | t => .error (faultAt t)
    | t => .error (faultAt t)

end

/-- The members of an object that have one of the known keys, up to its closing brace. -/
def readKnown (known : List Text) : (fuel : Nat) → Text → Except Fault (List (Text × Json) × Text)
  | 0, _ => .error .tooDeep
  | fuel + 1, t =>
    match skipSpace t with
    | '"' :: t => do
      let (k, t) ← readString t
      match skipSpace t with
      | ':' :: t =>
        let (ms, t) ← if known.contains k
          then (readValue (2 * t.length + 2) (depthLimit - 1) t).map fun (v, r) => ([(k, v)], r)
          else (skipValue (2 * t.length + 2) t).map fun r => ([], r)
        match skipSpace t with
        | '\x7d' :: r => return (ms, r)
        | ',' :: r =>
          let (rest, r) ← readKnown known fuel r
          return (ms ++ rest, r)
        | t => .error (faultAt t)
      | t => .error (faultAt t)
    | t => .error (faultAt t)

/-- The value of a whole text, of an object only the members that have one of the known keys. -/
def readRecord (known : List Text) (t : Text) : Except Fault Json :=
  match skipSpace t with
  | '\x7b' :: rest =>
    match skipSpace rest with
    | '\x7d' :: _ => read depthLimit t
    | rest => do
      let (ms, r) ← readKnown known (rest.length + 1) rest
      match skipSpace r with
      | [] => return object ms
      | r => .error (faultAt r)
  | _ => read depthLimit t

end Json
end TestBench
