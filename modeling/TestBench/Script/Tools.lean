import TestBench.Script.Shell

/-! The tools of scripts: printing, comparing, and working with files. -/
namespace TestBench
namespace Script

open Text.Utf8 (Bytes)

def isOctal (c : Char) : Bool := '0' ≤ c && c ≤ '7'

def readOctal (limit : Nat) (t : Text) : UInt8 × Text :=
  let ds := (t.take limit).takeWhile isOctal
  (UInt8.ofNat ((Text.ofDigits? 8 ds).getD 0), t.drop ds.length)

def control? (c : Char) : Option Char :=
  let table : List (Char × Nat) :=
    [('a', 7), ('b', 8), ('t', 9), ('n', 10), ('v', 11), ('f', 12), ('r', 13), ('\\', 92)]
  (table.lookup c).map Char.ofNat

/-- The bytes of a text with escapes, and whether one of them ends all output. A byte is written in
octal digits, after a zero where `zero` asks for one. -/
def unescape (zero : Bool) : (fuel : Nat) → Text → Bytes × Bool
  | 0, _ | _, [] => ([], false)
  | fuel + 1, '\\' :: c :: t =>
    let (bs, t) : Bytes × Text :=
      if zero && c = '0' then
        let (b, t) := readOctal 3 t
        ([b], t)
      else if !zero && isOctal c then
        let (b, t) := readOctal 3 (c :: t)
        ([b], t)
      else match control? c with
        | some d => (Text.Utf8.encode [d], t)
        | none => (Text.Utf8.encode ['\\', c], t)
    if zero && c = 'c' then ([], true)
    else
      let (rest, stopped) := unescape zero fuel t
      (bs ++ rest, stopped)
  | fuel + 1, c :: t =>
    let (rest, stopped) := unescape zero fuel t
    (Text.Utf8.encode [c] ++ rest, stopped)

/-- Bytes with blanks, or zeros, in front, or with blanks behind where the width has a minus
sign. -/
def padded (width : Text) (bs : Bytes) : Bytes :=
  let missing := (Text.toNat? (width.dropWhile (· = '-'))).getD 0 - bs.length
  match width.head? with
  | some '-' => bs ++ List.replicate missing 32
  | some '0' => List.replicate missing 48 ++ bs
  | _ => List.replicate missing 32 ++ bs

/-- One pass over a format: the output, the arguments left, and whether any was asked for. -/
def formatOnce : (fuel : Nat) → Text → List Text → Bytes × List Text × Bool
  | 0, _, args | _, [], args => ([], args, false)
  | fuel + 1, '%' :: '%' :: t, args =>
    let (bs, args, asked) := formatOnce fuel t args
    (37 :: bs, args, asked)
  | fuel + 1, '%' :: t, args =>
    let (width, t) := t.span fun c => c = '-' || Text.isDigit c
    let arg := args.headD []
    let shown : Bytes := match t.head? with
      | some 'b' => (unescape true (arg.length + 1) arg).1
      | some 'c' => Text.Utf8.encode (arg.take 1)
      | some 'd' | some 'i' | some 'u' =>
        Text.Utf8.encode (if arg.isEmpty then ['0'] else arg)
      | _ => Text.Utf8.encode arg
    let (bs, args, _) := formatOnce fuel (t.drop 1) args.tail
    (padded width shown ++ bs, args, true)
  | fuel + 1, '\\' :: c :: t, args =>
    let digits := if isOctal c then (((c :: t).take 3).takeWhile isOctal).length else 1
    let (bs, args, asked) := formatOnce fuel ((c :: t).drop digits) args
    ((unescape false 2 ('\\' :: (c :: t).take digits)).1 ++ bs, args, asked)
  | fuel + 1, c :: t, args =>
    let (bs, args, asked) := formatOnce fuel t args
    (Text.Utf8.encode [c] ++ bs, args, asked)

def formatAll : (fuel : Nat) → Text → List Text → Bytes
  | 0, _, _ => []
  | fuel + 1, format, args =>
    let (bs, left, asked) := formatOnce (format.length + 1) format args
    if asked && !left.isEmpty then bs ++ formatAll fuel format left else bs

def echo (st : Streams) (args : List Text) : Shelling Nat := do
  let (args, ending) := match args with
    | ['-', 'n'] :: args => (args, [])
    | args => (args, ['\n'])
  let t := Text.joinWith [' '] args
  let (bs, stopped) := unescape true (t.length + 1) t
  put st.out (bs ++ if stopped then [] else Text.Utf8.encode ending)
  return 0

def toInt? : Text → Option Int
  | '-' :: t => (Text.toNat? t).map fun n => -(n : Int)
  | t => (Text.toNat? t).map fun n => (n : Int)

def compare (a op b : Text) : Bool :=
  let numbers (f : Int → Int → Bool) : Bool :=
    match toInt? a, toInt? b with
    | some x, some y => f x y
    | _, _ => false
  match String.ofList op with
  | "=" | "==" => a = b
  | "!=" => a ≠ b
  | "-eq" => numbers fun x y => x = y
  | "-ne" => numbers fun x y => x ≠ y
  | "-lt" => numbers fun x y => x < y
  | "-le" => numbers fun x y => x ≤ y
  | "-gt" => numbers fun x y => x > y
  | "-ge" => numbers fun x y => x ≥ y
  | _ => false

/-- A property of one text, most often as a path. -/
def inspect (s : Shell) (op a : Text) : Bool :=
  match String.ofList op with
  | "-n" => !a.isEmpty
  | "-z" => a.isEmpty
  | "-f" => s.disk.isFile s.cwd a
  | "-d" => s.disk.isDirectory s.cwd a
  | "-e" | "-r" | "-w" => s.disk.contains s.cwd a
  | "-s" => match s.disk.find s.cwd a with
    | .ok (.file content _) => !content.isEmpty
    | .ok .directory => true
    | .error _ => false
  | "-x" => match s.disk.find s.cwd a with
    | .ok (.file _ executable) => executable
    | .ok .directory => true
    | .error _ => false
  | _ => false

def evaluate (s : Shell) : List Text → Bool
  | [] => false
  | [a] => !a.isEmpty
  | [a, b] => if a = ['!'] then b.isEmpty else inspect s a b
  | [a, op, b] => if a = ['!'] then !inspect s op b else compare a op b
  | ['!'] :: [a, op, b] => !compare a op b
  | _ => false

def splitOptions (args : List Text) : Text × List Text :=
  let isOption (a : Text) : Bool := 1 < a.length && a.head? = some '-' && a ≠ "--".toList
  ((args.filter isOption).flatten, args.filter fun a => !isOption a && a ≠ "--".toList)

def targetFor (s : Shell) (source target : Path) : Path :=
  if s.disk.isDirectory s.cwd target then Path.join target ((Path.fileName? source).getD [])
  else target

def copyFile (st : Streams) (source target : Path) : Shelling Nat := do
  let s ← get
  match s.disk.find s.cwd source with
  | .error f =>
    complain st "cp" ("cannot stat '".toList ++ source ++ "': ".toList ++ faultText f)
  | .ok .directory =>
    complain st "cp" ("-r not specified; omitting directory '".toList ++ source ++ ['\''])
  | .ok (.file content executable) =>
    let target := targetFor s source target
    change st "cp" target fun d cwd => do
      let l ← d.resolve cwd target
      if (d.entry? l).isSome then d.write cwd target content
      else return (← d.write cwd target content).put l (.file content executable)

def relocate (d : Disk) (source target : Location) : Disk :=
  let moved := d.entries.filterMap fun (l, e) =>
    if source.isPrefixOf l then some (target ++ l.drop source.length, e) else none
  { d with entries := moved ++ ((d.erase source).erase target).entries }

def moveFile (st : Streams) (source target : Path) : Shelling Nat := do
  let s ← get
  match s.disk.find s.cwd source with
  | .error f =>
    complain st "mv" ("cannot stat '".toList ++ source ++ "': ".toList ++ faultText f)
  | .ok _ =>
    let target := targetFor s source target
    change st "mv" target fun d cwd => do
      return relocate d (← d.resolve cwd source) (← d.resolve cwd target)

def toTarget (st : Streams) (tool : String) (f : Path → Path → Shelling Nat) (args : List Text) :
    Shelling Nat := do
  match (splitOptions args).2.reverse with
  | target :: source :: sources => eachOf (source :: sources).reverse fun p => f p target
  | _ => complain st tool "missing file operand".toList

def remove (st : Streams) (args : List Text) : Shelling Nat := do
  let (options, paths) := splitOptions args
  eachOf paths fun p => do
    let s ← get
    match s.disk.find s.cwd p with
    | .error f =>
      if 'f' ∈ options then return 0
      complain st "rm" ("cannot remove '".toList ++ p ++ "': ".toList ++ faultText f)
    | .ok .directory =>
      if 'r' ∈ options || 'R' ∈ options then
        change st "rm" p fun d cwd => return d.removeTree cwd p
      else complain st "rm" ("cannot remove '".toList ++ p ++ "': Is a directory".toList)
    | .ok (.file ..) => change st "rm" p fun d cwd => return d.erase (← d.resolve cwd p)

def makeDirectories (st : Streams) (args : List Text) : Shelling Nat := do
  let (options, paths) := splitOptions args
  eachOf paths fun p => do
    if 'p' ∈ options then
      change st "mkdir" p fun d cwd =>
        match d.createDirectories cwd p with
        | (.ok _, d) => .ok d
        | (.error f, _) => .error f
    else
      change st "mkdir" ("cannot create directory '".toList ++ p ++ ['\'']) fun d cwd =>
        d.createDirectory cwd p

def touch (st : Streams) (args : List Text) : Shelling Nat :=
  eachOf (splitOptions args).2 fun p => do
    let s ← get
    if s.disk.contains s.cwd p then return 0
    change st "touch" p fun d cwd => d.write cwd p []

def setExecutable (st : Streams) (args : List Text) : Shelling Nat := do
  let (mode, paths) := (args.headD [], args.drop 1)
  let executable := 'x' ∈ mode || mode.any fun c => c = '7' || c = '5'
  eachOf paths fun p => change st "chmod" p fun d cwd => do
    match ← d.find cwd p with
    | .file content _ =>
      return d.put (← d.resolve cwd p) (.file content (executable && '-' ∉ mode))
    | .directory => return d

def concatenate (st : Streams) (args : List Text) : Shelling Nat :=
  match (splitOptions args).2 with
  | [] => do
    put st.out st.input
    return 0
  | paths => eachOf paths fun p => do
    if p = ['-'] then
      put st.out st.input
      return 0
    let s ← get
    match s.disk.read s.cwd p with
    | .ok bs =>
      put st.out bs
      return 0
    | .error f => complain st "cat" (p ++ ": ".toList ++ faultText f)

/-- The beginning of the input, or of one file: so many bytes, or so many lines. -/
def showBeginning (st : Streams) (args : List Text) : Shelling Nat := do
  let (count, args) : (Bytes → Bytes) × List Text := match args with
    | ['-', 'c'] :: n :: args => (fun bs => bs.take ((Text.toNat? n).getD 0), args)
    | ['-', 'n'] :: n :: args => (takeLines ((Text.toNat? n).getD 0), args)
    | args => (takeLines 10, args)
  match args with
  | [] =>
    put st.out (count st.input)
    return 0
  | p :: _ =>
    let s ← get
    match s.disk.read s.cwd p with
    | .ok bs =>
      put st.out (count bs)
      return 0
    | .error f =>
      complain st "head" ("cannot open '".toList ++ p ++ "' for reading: ".toList ++ faultText f)
where
  takeLines : Nat → Bytes → Bytes
    | 0, _ | _, [] => []
    | n + 1, b :: bs => b :: takeLines (if b = 10 then n else n + 1) bs

/-- The names in a directory in order, but for those that begin with a dot. -/
def listNames (st : Streams) (args : List Text) : Shelling Nat := do
  let paths := match (splitOptions args).2 with
    | [] => [['.']]
    | ps => ps
  eachOf paths fun p => do
    let s ← get
    match s.disk.find s.cwd p, s.disk.resolve s.cwd p with
    | .ok .directory, .ok l =>
      let names := s.disk.entries.filterMap fun (k, _) =>
        if k.dropLast = l ∧ k ≠ [] then k.getLast? else none
      let shown := names.filter fun n => n.head? ≠ some '.'
      say st.out ((shown.mergeSort fun a b => !Text.before b a).flatMap fun n => n ++ ['\n'])
      return 0
    | .ok (.file ..), _ =>
      say st.out (p ++ ['\n'])
      return 0
    | _, _ =>
      let _ ← complain st "ls" ("cannot access '".toList ++ p ++
        "': No such file or directory".toList)
      return 2

def directoryName (p : Path) : Path :=
  match (Path.above p).head? with
  | some q => q
  | none => if Path.isAbsolute p then ['/'] else ['.']

def changeDirectory (st : Streams) (args : List Text) : Shelling Nat := do
  let s ← get
  let p := args.headD ['/']
  match s.disk.find s.cwd p, s.disk.resolve s.cwd p with
  | .ok .directory, .ok l =>
    set { s with cwd := l }
    return 0
  | _, _ =>
    let _ ← complain st "cd" ("can't cd to ".toList ++ p)
    return 2

/-- Sends a signal; only the script itself can get one. -/
def kill (args : List Text) : Shelling Nat := do
  let s ← get
  if args.contains s.name then throw .killed
  return 0

/-- A tool under its name; a script's own number is its name here. -/
def tool? (name : Text) (st : Streams) (args : List Text) : Option (Shelling Nat) :=
  match String.ofList name with
  | "true" | ":" | "sleep" | "wait" | "sync" | "umask" | "trap" => some (pure 0)
  | "false" => some (pure 1)
  | "echo" => some (echo st args)
  | "printf" =>
    some do
      put st.out (formatAll (args.length + 1) (args.headD []) args.tail)
      return 0
  | "test" => some do return if evaluate (← get) args then 0 else 1
  | "[" => some do return if evaluate (← get) args.dropLast then 0 else 1
  | "cat" => some (concatenate st args)
  | "cp" => some (toTarget st "cp" (copyFile st) args)
  | "mv" => some (toTarget st "mv" (moveFile st) args)
  | "rm" => some (remove st args)
  | "rmdir" => some (remove st ("-r".toList :: args))
  | "mkdir" => some (makeDirectories st args)
  | "touch" => some (touch st args)
  | "chmod" => some (setExecutable st args)
  | "head" => some (showBeginning st args)
  | "ls" => some (listNames st args)
  | "cd" => some (changeDirectory st args)
  | "pwd" =>
    some do
      say st.out (Path.ofLocation (← get).cwd ++ ['\n'])
      return 0
  | "dirname" =>
    some do
      say st.out (directoryName (args.headD []) ++ ['\n'])
      return 0
  | "basename" =>
    some do
      say st.out ((Path.fileName? (args.headD [])).getD (args.headD []) ++ ['\n'])
      return 0
  | "printenv" =>
    some do
      match (← get).bindings.lookup (args.headD []) with
      | some v =>
        say st.out (v ++ ['\n'])
        return 0
      | none => return 1
  | "kill" => some (kill args)
  | _ => none

end Script
end TestBench
