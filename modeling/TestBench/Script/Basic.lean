import TestBench.Run.Launch
import TestBench.Script.Tools

/-! Running scripts as test runners. A script is a file that may be executed and whose first
line names one of the usual shells; it ends with the status of its last command unless it stops
before. -/
namespace TestBench
namespace Script

open Text.Utf8 (Bytes)

def ownNumber : Text := "4242".toList

def parameter (name : Text) : Shelling Text := do
  let s ← get
  match name with
  | ['?'] => return Text.ofNat s.status
  | ['#'] => return Text.ofNat s.arguments.length
  | ['$'] => return ownNumber
  | ['0'] => return s.name
  | _ =>
    match Text.toNat? name with
    | some n => return (s.arguments[n - 1]?).getD []
    | none => getVariable name

/-- Fields in progress: the finished ones, the latest first, and the one that is still open. -/
structure Fields where
  done : List Text := []
  current : Option Text := none

namespace Fields

def add (f : Fields) (t : Text) : Fields := { f with current := some (f.current.getD [] ++ t) }

def close (f : Fields) : Fields :=
  match f.current with
  | some t => ⟨t :: f.done, none⟩
  | none => f

def split (f : Fields) (t : Text) : Fields :=
  t.foldl (fun f c => if isBlank c || c = '\n' then f.close else f.add [c]) f

def spread (f : Fields) : List Text → Fields
  | [] => f
  | [t] => f.add t
  | t :: ts => ((f.add t).close).spread ts

def toList (f : Fields) : List Text := f.close.done.reverse

end Fields

def withoutBreaks (bs : Bytes) : Text :=
  ((Text.Utf8.decodeLossy bs).reverse.dropWhile (· = '\n')).reverse

/-- The streams of a command after a redirection to a target. -/
def redirect (st : Streams) (line stream : Nat) (kind : RedirectKind) (target : Text) :
    Shelling (Option Streams) := do
  let s ← get
  let toSink (sink : Sink) : Streams :=
    if stream = 2 then { st with err := sink }
    else if stream = 1 then { st with out := sink }
    else st
  let refuse (verb : String) (f : DiskFault) : Shelling (Option Streams) := do
    let reason := match f with
      | .notFound => if verb = "create" then "Directory nonexistent".toList
        else "No such file".toList
      | f => faultText f
    say st.err (s.name ++ ": ".toList ++ Text.ofNat line ++ ": cannot ".toList ++ verb.toList ++
      ' ' :: target ++ ": ".toList ++ reason ++ ['\n'])
    return none
  let openWith (content : Bytes) : Shelling (Option Streams) := do
    if target = "/dev/null".toList then return some (toSink (.file []))
    match s.disk.write s.cwd target content, s.disk.resolve s.cwd target with
    | .ok d, .ok l =>
      set { s with disk := d }
      return some (toSink (.file l))
    | .error f, _ | _, .error f => refuse "create" f
  match kind with
  | .write => openWith []
  | .append => openWith ((s.disk.read s.cwd target).toOption.getD [])
  | .duplicate =>
    if target = ['1'] then return some (toSink st.out)
    else if target = ['2'] then return some (toSink st.err)
    else if target = ['-'] then return some (toSink (.file []))
    else openWith []
  | .here => return some { st with input := Text.Utf8.encode target }
  | .read =>
    if target = "/dev/null".toList then return some { st with input := [] }
    match s.disk.read s.cwd target with
    | .ok bs => return some { st with input := bs }
    | .error f => refuse "open" f

def unknownTool (st : Streams) (line : Nat) (name : Text) : Shelling Nat := do
  let s ← get
  let isThere := '/' ∈ name && s.disk.contains s.cwd name
  let reason := if isThere then ": Permission denied\n" else ": not found\n"
  say st.err (s.name ++ ": ".toList ++ Text.ofNat line ++ ": ".toList ++ name ++ reason.toList)
  return if isThere then 126 else 127

def statusOf (args : List Text) (default : Nat) : Nat :=
  match args.head?.bind Text.toNat? with
  | some n => n % 256
  | none => default

/-- The commands that change the shell itself, and the tools. -/
def invoke (st : Streams) (line : Nat) (name : Text) (args : List Text) : Shelling Nat := do
  let s ← get
  match String.ofList name with
  | "exit" | "return" => throw (.exited (statusOf args s.status))
  | "shift" =>
    let count := (args.head?.bind Text.toNat?).getD 1
    set { s with arguments := s.arguments.drop count }
    return 0
  | "export" | "readonly" | "local" =>
    for a in args do
      match Text.splitOnce? '=' a with
      | some (k, v) => setVariable k v
      | none => pure ()
    return 0
  | "unset" =>
    set { s with bindings := s.bindings.filter fun v => !args.contains v.1 }
    return 0
  | "set" =>
    match args with
    | ['-', '-'] :: rest => set { s with arguments := rest }
    | ('-' :: options) :: _ => set { s with strict := s.strict || 'e' ∈ options }
    | _ => pure ()
    return 0
  | _ =>
    match tool? name st (args.map fun a => if name = "kill".toList && a = ownNumber then
      s.name else a) with
    | some run => run
    | none => unknownTool st line name

def finish (guarded : Bool) (status : Nat) : Shelling Unit := do
  modify fun s => { s with status }
  if status ≠ 0 && !guarded && (← get).strict then throw (.exited status)

/-- A part that runs on its own: only files and output outlive it. -/
def isolated (a : Shelling Unit) : Shelling Unit := do
  let before ← get
  tryCatch a fun stop =>
    match stop with
    | .exited status => modify fun s => { s with status }
    | other => throw other
  modify fun s =>
    { s with cwd := before.cwd, bindings := before.bindings, arguments := before.arguments,
             strict := before.strict }

def piped (a : Shelling Unit) : Shelling Bytes := do
  let before := (← get).pipe
  modify fun s => { s with pipe := [] }
  isolated a
  let bs := (← get).pipe
  modify fun s => { s with pipe := before }
  return bs

mutual

def expand : (fuel : Nat) → Fields → Word → Shelling Fields
  | 0, _, _ => throw .endless
  | _, f, [] => return f
  | fuel + 1, f, p :: ps => do
    let f ← match p with
      | .text quoted t => pure (if t.isEmpty && !quoted then f else f.add t)
      | .variable quoted name fallback => do
        let value ← parameter name
        let value := if value.isEmpty then fallback.getD [] else value
        pure (if quoted then f.add value else f.split value)
      | .arguments quoted => do
        let args := (← get).arguments
        if quoted then
          pure (if args.isEmpty && ps.isEmpty && f.current = some [] then { f with current := none }
            else f.spread args)
        else pure (args.foldl (fun f a => (f.split a).close) f)
      | .output quoted script => do
        let value ← substitute fuel script
        pure (if quoted then f.add value else f.split value)
    expand fuel f ps

def expandWhole : (fuel : Nat) → Word → Shelling Text
  | 0, _ => throw .endless
  | _, [] => return []
  | fuel + 1, p :: ps => do
    let t ← match p with
      | .text _ t => pure t
      | .variable _ name fallback => do
        let value ← parameter name
        pure (if value.isEmpty then fallback.getD [] else value)
      | .arguments _ => do return Text.joinWith [' '] (← get).arguments
      | .output _ script => substitute fuel script
    return t ++ (← expandWhole fuel ps)

def substitute : (fuel : Nat) → Text → Shelling Text
  | 0, _ => throw .endless
  | fuel + 1, script => do
    match parse? script with
    | some c => return withoutBreaks (← piped (run fuel { out := .pipe } true c))
    | none => throw (.exited 2)

/-- The streams after all redirections, unless one fails. -/
def redirectAll : (fuel : Nat) → Streams → (line : Nat) → List Redirect →
    Shelling (Option Streams)
  | 0, _, _, _ => throw .endless
  | _, st, _, [] => return some st
  | fuel + 1, st, line, r :: rs => do
    match ← redirect st line r.stream r.kind (← expandWhole fuel r.target) with
    | some st => redirectAll fuel st line rs
    | none => return none

/-- Runs a command; where it is guarded, a failure does not end a strict script. -/
def run : (fuel : Nat) → Streams → (guarded : Bool) → Command → Shelling Unit
  | 0, _, _, _ => throw .endless
  | fuel + 1, st, guarded, c => do
    match c with
    | .nothing => return
    | .simple line assignments words redirects =>
      let fields ← words.foldlM (fun f w => return (← expand fuel f w).close) {}
      match ← redirectAll fuel st line redirects with
      | none => finish guarded 2
      | some inner =>
        for (name, w) in assignments do
          setVariable name (← expandWhole fuel w)
        match fields.toList with
        | [] => finish guarded 0
        | ['e', 'x', 'e', 'c'] :: name :: args =>
          throw (.exited (← invoke inner line name args))
        | name :: args => finish guarded (← invoke inner line name args)
    | .group body redirects =>
      match ← redirectAll fuel st 1 redirects with
      | some inner => run fuel inner guarded body
      | none => finish guarded 2
    | .apart body redirects =>
      match ← redirectAll fuel st 1 redirects with
      | some inner => isolated (run fuel inner guarded body)
      | none => finish guarded 2
    | .sequence first second =>
      run fuel st guarded first
      run fuel st guarded second
    | .both first second =>
      run fuel st true first
      if (← get).status = 0 then run fuel st guarded second
    | .either first second =>
      run fuel st true first
      if (← get).status ≠ 0 then run fuel st guarded second
    | .negated c =>
      run fuel st true c
      modify fun s => { s with status := if s.status = 0 then 1 else 0 }
    | .pipe first second =>
      let bs ← piped (run fuel { st with out := .pipe } true first)
      isolated (run fuel { st with input := bs } guarded second)
    | .conditional test accepted refused =>
      run fuel st true test
      if (← get).status = 0 then run fuel st guarded accepted
      else
        modify fun s => { s with status := 0 }
        run fuel st guarded refused
    | .repeated wanted test body =>
      run fuel st true test
      if ((← get).status = 0) = wanted then
        run fuel st guarded body
        run fuel st guarded (.repeated wanted test body)
      else modify fun s => { s with status := 0 }
    | .each name words body =>
      let fields ← words.foldlM (fun f w => return (← expand fuel f w).close) {}
      for value in fields.toList do
        setVariable name value
        run fuel st guarded body

end

def stepLimit : Nat := 20000

def shells : List String :=
  ["/bin/sh", "/bin/dash", "/bin/bash", "/usr/bin/sh", "/usr/bin/dash", "/usr/bin/bash",
    "/usr/bin/env sh", "/usr/bin/env bash"]

/-- The options of the shell in the first line of a script, unless that line names no shell. -/
def firstLine (t : Text) : Except DiskFault Text :=
  match Text.dropPrefix? "#!".toList t with
  | none => .error .unknownFormat
  | some t =>
    let line := (t.takeWhile (· ≠ '\n')).dropWhile isBlank
    match shells.find? fun s => Text.startsWith s.toList line with
    | some s =>
      let rest := line.drop s.length
      if rest.all isBlank ∨ rest.head?.any isBlank then .ok rest else .error .notFound
    | none => .error .notFound

def exec (place : Location) (l : Launch) (t options : Text) (d : Disk) : Ending × Disk :=
  let start : Shell :=
    { name := l.program, disk := d, cwd := place, bindings := l.environment
      arguments := l.arguments, strict := 'e' ∈ options }
  match parse? t with
  | none =>
    let reason := l.program ++ ": 1: Syntax error\n".toList
    (.exited (some 2) [] (Text.Utf8.encode reason), d)
  | some c =>
    let (result, s) := (run stepLimit {} false c).run start
    let code : Option Ending := match result with
      | .ok _ => some (.exited (some s.status) s.stdout s.stderr)
      | .error (.exited status) => some (.exited (some status) s.stdout s.stderr)
      | .error .killed => some (.exited none s.stdout s.stderr)
      | .error .endless => none
    (code.getD .overdue, s.disk)

def isShell (p : Path) : Bool := (shells.any fun s => s.toList = p) && !(' ' ∈ p)

/-- A shell with its arguments: options, then the path of a script, or a script after `-c`. -/
def execShell (place : Location) (l : Launch) (d : Disk) : Ending × Disk :=
  match l.arguments.span fun a => a.head? = some '-' && a ≠ "-c".toList with
  | (options, ['-', 'c'] :: t :: name :: arguments) =>
    exec place { l with program := name, arguments } t options.flatten d
  | (options, [['-', 'c'], t]) => exec place { l with arguments := [] } t options.flatten d
  | (_, [['-', 'c']]) => (.exited (some 2) [] [], d)
  | (options, file :: arguments) =>
    match d.read place file with
    | .ok content =>
      exec place { l with program := file, arguments } (Text.Utf8.decodeLossy content)
        options.flatten d
    | .error _ =>
      let reason := l.program ++ ": 0: cannot open ".toList ++ file ++ ": No such file\n".toList
      (.exited (some 2) [] (Text.Utf8.encode reason), d)
  | (_, []) => (.exited (some 0) [] [], d)

/-- The behaviour of shells, and of programs that are scripts. -/
def behave : Behaviour := fun place l d =>
  if isShell l.program then
    let (ending, d) := execShell place l d
    (.ok ending, d)
  else match d.find [] l.program with
  | .error f => (.error f, d)
  | .ok .directory => (.error .permissionDenied, d)
  | .ok (.file content executable) =>
    if !executable then (.error .permissionDenied, d)
    else
      let t := Text.Utf8.decodeLossy content
      match firstLine t with
      | .error f => (.error f, d)
      | .ok options =>
        let (ending, d) := exec place l t options d
        (.ok ending, d)

end Script
end TestBench
