import TestBench.Text.Basic

/-! Paths and base addresses: a path begins with a slash, a base address ends without one, and a
navigation target that names its own scheme stands for itself. -/
namespace TestBench
namespace Address

/-- The trimmed path, with a slash in front unless it is empty or has one. -/
def normalizePath (path : Text) : Text :=
  match Text.trim path with
  | [] => []
  | '/' :: rest => '/' :: rest
  | rest => '/' :: rest

def dropTrailingSlashes (t : Text) : Text := (t.reverse.dropWhile (· = '/')).reverse

def normalizeBase (url : Text) : Text := dropTrailingSlashes (Text.trim url)

def checkBase? (url : Text) : Option Text :=
  match normalizeBase url with
  | [] => none
  | base => some base

def isAbsolute (t : Text) : Bool :=
  Text.startsWith "http://".toList t || Text.startsWith "https://".toList t

/-- Where a navigation leads: an absolute target itself, any other one below the base address. -/
def resolve (base path : Text) : Text :=
  let path := Text.trim path
  if isAbsolute path then path else base ++ normalizePath path

end Address
end TestBench
