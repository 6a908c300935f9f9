/-!
Paths as texts: joining, and the parts between slashes.
-/

namespace KeymapViewer.Path

def isAbsolute (path : String) : Bool := path.toList.head? = some '/'

/-- A path below a base. An absolute path replaces the base; otherwise a slash
separates the two, unless the base is empty or ends with one. Nothing is
normalised. -/
def join (base path : String) : String :=
  if isAbsolute path then path
  else if base.isEmpty || base.toList.getLast? = some '/' then base ++ path
  else base ++ "/" ++ path

def parts (path : String) : List String :=
  ((path.toList.splitOn '/').filter (!·.isEmpty)).map String.ofList

def endsWithSlash (path : String) : Bool :=
  path.toList.getLast? = some '/'

def endsWithNameAndSlash (path : String) : Bool :=
  endsWithSlash path &&
    match (parts path).getLast? with
    | some last => last != "." && last != ".."
    | none => false

def ofParts (parts : List String) : String :=
  "/" ++ "/".intercalate parts

/-- What decides whether two paths are the same: whether they are absolute,
and their parts, where a dot counts only in front of a relative path. -/
def components (path : String) : Bool × List String :=
  match isAbsolute path, parts path with
  | false, "." :: rest => (false, "." :: rest.filter (· != "."))
  | absolute, all => (absolute, all.filter (· != "."))

/-- Equality of paths by their components. -/
def same (first second : String) : Bool :=
  components first == components second

/-- Takes slashes, and dots between slashes, off the end of a path that is
given from its end. A slash in front of everything stays. -/
def trimReversed : List Char → List Char
  | ['/'] => ['/']
  | '/' :: rest => trimReversed rest
  | '.' :: '/' :: rest => trimReversed ('/' :: rest)
  | path => path

/-- The path without its last component, if it has one to lose. -/
def parent? (path : String) : Option String :=
  match trimReversed path.toList.reverse with
  | [] | ['/'] => none
  | trimmed =>
    let outer := trimReversed (trimmed.dropWhile (· != '/'))
    some (String.ofList outer.reverse)

end KeymapViewer.Path
