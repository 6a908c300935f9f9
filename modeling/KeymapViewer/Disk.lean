import KeymapViewer.Path
import KeymapViewer.Text.Utf8

/-!
A disk: files and directories by their absolute paths, and a working
directory from which relative paths start.
-/

namespace KeymapViewer

open Text

namespace Disk

inductive Error where
  | notFound
  | notDirectory
  | isDirectory
  | nameTooLong
  | nulByte
  | notText
  deriving DecidableEq, Repr

def Error.message : Error → String
  | .notFound => "No such file or directory (os error 2)"
  | .notDirectory => "Not a directory (os error 20)"
  | .isDirectory => "Is a directory (os error 21)"
  | .nameTooLong => "File name too long (os error 36)"
  | .nulByte => "file name contained an unexpected NUL byte"
  | .notText => "stream did not contain valid UTF-8"

inductive Node where
  | file (bytes : Bytes)
  | directory
  deriving DecidableEq, Repr

abbrev Place := List String

def nameLimit : Nat := 255

def pathLimit : Nat := 4095

end Disk

structure Disk where
  /-- Every file and every directory but the root. -/
  nodes : List (Disk.Place × Disk.Node)
  workingDirectory : Disk.Place
  deriving Repr

namespace Disk

/-- A place and the places around it, outermost first, without the root. -/
def enclosing : Place → List Place
  | [] => []
  | name :: inner => [name] :: (enclosing inner).map (name :: ·)

/-- A disk with an empty working directory and the directories around it. -/
def new (workingDirectory : Place) : Disk :=
  { nodes := (enclosing workingDirectory).map (·, .directory)
    workingDirectory }

def node? (disk : Disk) (place : Place) : Option Node :=
  if place.isEmpty then some .directory else disk.nodes.lookup place

/-- Goes along the parts of a path. Every place that a further part is looked
up in has to be a directory. -/
def walk (disk : Disk) : Place → List String → Except Error Place
  | place, [] => .ok place
  | place, part :: rest =>
    match disk.node? place with
    | none => .error .notFound
    | some (.file _) => .error .notDirectory
    | some .directory =>
      if part = "." then disk.walk place rest
      else if part = ".." then disk.walk place.dropLast rest
      else if nameLimit < byteLength part then .error .nameTooLong
      else disk.walk (place ++ [part]) rest

def resolveParts (disk : Disk) (path : String) (parts : List String) :
    Except Error Place :=
  if path.toList.contains '\x00' then .error .nulByte
  else if path.isEmpty then .error .notFound
  else if pathLimit < byteLength path then .error .nameTooLong
  else if Path.isAbsolute path then disk.walk [] parts
  else disk.walk disk.workingDirectory parts

/-- The place that a path names; there need not be anything. -/
def resolve (disk : Disk) (path : String) : Except Error Place :=
  disk.resolveParts path (Path.parts path)

/-- What is found at a path. A path that ends with a slash, or with a dot,
only finds directories. -/
def find (disk : Disk) (path : String) : Except Error (Place × Node) := do
  let place ← disk.resolve path
  match disk.node? place with
  | none => throw .notFound
  | some (.file bytes) =>
    if Path.endsWithSlash path then throw .notDirectory
    else return (place, .file bytes)
  | some .directory => return (place, .directory)

def contains (disk : Disk) (path : String) : Bool :=
  (disk.find path).toOption.isSome

def isFile (disk : Disk) (path : String) : Bool :=
  match disk.find path with
  | .ok (_, .file _) => true
  | _ => false

/-- The absolute path of what is found, without dots. -/
def canonical (disk : Disk) (path : String) : Except Error String := do
  return Path.ofParts (← disk.find path).1

def read (disk : Disk) (path : String) : Except Error Bytes := do
  match ← disk.find path with
  | (_, .file bytes) => return bytes
  | (_, .directory) => throw .isDirectory

def readText (disk : Disk) (path : String) : Except Error String := do
  match Utf8.decode (← disk.read path) with
  | .ok text => return text
  | .error _ => throw .notText

def setNode (disk : Disk) (place : Place) (node : Node) : Disk :=
  { disk with
    nodes := (place, node) :: disk.nodes.filter (·.1 != place) }

def requireDirectory (disk : Disk) (place : Place) : Except Error Unit :=
  match disk.node? place with
  | some .directory => .ok ()
  | some (.file _) => .error .notDirectory
  | none => .error .notFound

/-- Puts a file where a path leads to, in a directory that has to be there. A
name with a slash after it can only be that of a directory, so that nothing is
looked up under it. -/
def write (disk : Disk) (path : String) (bytes : Bytes) :
    Except Error Disk := do
  if Path.endsWithNameAndSlash path then
    disk.requireDirectory
      (← disk.resolveParts path (Path.parts path).dropLast)
    throw .isDirectory
  let place ← disk.resolve path
  match disk.node? place with
  | some .directory => throw .isDirectory
  | _ => return disk.setNode place (.file bytes)

def remove (disk : Disk) (path : String) : Except Error Disk := do
  match ← disk.find path with
  | (place, .file _) =>
    return { disk with nodes := disk.nodes.filter (·.1 != place) }
  | (_, .directory) => throw .isDirectory

/-- Moves a file, in place of any file at the new path. -/
def rename (disk : Disk) (source target : String) : Except Error Disk := do
  let bytes ← disk.read source
  (← disk.remove source).write target bytes

/-- Makes a directory and those around it. -/
def makeDirectory (disk : Disk) (path : String) : Disk :=
  let place := disk.workingDirectory ++ Path.parts path
  (enclosing place).foldl (fun disk outer =>
    match disk.node? outer with
    | none => disk.setNode outer .directory
    | some _ => disk) disk

/-- Puts a file at a path below the working directory, and makes the
directories around it. -/
def place (disk : Disk) (path : String) (bytes : Bytes) : Disk :=
  let outer := "/".intercalate (Path.parts path).dropLast
  (disk.makeDirectory outer).setNode
    (disk.workingDirectory ++ Path.parts path) (.file bytes)

end Disk

end KeymapViewer
