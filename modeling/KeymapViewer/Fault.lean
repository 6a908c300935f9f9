import KeymapViewer.Terminal

/-!
What can go wrong while a module is loaded, strings cross its boundary or the
viewer page is driven. A fault has a kind, a message and named details, and
is shown as one line, as a report, or in colour.
-/

namespace KeymapViewer

/-- Where the cause of a fault lies. -/
inductive Fault.Kind where
  /-- A missing element of the page, or malformed settings. -/
  | config
  /-- Module and host disagree about memory, handles or ownership. -/
  | contract
  | network
  /-- The module threw a message. -/
  | reported
  /-- Reading, compiling or starting the module, or a trap inside it. -/
  | module
  | file
  | devServer
  deriving DecidableEq, Repr

def Fault.Kind.label : Fault.Kind → String
  | .config => "Configuration Error"
  | .contract => "Module Contract Violation"
  | .network => "Network Error"
  | .reported => "Keymap Module Error"
  | .module => "Module Load Error"
  | .file => "File Error"
  | .devServer => "Dev Server Issue"

def Fault.Kind.styles : Fault.Kind → List Terminal.Style
  | .contract | .module => [.red]
  | .network | .file | .devServer => [.yellow]
  | .config | .reported => [.dim, .magenta]

inductive Fault.Key where
  | elementId
  | pointer
  | length
  | memorySize
  | handle
  | exportName
  | importName
  | url
  | path
  | primarySuggestion
  deriving DecidableEq, Repr

def Fault.Key.name : Fault.Key → String
  | .elementId => "ElementId"
  | .pointer => "Pointer"
  | .length => "Length"
  | .memorySize => "MemorySize"
  | .handle => "Handle"
  | .exportName => "ExportName"
  | .importName => "ImportName"
  | .url => "Url"
  | .path => "Path"
  | .primarySuggestion => "PrimarySuggestion"

/-- All keys, in the order of their names. -/
def Fault.Key.sorted : List Fault.Key :=
  [.elementId, .exportName, .handle, .importName, .length, .memorySize,
    .path, .pointer, .primarySuggestion, .url]

structure Fault where
  kind : Fault.Kind
  message : String
  details : List (Fault.Key × String)
  deriving DecidableEq, Repr

namespace Fault

def new (kind : Kind) (message : String) : Fault := ⟨kind, message, []⟩

def detail? (fault : Fault) (key : Key) : Option String :=
  fault.details.lookup key

/-- Adds a detail, in place of an earlier one with the same key. -/
def withDetail (fault : Fault) (key : Key) (value : String) : Fault :=
  let others := fault.details.filter (·.1 != key)
  { fault with details := others ++ [(key, value)] }

def withKind (fault : Fault) (kind : Kind) : Fault :=
  { fault with kind }

/-! ## Faults by kind -/

def config (message : String) : Fault := new .config message

def contract (message : String) : Fault := new .contract message

def network (url message : String) : Fault :=
  (new .network message).withDetail .url url

def reported (message : String) : Fault := new .reported message

def module (message : String) : Fault := new .module message

def file (path message : String) : Fault :=
  (new .file message).withDetail .path path

def devServer (message : String) : Fault := new .devServer message

def missingElement (id : String) : Fault :=
  (config s!"Element with id '{id}' does not exist in the page").withDetail
    .elementId id

def isContract (fault : Fault) : Bool := fault.kind = .contract

def isConfig (fault : Fault) : Bool := fault.kind = .config

/-! ## Showing a fault -/

/-- The details in the order of their names. -/
def sortedDetails (fault : Fault) : List (Key × String) :=
  Key.sorted.filterMap fun key => (fault.detail? key).map (key, ·)

def display (fault : Fault) : String :=
  s!"[{fault.kind.label}] {fault.message}"

/-- The fault in one line and a further line for each detail. -/
def report (fault : Fault) : String :=
  fault.display ++ "\n" ++ String.join (fault.sortedDetails.map
    fun (key, value) => s!"  {key.name}: {value}\n")

def printed (fault : Fault) : String :=
  let styles := fault.kind.styles
  Terminal.line
      [⟨styles, fault.kind.label⟩, ⟨styles, ": "⟩, .plain fault.message] ++
    String.join (fault.sortedDetails.map fun (key, value) =>
      Terminal.line [.styled .gray "  ", .plain key.name, .plain ": ",
        .plain value])

end Fault

end KeymapViewer
