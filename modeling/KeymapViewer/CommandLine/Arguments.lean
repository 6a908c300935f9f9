import KeymapViewer.CommandLine.Command
import KeymapViewer.Text.Numeral

/-!
Reading the words of a command line. A word that begins with two dashes is
a flag; it never counts as the value of another flag. Where a flag is given
more than once, the last value counts.
-/

namespace KeymapViewer

def isFlag (word : String) : Bool := "--".isPrefixOf word

/-- A flag with a value, and what the value does to what was read before. -/
structure Flag (σ : Type) where
  name : String
  set : String → σ → Except UsageFault σ

structure Grammar (σ : Type) where
  flags : List (Flag σ)
  unknownFlag : String → UsageFault
  positional : String → σ → Except UsageFault σ

namespace Grammar

def flag? (grammar : Grammar σ) (word : String) : Option (Flag σ) :=
  grammar.flags.find? (·.name == word)

/-- Reads words one after another; the first that does not fit is the
fault. -/
def read (grammar : Grammar σ) : List String → σ → Except UsageFault σ
  | [], options => .ok options
  | word :: rest, options =>
    match grammar.flag? word with
    | some flag =>
      match rest with
      | [] => .error (.missingValue word)
      | value :: rest =>
        if isFlag value then .error (.missingValue word)
        else
          match flag.set value options with
          | .ok options => grammar.read rest options
          | .error fault => .error fault
    | none =>
      if isFlag word then .error (grammar.unknownFlag word)
      else
        match grammar.positional word options with
        | .ok options => grammar.read rest options
        | .error fault => .error fault

end Grammar

/-! ## Rendering and loading -/

structure PageDraft where
  positional : Option String
  options : RenderOptions
  deriving DecidableEq, Repr

namespace PageDraft

def empty : PageDraft := ⟨none, .none⟩

def moduleFlag : Flag PageDraft where
  name := "--module"
  set value draft :=
    .ok { draft with options := { draft.options with module := some value } }

def outFlag : Flag PageDraft where
  name := "--out"
  set value draft :=
    .ok { draft with options := { draft.options with out := some value } }

def layerFlag : Flag PageDraft where
  name := "--layer"
  set value draft :=
    match Text.readWord? 64 value with
    | some layer =>
      .ok { draft with options := { draft.options with layer := some layer } }
    | none => .error (.badLayer value)

end PageDraft

def PageCommand.flags : PageCommand → List (Flag PageDraft)
  | .render => [PageDraft.moduleFlag, PageDraft.outFlag, PageDraft.layerFlag]
  | .load => [PageDraft.moduleFlag, PageDraft.outFlag]

/-- Takes flags and at most one other word. -/
def PageCommand.grammar (command : PageCommand) : Grammar PageDraft where
  flags := command.flags
  unknownFlag word := .unknownPageFlag command word
  positional word draft :=
    match draft.positional with
    | none => .ok { draft with positional := some word }
    | some _ => .error (.secondPositional command)

def PageCommand.read (command : PageCommand) (words : List String) :
    Except UsageFault PageDraft :=
  command.grammar.read words .empty

/-! ## The preview server -/

/-- What was read of the command that serves; an empty path is none yet. -/
structure ServerDraft where
  keymap : String
  module : Option String
  overrides : ServerOverrides
  deriving DecidableEq, Repr

namespace ServerDraft

def empty : ServerDraft := ⟨"", none, .none⟩

def moduleFlag : Flag ServerDraft where
  name := "--module"
  set value draft := .ok { draft with module := some value }

def hostFlag : Flag ServerDraft where
  name := "--host"
  set value draft :=
    .ok { draft with overrides := { draft.overrides with host := some value } }

def portFlag : Flag ServerDraft where
  name := "--port"
  set value draft :=
    match Text.readWord? 16 value with
    | some port =>
      .ok { draft with
        overrides := { draft.overrides with port := some port } }
    | none => .error (.badPort value)

def intervalFlag : Flag ServerDraft where
  name := "--poll-interval-ms"
  set value draft :=
    match Text.readWord? 64 value with
    | some 0 => .error .zeroInterval
    | some interval =>
      .ok { draft with
        overrides := { draft.overrides with pollIntervalMs := some interval } }
    | none => .error (.badInterval value)

def grammar : Grammar ServerDraft where
  flags := [moduleFlag, hostFlag, portFlag, intervalFlag]
  unknownFlag := .unknownServerFlag
  positional word draft :=
    if draft.keymap.isEmpty then .ok { draft with keymap := word }
    else .error .secondKeymap

end ServerDraft

/-! ## Stand-in modules -/

structure StubDraft where
  out : Option String
  kind : Stub.Kind
  deriving DecidableEq, Repr

def StubDraft.take (draft : StubDraft) (word : String) :
    Except UsageFault StubDraft :=
  if word = "--bindgen" then .ok { draft with kind := .bindgen }
  else if word = "--throwing" then .ok { draft with kind := .throwing }
  else if isFlag word then .error (.unknownStubFlag word)
  else
    match draft.out with
    | none => .ok { draft with out := some word }
    | some _ => .error .secondStubPath

/-! ## Commands -/

namespace Command

def readRender (words : List String) : Except UsageFault Command := do
  let draft ← PageCommand.render.read words
  match draft.positional with
  | some source => return .render source draft.options
  | none => throw .missingSource

def readLoad (words : List String) : Except UsageFault Command := do
  let draft ← PageCommand.load.read words
  return .load (draft.positional.getD "") draft.options

def readDev (words : List String) : Except UsageFault Command := do
  let draft ← ServerDraft.grammar.read words .empty
  if draft.keymap.isEmpty then
    throw .missingKeymap
  return .dev draft.keymap draft.module draft.overrides

def readInspect : List String → Except UsageFault Command
  | [] => .error .missingModule
  | [location] => .ok (.inspect location)
  | _ => .error .secondModule

def readStub (words : List String) : Except UsageFault Command := do
  let draft ← words.foldlM StubDraft.take ⟨none, .cString⟩
  match draft.out with
  | some out => return .stub out draft.kind
  | none => throw .missingStubPath

/-- Reads a command. No words at all ask for help. -/
def ofWords : List String → Except UsageFault Command
  | [] | "help" :: _ | "--help" :: _ | "-h" :: _ => .ok .help
  | "render" :: words => readRender words
  | "load" :: words => readLoad words
  | "dev" :: words => readDev words
  | "inspect" :: words => readInspect words
  | "stub" :: words => readStub words
  | name :: _ => .error (.unknownCommand name)

end Command

/-! ## The whole line -/

def configFlag : String := "--config"

/-- Takes the settings file out of the words, wherever it is named. The
result holds the other words in their order. -/
def splitConfig :
    List String → Except UsageFault (List String × Option String)
  | [] => .ok ([], none)
  | word :: rest =>
    if word = configFlag then
      match rest with
      | [] => .error (.missingValue configFlag)
      | path :: rest =>
        if isFlag path then .error (.missingValue configFlag)
        else
          (splitConfig rest).map fun (words, later) =>
            (words, some (later.getD path))
    else
      (splitConfig rest).map fun (words, config) => (word :: words, config)

structure Invocation where
  config : Option String
  command : Command
  deriving DecidableEq, Repr

def Invocation.ofWords (words : List String) :
    Except UsageFault Invocation := do
  let (words, config) ← splitConfig words
  return ⟨config, ← Command.ofWords words⟩

end KeymapViewer
