import KeymapViewer.Fault
import KeymapViewer.Toml.Document

/-!
Settings: the module to load, the names of the page's elements, and where
the development server listens. What a document leaves out keeps its default.
-/

namespace KeymapViewer

structure ModuleSettings where
  path : String
  /-- The name of the render function, in place of the usual one. -/
  entry : Option String
  deriving DecidableEq, Repr

structure ViewerSettings where
  keymapId : String
  spinnerId : String
  urlTabId : String
  urlNameId : String
  textId : String
  layerPrefix : String
  /-- Layers from this number on are not looked for. -/
  maxLayers : Nat
  /-- A file in place of the built-in page. -/
  template : Option String
  deriving DecidableEq, Repr

structure ServerSettings where
  host : String
  port : Nat
  pollIntervalMs : Nat
  deriving DecidableEq, Repr

structure Settings where
  module : ModuleSettings
  viewer : ViewerSettings
  server : ServerSettings
  deriving DecidableEq, Repr

def ModuleSettings.default : ModuleSettings := ⟨"ergoweb.wasm", none⟩

def ViewerSettings.default : ViewerSettings :=
  { keymapId := "keymap"
    spinnerId := "spinny"
    urlTabId := "urltab"
    urlNameId := "urlname"
    textId := "kmtext"
    layerPrefix := "layer"
    maxLayers := 32
    template := none }

def ServerSettings.default : ServerSettings := ⟨"127.0.0.1", 6342, 300⟩

def Settings.default : Settings := ⟨.default, .default, .default⟩

def ViewerSettings.layerId (settings : ViewerSettings) (layer : Nat) :
    String :=
  settings.layerPrefix ++ toString layer

/-! ## From a document -/

namespace Toml

/-- A key of a section, and how its value changes the section. -/
structure Setting (σ : Type) where
  key : String
  set : Value → σ → Option σ

def Setting.apply (setting : Setting σ) (value : Value) (section_ : σ) :
    Except Problem σ :=
  match setting.set value section_ with
  | some changed => .ok changed
  | none => .error (.wrongType setting.key)

def Value.text? : Value → Option String
  | .string text => some text
  | _ => none

/-- An integer from zero up to a limit. -/
def Value.nat? (limit : Nat) : Value → Option Nat
  | .integer value =>
    if 0 ≤ value ∧ value < limit then some value.toNat else none
  | _ => none

/-- Sets what a table names. -/
def setNamed (settings : List (Setting σ)) (section_ : σ)
    (entries : List (String × Value)) : Except Problem σ :=
  entries.foldlM (fun current (key, value) =>
    match settings.find? (·.key == key) with
    | some setting => setting.apply value current
    | none => .error (.unknownKey key)) section_

/-- Sets the first settings in their order; further values are ignored. -/
def setInOrder (settings : List (Setting σ)) (section_ : σ)
    (values : List Value) : Except Problem σ :=
  (settings.zip values).foldlM (fun current (setting, value) =>
    setting.apply value current) section_

/-- A section is written as a table, or as an array of its values. -/
def readSection (settings : List (Setting σ)) (initial : σ) :
    Value → Option σ
  | .table entries => (setNamed settings initial entries).toOption
  | .array values => (setInOrder settings initial values).toOption
  | _ => none

end Toml

namespace Settings

open Toml

def moduleKeys : List (Setting ModuleSettings) :=
  [⟨"path", fun value settings => do
      return { settings with path := ← value.text? }⟩,
    ⟨"entry", fun value settings => do
      return { settings with entry := some (← value.text?) }⟩]

def viewerKeys : List (Setting ViewerSettings) :=
  [⟨"keymap_id", fun value settings => do
      return { settings with keymapId := ← value.text? }⟩,
    ⟨"spinner_id", fun value settings => do
      return { settings with spinnerId := ← value.text? }⟩,
    ⟨"url_tab_id", fun value settings => do
      return { settings with urlTabId := ← value.text? }⟩,
    ⟨"url_name_id", fun value settings => do
      return { settings with urlNameId := ← value.text? }⟩,
    ⟨"text_id", fun value settings => do
      return { settings with textId := ← value.text? }⟩,
    ⟨"layer_prefix", fun value settings => do
      return { settings with layerPrefix := ← value.text? }⟩,
    ⟨"max_layers", fun value settings => do
      return { settings with maxLayers := ← value.nat? (wordCount 64) }⟩,
    ⟨"template", fun value settings => do
      return { settings with template := some (← value.text?) }⟩]

def serverKeys : List (Setting ServerSettings) :=
  [⟨"host", fun value settings => do
      return { settings with host := ← value.text? }⟩,
    ⟨"port", fun value settings => do
      return { settings with port := ← value.nat? (wordCount 16) }⟩,
    ⟨"poll_interval_ms", fun value settings => do
      return { settings with pollIntervalMs := ← value.nat? (wordCount 64) }⟩]

def sectionKeys : List (Setting Settings) :=
  [⟨"module", fun value settings => do
      return { settings with
        module := ← readSection moduleKeys .default value }⟩,
    ⟨"viewer", fun value settings => do
      return { settings with
        viewer := ← readSection viewerKeys .default value }⟩,
    ⟨"dev_server", fun value settings => do
      return { settings with
        server := ← readSection serverKeys .default value }⟩]

/-- The settings in a document; `path` names it in faults. -/
def ofToml (source path : String) : Except Fault Settings :=
  match (Toml.parse source).bind (setNamed sectionKeys .default) with
  | .error problem =>
    .error ((Fault.config
      s!"Malformed settings file: {problem.message}").withDetail .path path)
  | .ok settings =>
    if settings.viewer.maxLayers = 0 then
      .error ((Fault.config
        "[viewer] max_layers must be at least 1").withDetail .path path)
    else
      .ok settings

end Settings

end KeymapViewer
