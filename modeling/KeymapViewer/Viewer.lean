import KeymapViewer.Client
import KeymapViewer.Fetch
import KeymapViewer.Page.Form
import KeymapViewer.Page.Style
import KeymapViewer.Page.Template
import KeymapViewer.Query
import KeymapViewer.Settings

/-!
The viewer: tabs, the spinner, the visible layers and the rendering of
keymaps. Nothing is undone when an action fails; in particular the spinner
keeps showing.
-/

namespace KeymapViewer

/-- A viewer that draws with a guest `σ` and fetches with a fetcher whose
state is `τ`. -/
structure Viewer (σ : Type := Instance) (τ : Type := List String) where
  client : Client σ
  settings : ViewerSettings
  /-- The state of the fetcher; of a plain one, the locations that keymaps
  were fetched from, in their order. -/
  fetched : τ

inductive Spinner where
  | idle
  | loading
  deriving DecidableEq, Repr

/-- The value of the style property that shows the spinner or not. -/
def Spinner.display : Spinner → String
  | .idle => "none"
  | .loading => "block"

def Spinner.ofDisplay (display : String) : Spinner :=
  if display = Spinner.loading.display then .loading else .idle

def Spinner.other : Spinner → Spinner
  | .idle => .loading
  | .loading => .idle

namespace Viewer

def visible : String := "visible"

def hidden : String := "hidden"

def fileUrlVariable : String := "fileurl"

def layerVariable : String := "layer"

/-- What can be done with a viewer. Whether it fails or not, the viewer may
have changed. -/
abbrev ActionOn (σ τ α : Type) : Type := ExceptT Fault (StateM (Viewer σ τ)) α

abbrev Action (α : Type) : Type := ActionOn Instance (List String) α

section Actions

variable {σ τ φ α : Type}

def new (client : Client σ) (settings : ViewerSettings) : Viewer σ :=
  ⟨client, settings, []⟩

def perform (viewer : Viewer σ τ) (action : ActionOn σ τ α) :
    Except Fault α × Viewer σ τ :=
  action.run.run viewer

variable [Renderer σ]

def page (viewer : Viewer σ τ) : Page := viewer.client.page

def setPage (viewer : Viewer σ τ) (page : Page) : Viewer σ τ :=
  { viewer with client := viewer.client.setPage page }

/-- The layers that are marked visible, in their order. -/
def visibleLayers (viewer : Viewer σ τ) : List Nat :=
  (List.range viewer.settings.maxLayers).filter fun layer =>
    match viewer.page.attribute? (viewer.settings.layerId layer)
        "visibility" with
    | .ok value => value == some visible
    | .error _ => false

def spinner (viewer : Viewer σ τ) : Except Fault Spinner :=
  (viewer.page.styleProperty viewer.settings.spinnerId "display").map
    Spinner.ofDisplay

/-! ## Actions -/

def edit (change : Page → Except Fault Page) : ActionOn σ τ Unit := do
  let viewer ← get
  match change viewer.page with
  | .ok page => set (viewer.setPage page)
  | .error fault => throw fault

def look (view : Viewer σ τ → Except Fault α) : ActionOn σ τ α := do
  match view (← get) with
  | .ok value => return value
  | .error fault => throw fault

def setSpinner (state : Spinner) : ActionOn σ τ Unit := do
  let settings := (← get).settings
  edit (·.setStyleProperty settings.spinnerId "display" state.display)

/-- Shows the spinner if it does not show, and hides it if it does. -/
def toggleSpinner : ActionOn σ τ Spinner := do
  let next := (← look spinner).other
  setSpinner next
  return next

/-- The page with exactly the given layers visible, of those that it has. -/
def markLayers (settings : ViewerSettings) (layers : List Nat)
    (page : Page) : Except Fault Page :=
  (List.range settings.maxLayers).foldlM (fun page layer =>
    let id := settings.layerId layer
    if page.contains id then
      page.setAttribute id "visibility"
        (if layers.contains layer then visible else hidden)
    else
      .ok page) page

def showLayers (layers : List Nat) : ActionOn σ τ Unit := do
  let settings := (← get).settings
  edit (markLayers settings layers)

def showOnlyLayer (layer : Nat) : ActionOn σ τ Unit := showLayers [layer]

def setLayer (layer : Nat) (visibility : String) : ActionOn σ τ Unit := do
  let id := (← get).settings.layerId layer
  edit (·.setAttribute id "visibility" visibility)

def showLayer (layer : Nat) : ActionOn σ τ Unit := setLayer layer visible

def hideLayer (layer : Nat) : ActionOn σ τ Unit := setLayer layer hidden

/-- Shows layer 0 alone. A page without it cannot be used. -/
def onLoad : ActionOn σ τ Unit := do
  let viewer ← get
  let first := viewer.settings.layerId 0
  if !viewer.page.contains first then
    throw (.missingElement first)
  showOnlyLayer 0

def drawInto (text id : String) : ActionOn σ τ Unit := do
  let viewer ← get
  let (result, client) := viewer.client.renderInto text id
  set { viewer with client }
  match result with
  | .ok () => return ()
  | .error fault => throw fault

/-- Draws a keymap and goes back to layer 0. -/
def renderText (text : String) : ActionOn σ τ Unit := do
  setSpinner .loading
  drawInto text (← get).settings.keymapId
  showOnlyLayer 0
  setSpinner .idle

def selectUrlTab : ActionOn σ τ Unit := do
  let settings := (← get).settings
  edit (·.setChecked settings.urlTabId true)

/-- Fetches the keymap at a location. -/
def fetchText [Fetcher φ τ] (fetch : φ) (location : String) :
    ActionOn σ τ String := do
  let viewer ← get
  let (result, fetched) := (Fetcher.text fetch location).run viewer.fetched
  set { viewer with fetched }
  match result with
  | .ok text => return text
  | .error fault => throw fault

/-- Draws the keymap at a location, which is shown in the page. -/
def renderFromUrl [Fetcher φ τ] (fetch : φ) (url : String) :
    ActionOn σ τ Unit := do
  selectUrlTab
  let settings := (← get).settings
  edit (·.setValue settings.urlNameId url)
  setSpinner .loading
  renderText (← fetchText fetch url)

def renderFromTextField : ActionOn σ τ Unit := do
  renderText (← look fun viewer => viewer.page.value viewer.settings.textId)

def queryValue? (query name : String) : Option String :=
  (Query.value? query name).filter (!·.isEmpty)

/-- Draws the keymap that a query names. The result tells whether it names
one. -/
def startFromQuery [Fetcher φ τ] (fetch : φ) (query : String) :
    ActionOn σ τ Bool := do
  match queryValue? query fileUrlVariable with
  | none => return false
  | some encoded =>
    let url ← look fun _ => Query.decodeComponent encoded
    renderFromUrl fetch url
    return true

/-- The layer that a value of a query names. -/
def layerOf (value : String) : Except Fault Nat :=
  match Text.readWord? 64 value with
  | some layer => .ok layer
  | none => .error (.config s!"Layer '{value}' is not a layer number")

/-- Shows the layer that a query names, if it names one. -/
def applyLayerQuery (query : String) : ActionOn σ τ (Option Nat) := do
  match queryValue? query layerVariable with
  | none => return none
  | some value =>
    let layer ← look fun _ => layerOf value
    showOnlyLayer layer
    return some layer

end Actions

/-! ## Opening -/

/-- The page that the settings name, or the built-in one. -/
def loadPage (disk : Disk) (settings : ViewerSettings) :
    Except Fault Page :=
  match settings.template with
  | none => .ok (.parse Page.template)
  | some path =>
    match disk.readText path with
    | .ok html => .ok (.parse html)
    | .error error =>
      .error (.file path s!"Could not read page template: {error.message}")

section Opening

variable {ς : Type}

/-- Fetches the module at a location and starts it on a page. -/
def loadClient (fetch : FetchBytes) (location : String)
    (entryName : Option String) (page : Page) (μ : Type := Wasm.Module)
    [Wasm.Runtime μ ς] : Except Fault (Client (Instance μ ς)) := do
  Client.instantiate (← fetch location) entryName page μ

/-- A viewer on its page after loading, as the settings describe it. Relative
locations start from the base directory. -/
def openWith (disk : Disk) (settings : Settings) (base : String)
    (network : Network := .offline) (μ : Type := Wasm.Module)
    [Wasm.Runtime μ ς] : Except Fault (Viewer (Instance μ ς)) := do
  let page ← loadPage disk settings.viewer
  let client ← loadClient (Fetch.bytes disk base network)
    settings.module.path settings.module.entry page μ
  match (new client settings.viewer).perform onLoad with
  | (.ok (), viewer) => return viewer
  | (.error fault, _) => throw fault

end Opening

end Viewer

/-! ## Settings from disk -/

def Settings.fileName : String := "ergoweb.toml"

/-- Reads a settings file: the one that is named, which has to be there, or
else the usual one, if there is one. -/
def Settings.load (disk : Disk) (path : Option String) :
    Except Fault Settings := do
  let path ←
    match path with
    | some path =>
      if disk.contains path then pure path
      else throw (Fault.file path "Settings file does not exist")
    | none =>
      if disk.contains fileName then pure fileName
      else return .default
  match disk.readText path with
  | .ok source => ofToml source path
  | .error error =>
    throw (Fault.file path s!"Could not read settings file: {error.message}")

end KeymapViewer
