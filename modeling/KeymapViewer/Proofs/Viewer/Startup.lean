import KeymapViewer.Proofs.Preview.History
import KeymapViewer.Proofs.Query
import KeymapViewer.Proofs.Viewer.BuiltIn

/-!
Viewers that start from a query. If the query names an address, the keymap at
exactly this address is asked for, and the page shows the address from then on,
whatever comes of it; if it names none, nothing happens.
-/

namespace KeymapViewer.Viewer

/-- A text is fetched by fetching its bytes, once. -/
theorem run_text {φ τ : Type} [Fetcher φ τ] (fetch : φ) (location : String)
    (state : τ) :
    (Fetcher.text fetch location).run state =
      (((Fetcher.bytes fetch location).run state).1.map
          Text.Utf8.decodeLenient,
        ((Fetcher.bytes fetch location).run state).2) :=
  rfl

section

variable {μ ς τ φ : Type} [Wasm.Runtime μ ς] [Fetcher φ τ]

/-! ## Asking for keymaps -/

/-- A viewer after the keymap at an address was asked for: what the fetcher is
in now is what one call with this address has left behind, and the page shows
the address. -/
structure HasAsked (viewer : Viewer (Instance μ ς) τ) (fetch : φ)
    (url : String) (after : Viewer (Instance μ ς) τ) : Prop where
  fetched : after.fetched =
    ((Fetcher.bytes fetch url).run viewer.fetched).2
  shows : after.page.ShowsUrl url
  builtIn : after.IsBuiltIn

/-- What a viewer does with the answer. Bytes that are no characters are
replaced. -/
def drawAnswer (waiting : Viewer (Instance μ ς) τ)
    (answer : Except Fault Text.Bytes) :
    Except Fault Bool × Viewer (Instance μ ς) τ :=
  match answer with
  | .error fault => (.error fault, waiting)
  | .ok bytes =>
    let (result, after) :=
      waiting.perform (renderText (Text.Utf8.decodeLenient bytes))
    (result.map fun _ => true, after)

/-- A start that asks for the keymap at an address. -/
structure StartsFrom (viewer : Viewer (Instance μ ς) τ) (fetch : φ)
    (query url : String) : Prop where
  asks : viewer.HasAsked fetch url
    (viewer.perform (startFromQuery fetch query)).2
  /-- It succeeds if there is a keymap and the module draws it. -/
  result : (viewer.perform (startFromQuery fetch query)).1 = do
    let bytes ← ((Fetcher.bytes fetch url).run viewer.fetched).1
    let _ ←
      (viewer.client.renderMarkup (Text.Utf8.decodeLenient bytes)).1
    return true

section

variable [Wasm.LawfulRuntime μ]

theorem HasAsked.drawAnswer {viewer waiting : Viewer (Instance μ ς) τ}
    {fetch : φ} {url : String} (asked : viewer.HasAsked fetch url waiting)
    (answer : Except Fault Text.Bytes) :
    viewer.HasAsked fetch url (waiting.drawAnswer answer).2 := by
  cases answer with
  | error fault =>
      exact asked
  | ok bytes =>
      have leaves := asked.builtIn.drawsAt.renderText
        (Text.Utf8.decodeLenient bytes)
      exact ⟨leaves.fetched.trans asked.fetched,
        asked.builtIn.showsUrl_of_leaves leaves asked.shows,
        asked.builtIn.of_leaves leaves⟩

/-- An answer with a keymap leads to what the module makes of the keymap. -/
theorem IsBuiltIn.drawAnswer {waiting : Viewer (Instance μ ς) τ}
    (builtIn : waiting.IsBuiltIn) (answer : Except Fault Text.Bytes) :
    (waiting.drawAnswer answer).1 = do
      let bytes ← answer
      let _ ←
        (waiting.client.renderMarkup (Text.Utf8.decodeLenient bytes)).1
      return true := by
  cases answer with
  | error fault =>
      rfl
  | ok bytes =>
      let text := Text.Utf8.decodeLenient bytes
      change (waiting.perform (Viewer.renderText text)).1.map (fun _ => true) =
        (waiting.client.renderMarkup text).1 >>= fun _ => pure true
      rw [builtIn.renderText]
      cases (waiting.client.renderMarkup text).1 with
      | error fault =>
          rfl
      | ok markup =>
          rfl

end

/-- A viewer shows an address before it asks for the keymap there. -/
theorem IsBuiltIn.renderFromUrl {viewer : Viewer (Instance μ ς) τ}
    (builtIn : viewer.IsBuiltIn) (fetch : φ) (url : String) :
    ∃ waiting page, viewer.HasAsked fetch url waiting ∧
      waiting.client = viewer.client.setPage page ∧
      viewer.perform (Viewer.renderFromUrl fetch url) =
        match ((Fetcher.bytes fetch url).run viewer.fetched).1 with
        | .ok bytes =>
          waiting.perform (Viewer.renderText (Text.Utf8.decodeLenient bytes))
        | .error fault => (.error fault, waiting) := by
  have tab : viewer.settings.urlTabId = Page.urlTab.id := by
    rw [builtIn.settings]
    rfl
  have name : viewer.settings.urlNameId = Page.urlName.id := by
    rw [builtIn.settings]
    rfl
  obtain ⟨chosen, named, choosing, naming, builtInNamed, shows⟩ :=
    builtIn.page.chooseUrl url
  rw [← tab] at choosing
  rw [← name] at naming
  have chose : viewer.perform selectUrlTab =
      (.ok (), viewer.setPage chosen) :=
    (perform_selectUrlTab viewer).trans (perform_edit_of_ok choosing)
  have stored : (viewer.setPage chosen).perform
      (edit (·.setValue (viewer.setPage chosen).settings.urlNameId url)) =
        (.ok (), viewer.setPage named) :=
    perform_edit_of_ok naming
  have builtInStored : (viewer.setPage named).IsBuiltIn :=
    builtIn.setPage builtInNamed
  have leaves := builtInStored.drawsAt.setSpinner .loading
  obtain ⟨page, spinning⟩ := builtInStored.setSpinner .loading
  rw [spinning] at leaves
  have waiting := builtInStored.of_leaves leaves
  refine ⟨{ viewer.setPage page with
      fetched := ((Fetcher.bytes fetch url).run viewer.fetched).2 }, page,
    ⟨rfl, builtInStored.showsUrl_of_leaves leaves shows, waiting.settings,
      waiting.secluded, waiting.page⟩, rfl, ?_⟩
  have unasked : ((viewer.setPage named).setPage page).fetched =
      viewer.fetched := rfl
  unfold Viewer.renderFromUrl
  simp only [perform_bind, chose, perform_get, stored, spinning,
    perform_fetchText, run_text, unasked]
  cases ((Fetcher.bytes fetch url).run viewer.fetched).1 with
  | ok bytes =>
      rfl
  | error fault =>
      rfl

/-! ## Starting from queries -/

theorem perform_startFromQuery_of_some {viewer : Viewer (Instance μ ς) τ}
    {query encoded url : String}
    (found : queryValue? query fileUrlVariable = some encoded)
    (decoded : Query.decodeComponent encoded = .ok url) (fetch : φ) :
    viewer.perform (startFromQuery fetch query) =
      ((viewer.perform (Viewer.renderFromUrl fetch url)).1.map fun _ => true,
        (viewer.perform (Viewer.renderFromUrl fetch url)).2) := by
  unfold startFromQuery
  simp only [found, perform_bind, perform_look, decoded]
  rcases viewer.perform (Viewer.renderFromUrl fetch url) with
    ⟨fault | done, after⟩
  · rfl
  · rfl

/-- Starting from a query calls the fetcher once, with exactly the address that
the query names, in whatever way it is written there, and a query that names
none changes nothing. This holds of every fetcher, whatever its calls do, and
on every lawful runtime. -/
theorem perform_startFromQuery [Wasm.LawfulRuntime μ]
    {viewer : Viewer (Instance μ ς) τ} (builtIn : viewer.IsBuiltIn)
    (fetch : φ) (query url : String) :
    (Query.Names query fileUrlVariable url → url ≠ "" →
      viewer.StartsFrom fetch query url) ∧
    (Query.LeavesOut query fileUrlVariable →
      viewer.perform (startFromQuery fetch query) = (.ok false, viewer)) := by
  constructor
  · intro names nonempty
    obtain ⟨encoded, found, decoded, written⟩ := names.value? (by decide)
    have value : queryValue? query fileUrlVariable = some encoded := by
      rw [queryValue?, found, Option.filter_some]
      simp [written nonempty]
    obtain ⟨waiting, page, asked, client, same⟩ :=
      builtIn.renderFromUrl fetch url
    have answered : viewer.perform (startFromQuery fetch query) =
        waiting.drawAnswer
          ((Fetcher.bytes fetch url).run viewer.fetched).1 := by
      rw [perform_startFromQuery_of_some value decoded, same]
      cases ((Fetcher.bytes fetch url).run viewer.fetched).1 with
      | ok bytes =>
          rfl
      | error fault =>
          rfl
    constructor
    · rw [answered]
      exact asked.drawAnswer _
    · have samePage (text : String) : (waiting.client.renderMarkup text).1 =
          (viewer.client.renderMarkup text).1 := by
        rw [client, (Client.renderMarkup_alike builtIn.secluded text page).2]
      rw [answered, asked.builtIn.drawAnswer]
      simp only [samePage]
  · intro leavesOut
    have nothing : queryValue? query fileUrlVariable = none := by
      rw [queryValue?, Option.filter_eq_none_iff]
      intro value found
      simp [leavesOut.value? found]
    unfold startFromQuery
    rw [nothing]
    rfl

end

/-- The address of the keymap on a disk with the stub, partly escaped, in a
pair with one more equals sign and before another address. -/
def escapedQuery : String := "?layer=1&fileurl=%6bey%6Dap=x&fileurl=other"

theorem names_escapedQuery :
    Query.Names escapedQuery fileUrlVariable "keymap" := by
  refine ⟨["layer=1".toList], "fileurl=%6bey%6Dap=x".toList,
    ["fileurl=other".toList], "%6bey%6Dap".toList, ⟨by decide, by decide,
      .inl (by decide)⟩, by decide, .inr ⟨['x'], by decide⟩, ?_⟩
  have k : Query.EscapesBytes (Text.Utf8.encodeChar 'k') "%6b".toList :=
    .cons false false 0x6b .nil
  have m : Query.EscapesBytes (Text.Utf8.encodeChar 'm') "%6D".toList :=
    .cons false true 0x6d .nil
  exact .escaped k (.literal (by decide) (.literal (by decide)
    (.escaped m (.literal (by decide) (.literal (by decide) .nil)))))

theorem leavesOut_of_empty :
    Query.LeavesOut "layer=1&fileurl=" fileUrlVariable := by
  refine ⟨["layer=1".toList, "fileurl=".toList],
    ⟨by decide, by decide, .inr (by decide)⟩, fun pair member value gives => ?_⟩
  have found := Query.pairValue?_of_givesValue (by decide) gives
  have nothing : ∀ pair ∈ ["layer=1".toList, "fileurl=".toList],
      (Query.pairValue? fileUrlVariable.toList pair).getD [] = [] := by
    decide
  have empty := nothing pair member
  rwa [found] at empty

/-- The calls of a plain fetcher are noted, so that the one with the address
shows. -/
theorem startFromQuery_of_escapedQuery :
    ∃ viewer : Viewer,
      OpensPlain (Preview.Server.echoDisk "<g></g>") .default "/" viewer ∧
      let fetch := Fetch.bytes (Preview.Server.echoDisk "<g></g>") "/"
      let started := viewer.perform (startFromQuery fetch escapedQuery)
      viewer.StartsFrom fetch escapedQuery "keymap" ∧
      started.1 = .ok true ∧
      started.2.fetched = viewer.fetched ++ ["keymap"] ∧
      viewer.perform (startFromQuery fetch "layer=1&fileurl=") =
        (.ok false, viewer) := by
  have plain : Settings.default.viewer = .default := rfl
  obtain ⟨viewer, opens, echoing⟩ := openWith_echo plain rfl
    (Preview.Server.bytes_echoDisk "<g></g>" .offline)
  refine ⟨viewer, opens, ?_⟩
  intro fetch started
  have starts : viewer.StartsFrom fetch escapedQuery "keymap" :=
    (perform_startFromQuery opens.isBuiltIn fetch escapedQuery "keymap").1
      names_escapedQuery (by decide)
  refine ⟨starts, ?_, starts.asks.fetched,
    (perform_startFromQuery opens.isBuiltIn fetch "layer=1&fileurl="
      "keymap").2 leavesOut_of_empty⟩
  have fits : Stub.echoEnd Stub.heapStart.toNat "<g></g>" ≤ Stub.heapLimit := by
    decide +kernel
  obtain ⟨client, drawn, -⟩ := echoing.echoing.renderMarkup fits
    ((Stub.echoSteps_lt_defaultBudget fits).trans_eq echoing.budget.symm)
  have found : ((Fetcher.bytes fetch "keymap").run viewer.fetched).1 =
      .ok (Text.Utf8.encode "<g></g>") :=
    Preview.Server.bytes_keymap_echoDisk "<g></g>" .offline
  rw [starts.result, found]
  change ((viewer.client.renderMarkup
    (Text.Utf8.decodeLenient (Text.Utf8.encode "<g></g>"))).1 >>=
      fun _ => _) = _
  rw [Text.Utf8.decodeLenient_encode, drawn]
  rfl

end KeymapViewer.Viewer
