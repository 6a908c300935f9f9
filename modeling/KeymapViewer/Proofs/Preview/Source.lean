import KeymapViewer.CommandLine.Run
import KeymapViewer.Proofs.Page.Value
import KeymapViewer.Proofs.Preview.History
import KeymapViewer.Proofs.Text.Utf8
import KeymapViewer.Proofs.Viewer.BuiltIn

/-!
The two ways to a drawing of a keymap file. The command line reads the file
leniently, and takes its text through the text field of the page, which hands
it on as it is; the server reads it strictly, and draws it at once. So the two
draw the same text exactly if the file is a text.
-/

namespace KeymapViewer

open Text Stub

namespace Viewer

/-- A text goes through the text field unchanged. -/
theorem perform_renderSource {viewer : Viewer} (fresh : viewer.page.IsFresh)
    (field : viewer.page.contains viewer.settings.textId = true)
    {fetch : FetchBytes} {source : String} {bytes : Bytes}
    (near : Fetch.isRemote source = false)
    (fetched : fetch source = .ok bytes) :
    ∃ page,
      viewer.page.setValue viewer.settings.textId
          (Utf8.decodeLenient bytes) = .ok page ∧
      page.value viewer.settings.textId = .ok (Utf8.decodeLenient bytes) ∧
      viewer.perform (renderSource fetch source) =
        (viewer.setPage page).perform
          (renderText (Utf8.decodeLenient bytes)) := by
  rw [fresh.contains_eq] at field
  obtain ⟨position, first⟩ := Option.isSome_iff_exists.mp field
  obtain ⟨page, stored, -, value, -⟩ :=
    fresh.setValue first (Utf8.decodeLenient bytes)
  refine ⟨page, stored, value, ?_⟩
  have text : Fetch.text fetch source = .ok (Utf8.decodeLenient bytes) := by
    rw [Fetch.text, fetched]
    rfl
  have again : (viewer.setPage page).page.value
      (viewer.setPage page).settings.textId =
        .ok (Utf8.decodeLenient bytes) :=
    value
  unfold renderSource
  simp only [near, Bool.false_eq_true, ↓reduceIte, perform_bind,
    perform_look, text, perform_get, perform_edit, stored,
    renderFromTextField, again]

/-- On the built-in page the text field takes any text, and drawing a file
comes to what the module answers. -/
theorem IsBuiltIn.renderSource {viewer : Viewer} (builtIn : viewer.IsBuiltIn)
    {fetch : FetchBytes} {source : String} {bytes : Bytes}
    (near : Fetch.isRemote source = false)
    (fetched : fetch source = .ok bytes) :
    (viewer.perform (Viewer.renderSource fetch source)).1 =
      (viewer.client.renderMarkup (Utf8.decodeLenient bytes)).1.map
        fun _ => () := by
  have name : viewer.settings.textId = Page.textField.id := by
    rw [builtIn.settings]
    rfl
  obtain ⟨page, stored, -, performed⟩ :=
    perform_renderSource builtIn.page.fresh builtIn.contains_textId near
      fetched
  obtain ⟨after, done, builtInAfter, -⟩ :=
    builtIn.page.setText (Utf8.decodeLenient bytes)
  rw [name] at stored
  obtain rfl := Except.ok.inj (stored.symm.trans done)
  rw [performed, (builtIn.setPage builtInAfter).renderText]
  change ((viewer.client.setPage page).renderMarkup _).1.map _ = _
  rw [(Client.renderMarkup_alike builtIn.secluded _ page).2]

end Viewer

namespace Preview.Server

/-- The server draws the text of the keymap file, if it is one. -/
theorem draw_eq (server : Server) (disk : Disk) :
    server.draw disk =
      match readKeymap disk server.keymap with
      | .ok text =>
        ((server.viewer.perform (Viewer.renderText text)).1,
          { server with
            viewer := (server.viewer.perform (Viewer.renderText text)).2 })
      | .error fault => (.error fault, server) := by
  unfold draw
  cases readKeymap disk server.keymap with
  | ok text =>
      rfl
  | error fault =>
      rfl

/-- The fault about a keymap file that is no text. -/
def notText (keymap : String) : Fault :=
  .file keymap
    s!"Could not read keymap file: {Disk.Error.message .notText}"

theorem readKeymap_of_no_text {disk : Disk} {keymap : String} {bytes : Bytes}
    (read : disk.read keymap = .ok bytes)
    (noText : ∀ text, Utf8.encode text ≠ bytes) :
    readKeymap disk keymap = .error (notText keymap) := by
  cases decoded : Utf8.decode bytes with
  | ok text =>
      exact absurd ((Utf8.decode_eq_ok_iff ..).mp decoded) (noText text)
  | error fault =>
      simp only [readKeymap, Disk.readText, read, bind, Except.bind, decoded]
      rfl

/-- What the command line and the server make of a local file with some
bytes. -/
structure DrawsFile (server : Server) (disk : Disk) (fetch : FetchBytes)
    (source : String) (bytes : Bytes) : Prop where
  /-- The command line draws the text that is read leniently. -/
  command : ∃ page,
    server.viewer.page.setValue server.viewer.settings.textId
        (Utf8.decodeLenient bytes) = .ok page ∧
    page.value server.viewer.settings.textId =
      .ok (Utf8.decodeLenient bytes) ∧
    server.viewer.perform (Viewer.renderSource fetch source) =
      (server.viewer.setPage page).perform
        (Viewer.renderText (Utf8.decodeLenient bytes))
  /-- The server draws the same text if the bytes are a text. -/
  text : ∀ text, Utf8.encode text = bytes →
    Utf8.decodeLenient bytes = text ∧
      server.draw disk =
        ((server.viewer.perform (Viewer.renderText text)).1,
          { server with
            viewer := (server.viewer.perform (Viewer.renderText text)).2 })
  /-- The server draws nothing if they are none. -/
  noText : (∀ text, Utf8.encode text ≠ bytes) →
    server.draw disk = (.error (notText server.keymap), server)
  agree_iff : readKeymap disk server.keymap = Fetch.text fetch source ↔
    ∃ text, Utf8.encode text = bytes
  /-- On the built-in page both come to the same then. -/
  outcome : server.viewer.IsBuiltIn → ∀ text, Utf8.encode text = bytes →
    (server.viewer.perform (Viewer.renderSource fetch source)).1 =
      (server.draw disk).1

/-- Both ways lead to the same text for the files that are UTF-8, whatever is
written in them, and for no others. -/
theorem drawsFile {server : Server} {disk : Disk} {fetch : FetchBytes}
    {source : String} {bytes : Bytes}
    (fresh : server.viewer.page.IsFresh)
    (field : server.viewer.page.contains server.viewer.settings.textId =
      true)
    (near : Fetch.isRemote source = false)
    (fetched : fetch source = .ok bytes)
    (read : disk.read server.keymap = .ok bytes) :
    server.DrawsFile disk fetch source bytes where
  command := Viewer.perform_renderSource fresh field near fetched
  text := by
    rintro text rfl
    refine ⟨Utf8.decodeLenient_encode text, ?_⟩
    rw [draw_eq, readKeymap_of_text read]
  noText noText := by
    rw [draw_eq, readKeymap_of_no_text read noText]
  agree_iff := by
    rw [Fetch.text, fetched]
    constructor
    · intro same
      by_contra noText
      push Not at noText
      rw [readKeymap_of_no_text read noText] at same
      cases same
    · rintro ⟨text, rfl⟩
      rw [readKeymap_of_text read]
      exact congrArg Except.ok (Utf8.decodeLenient_encode text).symm
  outcome := by
    rintro builtIn text rfl
    rw [builtIn.renderSource near fetched, draw_eq, readKeymap_of_text read,
      Utf8.decodeLenient_encode]
    exact (builtIn.renderText text).symm

theorem drawsFile_echoDisk :
    ∃ viewer : Viewer,
      Viewer.OpensPlain (echoDisk "<g>&amp;</g>") .default "/" viewer ∧
      (new viewer "keymap").DrawsFile (echoDisk "<g>&amp;</g>")
        (Fetch.bytes (echoDisk "<g>&amp;</g>") "/") "keymap"
        (Utf8.encode "<g>&amp;</g>") := by
  have plain : Settings.default.viewer = .default := rfl
  obtain ⟨viewer, opens, -⟩ :=
    Viewer.openWith_echo plain rfl (bytes_echoDisk "<g>&amp;</g>" .offline)
  have builtIn := opens.isBuiltIn
  have read : (echoDisk "<g>&amp;</g>").read "keymap" =
      .ok (Utf8.encode "<g>&amp;</g>") := rfl
  have server : (new viewer "keymap").viewer = viewer := rfl
  exact ⟨viewer, opens, drawsFile (server ▸ builtIn.page.fresh)
    builtIn.contains_textId (by decide +kernel)
    (bytes_keymap_echoDisk "<g>&amp;</g>" .offline) read⟩

/-- A disk with the stub, and with a keymap that is no text. -/
def brokenDisk : Disk :=
  { nodes := [
      (["ergoweb.wasm"], .file (Kind.binary .cString)),
      (["keymap"], .file [0xFF])]
    workingDirectory := [] }

/-- The command line draws a keymap that the server does not read. -/
theorem draws_brokenDisk :
    ∃ viewer : Viewer, Viewer.OpensPlain brokenDisk .default "/" viewer ∧
      Fetch.text (Fetch.bytes brokenDisk "/") "keymap" =
        .ok (String.singleton Utf8.replacement) ∧
      (viewer.perform (Viewer.renderSource (Fetch.bytes brokenDisk "/")
        "keymap")).1 = .ok () ∧
      (new viewer "keymap").draw brokenDisk =
        (.error (notText "keymap"), new viewer "keymap") := by
  have plain : Settings.default.viewer = .default := rfl
  have read : brokenDisk.read "keymap" = .ok [0xFF] := rfl
  have leads : Fetch.path "/" "keymap" = "/keymap" := by
    decide +kernel
  have fetched : Fetch.bytes brokenDisk "/" .offline "keymap" =
      .ok [0xFF] :=
    bytes_of_path (by decide +kernel) leads rfl
  have lenient : Utf8.decodeLenient [0xFF] =
      String.singleton Utf8.replacement := by
    decide +kernel
  have module : Fetch.bytes brokenDisk "/" .offline "ergoweb.wasm" =
      .ok (Kind.binary .cString) := bytes_of_read rfl
  obtain ⟨viewer, opens, echoing⟩ := Viewer.openWith_echo plain rfl module
  refine ⟨viewer, opens, ?_, ?_, ?_⟩
  · rw [Fetch.text, fetched, Except.map, lenient]
  · have fits : echoEnd heapStart.toNat (String.singleton Utf8.replacement) ≤
        heapLimit := by
      decide +kernel
    obtain ⟨client, drawn, -⟩ := echoing.echoing.renderMarkup fits
      ((echoSteps_lt_defaultBudget fits).trans_eq echoing.budget.symm)
    rw [opens.isBuiltIn.renderSource (by decide +kernel) fetched, lenient,
      drawn]
    rfl
  · have noText : ∀ text, Utf8.encode text ≠ [0xFF] := by
      intro text written
      have decoded := (Utf8.decode_eq_ok_iff ..).mpr written
      have broken : (Utf8.decode [0xFF]).isOk = false := by
        decide +kernel
      rw [decoded] at broken
      cases broken
    have unread : readKeymap brokenDisk (new viewer "keymap").keymap =
        .error (notText "keymap") :=
      readKeymap_of_no_text read noText
    rw [draw_eq, unread]

end Preview.Server

end KeymapViewer
