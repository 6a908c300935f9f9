import KeymapViewer.Preview.Request
import KeymapViewer.Preview.Response
import KeymapViewer.Preview.Server

/-!
What is served under which path. A request for the viewer is answered in two
separate steps: a look at what came of the latest drawing, and, if the keymap
is drawn, the page with the layer that the query names.
-/

namespace KeymapViewer.Preview

inductive Route where
  | viewer
  | events
  | ping
  | unknown
  deriving DecidableEq, Repr

def pingPath : String := "/__ergoweb/ping"

def viewerPaths : List String := ["/", "/index.html"]

def Route.ofPath (path : String) : Route :=
  if path = eventsPath then .events
  else if path = pingPath then .ping
  else if viewerPaths.contains path then .viewer
  else .unknown

/-- What a connection is answered with. -/
inductive Answer where
  /-- The connection is closed without a word. -/
  | nothing
  | response (response : Response)
  /-- The connection stays open for news to the listener with this id. -/
  | stream (listener : Nat)
  deriving DecidableEq, Repr

section Answering

variable {σ τ : Type} [Renderer σ]

/-- The page of a viewer after the layer that a query names is shown. -/
def viewerResponse (query : String) (viewer : Viewer σ τ) :
    Response × Viewer σ τ :=
  match viewer.perform (Viewer.applyLayerQuery query) with
  | (.ok _, viewer) =>
    (.page (withReloadScript viewer.page.toHtml), viewer)
  | (.error fault, viewer) => (⟨.badRequest, .plain, fault.report⟩, viewer)

namespace Server

/-- The page that stands in for the viewer, or else the viewer's. -/
def serveViewer (server : Server σ τ) (query : String) :
    Response × Server σ τ :=
  match server.progress.standIn? with
  | some page => (.page page, server)
  | none =>
    let (response, viewer) := viewerResponse query server.viewer
    (response, { server with viewer })

/-- The response to a target. News are nothing that can be fetched. -/
def respond (server : Server σ τ) (target : String) :
    Response × Server σ τ :=
  let (path, query) := Request.splitTarget target
  match Route.ofPath path with
  | .viewer => server.serveViewer query
  | .ping => (⟨.ok, .plain, "ok"⟩, server)
  | .events | .unknown => (.notFound, server)

/-- Strikes a listener off at the end of its connection, and gives the news
that it was sent. -/
def closeStream (server : Server σ τ) (listener : Nat) :
    List Reload × Server σ τ :=
  server.withAudience fun audience =>
    let (news, audience) := (audience.leave listener).collect listener
    (news, (audience.hangUp listener).2)

/-- Answers what came in on a connection. -/
def answer (server : Server σ τ) (received : Text.Bytes) :
    Except Request.Malformed (Answer × Server σ τ) := do
  match ← Request.read received with
  | none => return (.nothing, server)
  | some request =>
    if request.method ≠ "GET" then
      return (.response .methodNotAllowed, server)
    else if Route.ofPath (Request.splitTarget request.target).1 = .events then
      let (listener, server) := server.withAudience Audience.join
      return (.stream listener, server)
    else
      let (response, server) := server.respond request.target
      return (.response response, server)

end Server

end Answering

end KeymapViewer.Preview
