import KeymapViewer.Text.Utf8

/-!
Responses, and the texts that are sent for them.
-/

namespace KeymapViewer.Preview

inductive Status where
  | ok
  | badRequest
  | notFound
  | methodNotAllowed
  deriving DecidableEq, Repr

def Status.line : Status → String
  | .ok => "200 OK"
  | .badRequest => "400 BAD REQUEST"
  | .notFound => "404 NOT FOUND"
  | .methodNotAllowed => "405 METHOD NOT ALLOWED"

inductive ContentType where
  | html
  | plain
  deriving DecidableEq, Repr

def ContentType.name : ContentType → String
  | .html => "text/html; charset=utf-8"
  | .plain => "text/plain; charset=utf-8"

structure Response where
  status : Status
  contentType : ContentType
  body : String
  deriving DecidableEq, Repr

namespace Response

def page (html : String) : Response := ⟨.ok, .html, html⟩

def notFound : Response := ⟨.notFound, .plain, "Not Found"⟩

def methodNotAllowed : Response :=
  ⟨.methodNotAllowed, .plain, "Method Not Allowed"⟩

/-- Everything that is sent: the head, with the length of the body in bytes,
an empty line and the body. -/
def text (response : Response) : String :=
  "HTTP/1.1 " ++ response.status.line ++ "\r\n" ++
  "Content-Type: " ++ response.contentType.name ++ "\r\n" ++
  "Content-Length: " ++ toString (Text.byteLength response.body) ++ "\r\n" ++
  "Cache-Control: no-store\r\n" ++
  "Connection: close\r\n\r\n" ++
  response.body

end Response

/-- What is sent to a page that listens for reloads, before any news. -/
def streamHead : String :=
  "HTTP/1.1 200 OK\r\n" ++
  "Content-Type: text/event-stream\r\n" ++
  "Cache-Control: no-cache\r\n" ++
  "Connection: keep-alive\r\n" ++
  "Access-Control-Allow-Origin: *\r\n\r\n" ++
  ": connected\n\n"

end KeymapViewer.Preview
