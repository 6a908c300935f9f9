import KeymapViewer.Disk
import KeymapViewer.Fault

/-!
Where module binaries and keymaps come from: files, by paths relative to a
base directory, and addresses on the network. What the network answers is
taken as it comes.
-/

namespace KeymapViewer

open Text

/-- The answer of a server. -/
structure NetworkReply where
  status : Nat
  /-- The status as it is shown, with its phrase. -/
  shownStatus : String
  /-- The body, or why it could not be read to its end. -/
  body : Except String Bytes

def NetworkReply.isSuccess (reply : NetworkReply) : Bool :=
  200 ≤ reply.status && reply.status < 300

/-- What a request for an address comes to: a reply, or the reason why there
is none. -/
abbrev Network : Type := String → Except String NetworkReply

/-- The network of a machine that is not connected. -/
def Network.offline : Network := fun _ => .error "no network"

/-- Something that fetches bytes. Its state `τ` is what its answers depend on
and what its calls leave behind. -/
class Fetcher (φ : Type) (τ : outParam Type) where
  bytes (fetcher : φ) (location : String) : StateM τ (Except Fault Bytes)

/-- Fetches a text. Bytes that are no characters become U+FFFD. -/
def Fetcher.text {φ τ : Type} [Fetcher φ τ] (fetcher : φ)
    (location : String) : StateM τ (Except Fault String) := do
  return (← Fetcher.bytes fetcher location).map Utf8.decodeLenient

abbrev FetchBytes : Type := String → Except Fault Bytes

/-- A fetcher whose answers never change. It notes the locations that it is
asked for, in their order. -/
instance : Fetcher FetchBytes (List String) where
  bytes fetch location := do
    modify (· ++ [location])
    return fetch location

namespace Fetch

def isRemote (location : String) : Bool :=
  "http://".isPrefixOf location || "https://".isPrefixOf location

/-- The path that a location names, with or without a scheme. -/
def path (base location : String) : String :=
  let path :=
    match "file://".toList.isPrefixOf? location.toList with
    | some rest => String.ofList rest
    | none => location
  Path.join base path

/-- The body of the answer to a request, if the server grants it. -/
def remote (network : Network) (url : String) : Except Fault Bytes :=
  match network url with
  | .error reason => .error (.network url s!"Request failed: {reason}")
  | .ok reply =>
    if reply.isSuccess then
      reply.body.mapError fun reason =>
        .network url s!"Could not read response: {reason}"
    else
      .error (.network url s!"Server answered {reply.shownStatus}")

def bytes (disk : Disk) (base : String) (network : Network := .offline) :
    FetchBytes := fun location =>
  if isRemote location then remote network location
  else
    let path := path base location
    (disk.read path).mapError fun error =>
      .file path s!"Could not read file: {error.message}"

def text (fetch : FetchBytes) (location : String) : Except Fault String :=
  (fetch location).map Utf8.decodeLenient

end Fetch

end KeymapViewer
