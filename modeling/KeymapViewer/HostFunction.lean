import KeymapViewer.Wasm.Types

/-!
The callbacks that the host offers to modules, and the import names that
stand for them. An import may carry a hash of sixteen hexadecimal digits
after the stem of its callback's name.
-/

namespace KeymapViewer

open Wasm

inductive HostFunction where
  | documentAccessor
  | getElementById
  | setInnerHtml
  | objectDropRef
  | objectCloneRef
  | throw
  deriving DecidableEq, Repr

namespace HostFunction

def all : List HostFunction :=
  [.documentAccessor, .getElementById, .setInnerHtml, .objectDropRef,
    .objectCloneRef, .throw]

def name : HostFunction → String
  | .documentAccessor => "DocumentAccessor"
  | .getElementById => "GetElementById"
  | .setInnerHtml => "SetInnerHtml"
  | .objectDropRef => "ObjectDropRef"
  | .objectCloneRef => "ObjectCloneRef"
  | .throw => "Throw"

def stem : HostFunction → String
  | .documentAccessor => "__wbg_static_accessor_document_document"
  | .getElementById => "__wbg_getElementById"
  | .setInnerHtml => "__wbg_set_inner_html"
  | .objectDropRef => "__wbindgen_object_drop_ref"
  | .objectCloneRef => "__wbindgen_object_clone_ref"
  | .throw => "__wbindgen_throw"

def signature : HostFunction → FuncType
  | .documentAccessor => ⟨[], [.i32]⟩
  | .getElementById => ⟨[.i32, .i32, .i32], [.i32]⟩
  | .setInnerHtml => ⟨[.i32, .i32, .i32], []⟩
  | .objectDropRef => ⟨[.i32], []⟩
  | .objectCloneRef => ⟨[.i32], [.i32]⟩
  | .throw => ⟨[.i32, .i32], []⟩

def description : HostFunction → String
  | .documentAccessor => "Returns a new handle to the page document"
  | .getElementById =>
    "document.getElementById(ptr, len), null when the element is absent"
  | .setInnerHtml => "element.innerHTML = string(ptr, len)"
  | .objectDropRef => "Drops one reference to a handle"
  | .objectCloneRef => "Takes another reference to a handle"
  | .throw => "Aborts the current call with the message at (ptr, len)"

def isHexDigit (c : Char) : Bool :=
  c.isDigit || ('a' ≤ c && c ≤ 'f') || ('A' ≤ c && c ≤ 'F')

def hashLength : Nat := 16

/-- The name without a hash at its end. -/
def stripHash (name : String) : String :=
  let reversed := name.toList.reverse
  let hash := reversed.takeWhile (· != '_')
  if hash.length = hashLength && hash.all isHexDigit &&
      hash.length < reversed.length then
    String.ofList (reversed.drop (hashLength + 1)).reverse
  else
    name

/-- The callback that an import name stands for. -/
def resolve? (name : String) : Option HostFunction :=
  all.find? (·.stem == stripHash name)

end HostFunction

end KeymapViewer
