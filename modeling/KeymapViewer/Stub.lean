import KeymapViewer.Wasm.Encode

/-!
Stub modules. They follow the contracts of a real keymap module, but hand
their input back instead of drawing it.

The static data of a stub lies below `heapStart`; from there its heap grows
upward, and blocks are never reused.
-/

namespace KeymapViewer.Stub

open Wasm

inductive Kind where
  /-- Returns a copy of its input. -/
  | cString
  /-- Puts its input into the page through host callbacks. -/
  | bindgen
  /-- Always throws a message. -/
  | throwing
  deriving DecidableEq, Repr

def Kind.name : Kind → String
  | .cString => "CString"
  | .bindgen => "Bindgen"
  | .throwing => "Throwing"

def heapStart : UInt32 := 1024

def throwMessage : String := "stub keymap module failure"

def messageOffset : UInt32 := 16

/-- The module that the imports of a stub come from. -/
def importModule : String := "./ergoweb"

def firstByte : MemArg := ⟨0, 0, 0⟩

/-- Reserves a block: the heap end moves up by the size, rounded up to a
multiple of eight, and the memory grows when it does not reach that far.
Local 0 is the size, local 1 the block, local 2 the new heap end. -/
def allocCode : Code :=
  { locals := [(1, .i32), (1, .i32)]
    body :=
      [.globalGet 0, .localSet 1,
        .localGet 1, .localGet 0, .i32Const 7, .binary .add,
        .i32Const (-8), .binary .and, .binary .add, .localSet 2,
        .localGet 2, .memorySize 0, .i32Const 16, .binary .shl, .binary .gtU,
        .ifElse none
          [.localGet 2, .i32Const 65535, .binary .add, .i32Const 16,
            .binary .shrU, .memorySize 0, .binary .sub, .memoryGrow 0,
            .i32Const (-1), .binary .eq, .ifElse none [.unreachable] []]
          [],
        .localGet 2, .globalSet 0, .localGet 1] }

def nothingCode : Code := ⟨[], []⟩

/-- Copies the text at local 0, up to and with its zero byte, to a fresh
block. Local 1 counts the bytes before the zero byte, local 2 is the block,
local 3 the byte to copy next. -/
def echoCode (alloc : Nat) : Code :=
  { locals := [(1, .i32), (1, .i32), (1, .i32)]
    body :=
      [.block none
          [.loop none
            [.localGet 0, .localGet 1, .binary .add, .load .byte firstByte,
              .i32Eqz, .brIf 1,
              .localGet 1, .i32Const 1, .binary .add, .localSet 1, .br 0]],
        .localGet 1, .i32Const 1, .binary .add, .call alloc, .localSet 2,
        .block none
          [.loop none
            [.localGet 3, .localGet 1, .binary .gtU, .brIf 1,
              .localGet 2, .localGet 3, .binary .add,
              .localGet 0, .localGet 3, .binary .add, .load .byte firstByte,
              .store .byte firstByte,
              .localGet 3, .i32Const 1, .binary .add, .localSet 3, .br 0]],
        .localGet 2] }

/-- Looks up the element whose id is given by locals 2 and 3, and sets its
content to the text given by locals 0 and 1. Local 4 is the handle of the
document, local 5 that of the element; both are given back. -/
def setMarkupCode (document getElement setInnerHtml dropRef : Nat) : Code :=
  { locals := [(1, .i32), (1, .i32)]
    body :=
      [.call document, .localSet 4,
        .localGet 4, .localGet 2, .localGet 3, .call getElement, .localSet 5,
        .localGet 5, .localGet 0, .localGet 1, .call setInnerHtml,
        .localGet 5, .call dropRef, .localGet 4, .call dropRef] }

def throwCode (throw : Nat) : Code :=
  { locals := []
    body :=
      [.i32Const messageOffset,
        .i32Const (Text.byteLength throwMessage).toUInt32, .call throw,
        .unreachable] }

/-- What all stubs have: one page of memory, and the heap end as a global. -/
def frame (types : List FuncType) (imports : List Import)
    (functions : List (String × Code)) (data : List DataSegment) : Module :=
  let exports := functions.zipIdx.map fun (function, place) =>
    Export.mk function.1 .function (imports.length + place)
  { Module.empty with
    types
    imports
    functions := List.range' imports.length functions.length
    memories := [⟨⟨1, none⟩, false⟩]
    globals := [⟨⟨.i32, true⟩, .const (.i32 heapStart)⟩]
    exports := exports ++ [⟨"memory", .memory, 0⟩]
    code := functions.map (·.2)
    data }

def words (count : Nat) : List ValType := List.replicate count .i32

def type (parameters results : Nat) : FuncType :=
  ⟨words parameters, words results⟩

def cStringModule : Module :=
  frame [type 1 1, type 2 0, type 1 0, type 1 1] []
    [("alloc", allocCode), ("dealloc", nothingCode),
      ("dealloc_str", nothingCode), ("svg", echoCode 0)] []

def hostImports : List Import :=
  [⟨importModule, "__wbg_static_accessor_document_document", .function 0⟩,
    ⟨importModule, "__wbg_getElementById_8c4314de7fabbd92", .function 1⟩,
    ⟨importModule, "__wbg_set_inner_html_fc05625f561eb4f2", .function 2⟩,
    ⟨importModule, "__wbindgen_object_drop_ref", .function 3⟩,
    ⟨importModule, "__wbindgen_throw", .function 4⟩]

def bindgenFrame (entry : Code) (data : List DataSegment) : Module :=
  frame
    [type 0 1, type 3 1, type 3 0, type 1 0, type 2 0, type 1 1, type 2 0,
      type 4 0]
    hostImports
    [("__wbindgen_malloc", allocCode), ("__wbindgen_free", nothingCode),
      ("make_svg", entry)] data

def bindgenModule : Module :=
  bindgenFrame (setMarkupCode 0 1 2 3) []

def throwingModule : Module :=
  bindgenFrame (throwCode 4)
    [{ place := some ⟨0, .const (.i32 messageOffset)⟩
       bytes := Text.Utf8.encode throwMessage }]

def Kind.module : Kind → Module
  | .cString => cStringModule
  | .bindgen => bindgenModule
  | .throwing => throwingModule

def Kind.binary (kind : Kind) : Text.Bytes := kind.module.encode

end KeymapViewer.Stub
