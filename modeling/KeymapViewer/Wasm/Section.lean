import KeymapViewer.Wasm.Reader

/-!
The sections of a binary. This level checks that sections are whole, in order
and not repeated, and that the counts of functions and bodies agree; what
stands inside them is read later.
-/

namespace KeymapViewer.Wasm

open Text

inductive Layer where
  | module
  | component
  deriving DecidableEq, Repr

structure Section where
  id : Nat
  content : Bytes
  deriving DecidableEq, Repr

structure CustomSection where
  name : String
  content : Bytes
  deriving DecidableEq, Repr

/-- The rank of a section in a module, by its id. Custom and unknown sections
have none and may stand anywhere. -/
def sectionRank? (id : Nat) : Option Nat :=
  match id with
  | 1 => some 1
  | 2 => some 2
  | 3 => some 3
  | 4 => some 4
  | 5 => some 5
  | 13 => some 6
  | 6 => some 7
  | 7 => some 8
  | 8 => some 9
  | 9 => some 10
  | 12 => some 11
  | 10 => some 12
  | 11 => some 13
  | _ => none

namespace Section

/-- Sections whose content begins with the number of its items. -/
def isCounted (id : Nat) : Bool :=
  id ∈ [1, 2, 3, 4, 5, 6, 7, 9, 10, 11, 13]

/-- Sections whose content is one number. -/
def isSingle (id : Nat) : Bool := id = 8 || id = 12

def customReader : Reader CustomSection := do
  let name ← Reader.name
  return ⟨name, ← get⟩

/-- The bodies in a code section, each with its size in front. -/
def bodies : Reader (List Bytes) :=
  Reader.vec (do Reader.bytes (← Reader.u32))

/-- Checks the frame of a section's content. -/
def check (part : Section) : Except Malformed Unit := do
  if part.id = 0 then
    let _ ← customReader.run part.content
  if isSingle part.id then
    let _ ← Reader.whole Reader.u32 part.content
  if isCounted part.id then
    let _ ← Reader.u32.run part.content
  if part.id = 10 then
    let _ ← Reader.whole bodies part.content

def reader : Reader Section := do
  let id := (← Reader.byte).toNat
  if 128 ≤ id then
    throw .badSectionId
  let content ← Reader.bytes (← Reader.u32)
  return ⟨id, content⟩

def readAll : Nat → Bytes → Except Malformed (List Section)
  | _, [] => .ok []
  | 0, _ => .error .truncated
  | fuel + 1, input => do
    let (part, rest) ← reader.run input
    part.check
    let others ← readAll fuel rest
    return part :: others

end Section

def ranksIncrease : List Nat → Bool
  | first :: second :: rest =>
    first < second && ranksIncrease (second :: rest)
  | _ => true

/-- The number of items of the section with an id, zero without one. -/
def itemCount (sections : List Section) (id : Nat) : Nat :=
  match sections.find? (·.id == id) with
  | some part =>
    match Reader.u32.run part.content with
    | .ok (count, _) => count
    | .error _ => 0
  | none => 0

/-- A binary cut into its sections. -/
structure Binary where
  layer : Layer
  sections : List Section
  deriving DecidableEq, Repr

namespace Binary

def magic : Bytes := [0x00, 0x61, 0x73, 0x6D]

def header : Reader Layer := do
  if (← Reader.bytes 4) ≠ magic then
    throw .badHeader
  match ← Reader.bytes 4 with
  | [0x01, 0x00, 0x00, 0x00] => return .module
  | [0x0D, 0x00, 0x01, 0x00] => return .component
  | _ => throw .badHeader

/-- Cuts a binary into sections. Of components only those are known that have
no sections but custom ones. -/
def read (input : Bytes) : Except Malformed Binary := do
  let (layer, rest) ← header.run input
  let sections ← Section.readAll rest.length rest
  match layer with
  | .component =>
    if sections.all (·.id == 0) then return ⟨.component, sections⟩
    else throw .badSectionId
  | .module =>
    if !ranksIncrease (sections.filterMap (sectionRank? ·.id)) then
      throw .sectionOrder
    if itemCount sections 3 ≠ itemCount sections 10 then
      throw .countMismatch
    return ⟨.module, sections⟩

def customSections (binary : Binary) : List CustomSection :=
  binary.sections.filterMap fun part =>
    if part.id = 0 then
      match Section.customReader.run part.content with
      | .ok (custom, _) => some custom
      | .error _ => none
    else
      none

end Binary

end KeymapViewer.Wasm
