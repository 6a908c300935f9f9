import KeymapViewer.Preview.FaultPage
import KeymapViewer.Proofs.Markup.Escape
import KeymapViewer.Proofs.Markup.Piece
import KeymapViewer.Proofs.Preview.ReloadScript
import Mathlib.Tactic.MkIffOfInductiveProp

/-!
The page that tells what went wrong. A fault only shows in texts of the page,
whatever markup its report holds, and the page always reloads.
-/

namespace KeymapViewer.Preview

open Text Markup

/-! ## The pieces of the page -/

/-- What stands behind the first opening text, up to the closing one. -/
def inside (opening closing : String) (text : String) : String :=
  let after := ((cut? opening.toList text.toList).map Prod.snd).getD []
  String.ofList (((cut? closing.toList after).map Prod.fst).getD [])

def headPieces : List Piece :=
  [.declaration "doctype html", .text "\n",
    .startTag "html lang=\"en\"", .text "\n",
    .startTag "head", .text "\n  ",
    .startTag "meta charset=\"utf-8\" /", .text "\n  "]

def stylePieces : List Piece :=
  [.text "\n  ",
    .rawElement "style" (inside "<style>" "</style>" faultPageStyle),
    .text "\n", .endTag "head", .text "\n", .startTag "body", .text "\n  ",
    .startTag "h1"]

def versionPieces : List Piece :=
  [.endTag "h1", .text "\n  ", .startTag "p class=\"meta\""]

def detailsPieces : List Piece := [.endTag "p", .text "\n  "]

def scriptPieces : List Piece :=
  [.endTag "pre", .text "\n\n", .comment " ergoweb-dev-client ", .text "\n",
    .rawElement "script" (inside "<script>" "</script>" reloadScript),
    .text "\n", .endTag "body", .text "\n", .endTag "html"]

/-- The page up to the details. -/
def leadPieces (title : String) (version : Nat) : List Piece :=
  headPieces ++ .rawElement "title" ("ergoweb: " ++ escaped title) ::
    (stylePieces ++ .text (escaped title) ::
      (versionPieces ++
        .text ("Render #" ++ toString version ++
          ". Save the keymap file to try again.") :: detailsPieces))

/-- The pieces of the page. The title stands in two texts, the version and the
details in one each, and nothing else depends on them. -/
def faultPieces (title details : String) (version : Nat) : List Piece :=
  leadPieces title version ++ .startTag "pre" :: .text (escaped details) ::
    scriptPieces

/-! ## The fixed parts of the page -/

def titleLead : String :=
  "<!doctype html>\n" ++ "<html lang=\"en\">\n" ++ "<head>\n" ++
    "  <meta charset=\"utf-8\" />\n" ++ "  <title>ergoweb: "

def headingLead : String :=
  "</title>\n" ++ faultPageStyle ++ ("<body>\n" ++ "  <h1>")

def versionLead : String :=
  "</h1>\n" ++ "  <p class=\"meta\">Render #"

def detailsLead : String :=
  ". Save the keymap file to try again.</p>\n" ++ "  <pre>"

/-- The page up to the script. -/
def faultPageStart (title details : String) (version : Nat) : String :=
  titleLead ++ escaped title ++ headingLead ++ escaped title ++ versionLead ++
    toString version ++ detailsLead ++ escaped details ++ "</pre>\n"

theorem faultPage_eq (title details : String) (version : Nat) :
    faultPage title details version =
      withReloadScript (faultPageStart title details version ++
        (bodyEnd ++ "\n</html>")) := by
  refine congrArg withReloadScript ?_
  unfold faultPageHead faultPageBody faultPageStart titleLead headingLead
    versionLead detailsLead bodyEnd
  simp only [String.append_assoc]
  rfl

/-- A fixed part of the page is written in whole pieces, after and before what
belongs to the texts next to it. No details begin in it, and no script. -/
@[mk_iff]
structure IsPart (pieces : List Piece) (before after : List Char)
    (part : String) : Prop where
  source : before ++ (pieces.flatMap Piece.source ++ after) = part.toList
  whole : ∀ piece ∈ pieces, piece.isWhole = true
  plain : ∀ piece ∈ pieces, piece.opens "pre" = false
  clear : isClearOf reloadMarker.toList part.toList = true

/-- What is known of the page before a fault is put into it. -/
structure FixedParts : Prop where
  title : IsPart headPieces [] "<title>ergoweb: ".toList titleLead
  heading : IsPart stylePieces "</title>".toList [] headingLead
  version : IsPart versionPieces [] "Render #".toList versionLead
  details : IsPart detailsPieces
    ". Save the keymap file to try again.".toList "<pre>".toList detailsLead
  pre : (Piece.startTag "pre").isWhole = true ∧
    (Piece.startTag "pre").read = [.startTag "pre" [] false]
  script : scriptPieces.flatMap Piece.source =
    "</pre>\n".toList ++ (reloadScript.toList ++
      (bodyEnd.toList ++ "\n</html>".toList))
  wholeScript : ∀ piece ∈ scriptPieces, piece.isWhole = true
  /-- The marker is in the script, and nowhere else behind the details. -/
  marked : occurrences reloadMarker.toList (reloadScript.toList ++
    (bodyEnd.toList ++ "\n</html>".toList)) = 1
  unmarked : isClearOf reloadMarker.toList "</pre>\n".toList = true ∧
    occurrences reloadMarker.toList
      (bodyEnd.toList ++ "\n</html>".toList) = 0
  lastEnd : occurrences bodyEnd.toList
    (bodyEnd.toList ++ "\n</html>".toList) = 1

-- All literals are rewritten to lists of characters before anything is
-- evaluated, which otherwise decodes their bytes again and again.
theorem fixedParts : FixedParts where
  title := by
    rw [isPart_iff]
    unfold titleLead
    simp only [String.toList_append]
    repeat rw [String.toList_ofList]
    decide +kernel
  heading := by
    rw [isPart_iff]
    simp only [stylePieces, List.flatMap_cons, List.flatMap_nil,
      List.forall_mem_cons, Piece.source, Piece.isWhole, Piece.opens, inside,
      String.toList_ofList]
    unfold headingLead faultPageStyle
    simp only [String.toList_append]
    repeat rw [String.toList_ofList]
    decide +kernel
  version := by
    rw [isPart_iff]
    decide +kernel
  details := by
    rw [isPart_iff]
    decide +kernel
  pre := by decide +kernel
  script := by
    simp only [scriptPieces, List.flatMap_cons, List.flatMap_nil,
      Piece.source, inside, String.toList_ofList]
    unfold reloadScript
    simp only [String.toList_append]
    repeat rw [String.toList_ofList]
    decide +kernel
  wholeScript := by
    simp only [scriptPieces, List.forall_mem_cons, Piece.isWhole, inside,
      String.toList_ofList]
    unfold reloadScript
    simp only [String.toList_append]
    repeat rw [String.toList_ofList]
    decide +kernel
  marked := by
    unfold reloadScript
    simp only [String.toList_append]
    repeat rw [String.toList_ofList]
    decide +kernel
  unmarked := by decide +kernel
  lastEnd := by decide +kernel

/-- A page on which a fault shows in texts only, and which reloads. -/
structure ShowsFault (title details : String) (version : Nat)
    (page : String) : Prop where
  tokens : tokenize page =
    (faultPieces title details version).flatMap Piece.read
  /-- The details are read as they are. -/
  details : elementText "pre" (tokenize page) = details
  /-- The script stands directly before the last end of a body. -/
  reloads : ∃ before after, IsLastCut bodyEnd.toList page.toList
    (before ++ reloadScript.toList) after
  once : occurrences reloadScript.toList page.toList = 1

/-! ## The whole page -/

theorem source_title (title : String) :
    (Piece.rawElement "title" ("ergoweb: " ++ title)).source =
      "<title>ergoweb: ".toList ++ (title.toList ++ "</title>".toList) := by
  simp [Piece.source]

theorem source_leadPieces (title : String) (version : Nat) :
    (leadPieces title version).flatMap Piece.source ++ "<pre>".toList =
      titleLead.toList ++ ((escaped title).toList ++ (headingLead.toList ++
        ((escaped title).toList ++ (versionLead.toList ++
          ((toString version).toList ++ detailsLead.toList))))) := by
  rw [← fixedParts.title.source, ← fixedParts.heading.source,
    ← fixedParts.version.source, ← fixedParts.details.source]
  simp only [leadPieces, List.flatMap_cons, List.flatMap_append,
    source_title, Piece.source_text, String.toList_append, List.append_assoc,
    List.nil_append]

theorem source_faultPieces (title details : String) (version : Nat) :
    (faultPieces title details version).flatMap Piece.source =
      (faultPageStart title details version).toList ++
        (reloadScript.toList ++
          (bodyEnd.toList ++ "\n</html>".toList)) := by
  have pre : (Piece.startTag "pre").source = "<pre>".toList := by decide
  have lead := source_leadPieces title version
  rw [faultPieces, List.flatMap_append, List.flatMap_cons, List.flatMap_cons,
    pre, Piece.source_text, fixedParts.script, ← List.append_assoc, lead,
    faultPageStart]
  simp only [String.toList_append, List.append_assoc]

/-! ## What a fault can put into the page -/

theorem toList_escaped (text : String) :
    (escaped text).toList = escapeText text.toList :=
  String.toList_ofList

theorem open_notMem_escaped (text : String) : '<' ∉ (escaped text).toList := by
  rw [toList_escaped]
  exact open_notMem_escapeText text.toList

theorem open_notMem_toString (number : Nat) :
    '<' ∉ (toString number).toList := by
  have digits : (toString number).toList = Nat.toDigits 10 number :=
    String.toList_ofList
  rw [digits]
  intro member
  have digit := Nat.isDigit_of_mem_toDigits (by decide) (by decide) member
  exact absurd digit (by decide)

/-! ## Reading the page -/

theorem isWhole_title (title : String) :
    (Piece.rawElement "title" ("ergoweb: " ++ escaped title)).isWhole =
      true := by
  have absent : '<' ∉ ("ergoweb: " ++ escaped title).toList := by
    rw [String.toList_append, List.mem_append, not_or]
    exact ⟨by decide, open_notMem_escaped title⟩
  rw [Piece.isWhole, occurs_beginsEndTag_of_notMem absent "title"]
  decide

theorem isWhole_text {content : String} (absent : '<' ∉ content.toList) :
    (Piece.text content).isWhole = true :=
  all_bne_iff.mpr absent

theorem isWhole_version (version : Nat) :
    (Piece.text ("Render #" ++ toString version ++
      ". Save the keymap file to try again.")).isWhole = true := by
  refine isWhole_text ?_
  rw [String.toList_append, String.toList_append, List.mem_append,
    List.mem_append, not_or, not_or]
  exact ⟨⟨by decide, open_notMem_toString version⟩, by decide⟩

section Pieces

variable (title details : String) (version : Nat)

theorem isWhole_faultPieces :
    ∀ piece ∈ faultPieces title details version, piece.isWhole = true := by
  have heading := isWhole_text (open_notMem_escaped title)
  have report := isWhole_text (open_notMem_escaped details)
  simp only [faultPieces, leadPieces, List.forall_mem_append,
    List.forall_mem_cons]
  exact ⟨⟨fixedParts.title.whole, isWhole_title title,
      fixedParts.heading.whole, heading, fixedParts.version.whole,
      isWhole_version version, fixedParts.details.whole⟩,
    fixedParts.pre.1, report, fixedParts.wholeScript⟩

theorem isChain_faultPieces :
    (faultPieces title details version).IsChain fun first second =>
      (first.isText && second.isText) = false := by
  simp [faultPieces, leadPieces, headPieces, stylePieces, versionPieces,
    detailsPieces, scriptPieces, Piece.isText]

theorem opens_leadPieces :
    ∀ piece ∈ leadPieces title version, piece.opens "pre" = false := by
  have noTitle : ("title" == "pre") = false := by decide
  simp only [leadPieces, List.forall_mem_append, List.forall_mem_cons]
  exact ⟨fixedParts.title.plain, noTitle, fixedParts.heading.plain, rfl,
    fixedParts.version.plain, rfl, fixedParts.details.plain⟩

/-- The details are read back from their element. -/
theorem elementText_faultPieces :
    elementText "pre" ((faultPieces title details version).flatMap Piece.read) =
      details := by
  have first : ∀ token ∈ (leadPieces title version).flatMap Piece.read,
      token.opens "pre" = false := by
    intro token member
    obtain ⟨piece, listed, member⟩ := List.mem_flatMap.mp member
    exact Piece.opens_of_mem_read (opens_leadPieces title version piece listed)
      member
  have finish : (Piece.endTag "pre").read = [.endTag "pre"] := rfl
  have text : elementText "pre"
        ((faultPieces title details version).flatMap Piece.read) =
      String.ofList (decodeEntities (escaped details).toList) := by
    simp only [faultPieces, scriptPieces, List.flatMap_append,
      List.flatMap_cons, fixedParts.pre.2, Piece.read_text, finish,
      List.singleton_append]
    exact elementText_eq first [] (escaped details) _
  rw [text, toList_escaped, decodeEntities_escapeText, String.ofList_toList]

end Pieces

/-! ## The script in the page -/

theorem isClearOf_of_text {text : List Char} (absent : '<' ∉ text) :
    isClearOf reloadMarker.toList text = true := by
  obtain ⟨others, marker⟩ : ∃ others, reloadMarker.toList = '<' :: others :=
    ⟨_, String.toList_ofList⟩
  rw [marker]
  exact isClearOf_of_notMem absent

theorem isLastCut_bodyEnd (before : List Char) :
    IsLastCut bodyEnd.toList
      (before ++ bodyEnd.toList ++ "\n</html>".toList) before
      "\n</html>".toList :=
  ⟨rfl, fixedParts.lastEnd⟩

section Page

variable (title details : String) (version : Nat)

/-- The marker of the script begins nowhere before the script. -/
theorem isClearOf_faultPageStart :
    isClearOf reloadMarker.toList
      (faultPageStart title details version).toList = true := by
  have heading := isClearOf_of_text (open_notMem_escaped title)
  simp only [faultPageStart, String.toList_append]
  refine isClearOf_append ?_ fixedParts.unmarked.1
  refine isClearOf_append ?_ (isClearOf_of_text (open_notMem_escaped details))
  refine isClearOf_append ?_ fixedParts.details.clear
  refine isClearOf_append ?_ (isClearOf_of_text (open_notMem_toString version))
  refine isClearOf_append ?_ fixedParts.version.clear
  refine isClearOf_append ?_ heading
  refine isClearOf_append ?_ fixedParts.heading.clear
  exact isClearOf_append fixedParts.title.clear heading

theorem toList_faultPage :
    (faultPage title details version).toList =
      (faultPageStart title details version).toList ++
        (reloadScript.toList ++
          (bodyEnd.toList ++ "\n</html>".toList)) := by
  have clear := isClearOf_faultPageStart title details version
  rw [faultPage_eq]
  generalize faultPageStart title details version = before at clear ⊢
  have written : (before ++ (bodyEnd ++ "\n</html>")).toList =
      before.toList ++ bodyEnd.toList ++ "\n</html>".toList := by
    rw [String.toList_append, String.toList_append, List.append_assoc]
  have unmarked : occurrences reloadMarker.toList
      (before ++ (bodyEnd ++ "\n</html>")).toList = 0 := by
    rw [written, List.append_assoc, occurrences_append_of_isClearOf clear,
      fixedParts.unmarked.2]
  rw [toList_withReloadScript_of_cut unmarked
    (written ▸ isLastCut_bodyEnd before.toList)]
  simp only [List.append_assoc]

end Page

section Written

variable {title details : String} {version : Nat} {page : String}
  (written : page.toList = (faultPageStart title details version).toList ++
    (reloadScript.toList ++ (bodyEnd.toList ++ "\n</html>".toList)))

include written

/-- The tokens of the page are those of its pieces. -/
theorem tokenize_of_written :
    tokenize page = (faultPieces title details version).flatMap Piece.read := by
  rw [tokenize, written, ← source_faultPieces]
  exact Piece.tokens_flatMap_source (isWhole_faultPieces title details version)
    (isChain_faultPieces title details version)

theorem isLastCut_of_written :
    IsLastCut bodyEnd.toList page.toList
      ((faultPageStart title details version).toList ++ reloadScript.toList)
      "\n</html>".toList := by
  have cut : page.toList = (faultPageStart title details version).toList ++
      reloadScript.toList ++ bodyEnd.toList ++ "\n</html>".toList := by
    rw [written]
    simp only [List.append_assoc]
  rw [cut]
  exact isLastCut_bodyEnd _

theorem occurrences_reloadScript_of_written :
    occurrences reloadScript.toList page.toList = 1 := by
  have clear := isClearOf_faultPageStart title details version
  rw [written]
  apply Nat.le_antisymm
  · calc
      occurrences reloadScript.toList _
        ≤ occurrences reloadMarker.toList _ :=
          occurrences_reloadScript_le _
      _ = 1 := by
          rw [occurrences_append_of_isClearOf clear, fixedParts.marked]
  · exact occurrences_pos_of_infix (List.infix_append' ..)

theorem ShowsFault.of_written : ShowsFault title details version page where
  tokens := tokenize_of_written written
  details := by
    rw [tokenize_of_written written]
    exact elementText_faultPieces title details version
  reloads := ⟨_, _, isLastCut_of_written written⟩
  once := occurrences_reloadScript_of_written written

end Written

theorem showsFault_faultPage (title details : String) (version : Nat) :
    ShowsFault title details version (faultPage title details version) :=
  .of_written (toList_faultPage title details version)

end KeymapViewer.Preview
