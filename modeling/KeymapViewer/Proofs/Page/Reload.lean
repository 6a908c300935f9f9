import KeymapViewer.Proofs.Markup.Canonical
import KeymapViewer.Proofs.Markup.Faithful
import KeymapViewer.Proofs.Page.Document

/-!
Pages that are saved as markup and loaded again. A canonical document comes
back as it was. Of any other page the document comes back, up to the borders
between texts, exactly if it is legible.
-/

namespace KeymapViewer.Page

open Markup

/-- The page of a text holds the forest that the text is read as. -/
theorem parse?_forest (html : String) :
    ∃ page, parse? html = some page ∧
      page.forestBelow? root = some (Forest.parse html) := by
  obtain ⟨layouts, made, draws, trees, -⟩ := parse_draws html
  exact ⟨_, made, by rw [draws.forestBelow?_root, trees]⟩

theorem forest_eq {page : Page} {forest : Forest}
    (held : page.forestBelow? root = some forest) : page.forest = forest := by
  rw [Page.forest, forestBelow, held, Option.getD_some]

theorem toHtml_eq {page : Page} {forest : Forest}
    (held : page.forestBelow? root = some forest) :
    page.toHtml = String.ofList (renderAll forest) := by
  rw [toHtml, forest_eq held]

/-! ## Canonical documents -/

/-- Some page holds a canonical forest, and whatever page holds it is written
as markup that is read as the same forest. -/
theorem parse?_toHtml_of_areCanonical {forest : Forest}
    (canonical : areCanonical forest = true) :
    (∃ page : Page, page.forestBelow? root = some forest) ∧
      ∀ page : Page, page.forestBelow? root = some forest →
        ∃ again, parse? page.toHtml = some again ∧
          again.forestBelow? root = some forest := by
  have back := (readsBack_of_areCanonical forest canonical).parse
  constructor
  · obtain ⟨page, -, held⟩ :=
      parse?_forest (String.ofList (renderAll forest))
    exact ⟨page, by rw [held, back]⟩
  · intro page held
    obtain ⟨again, made, heldAgain⟩ := parse?_forest page.toHtml
    refine ⟨again, made, ?_⟩
    rw [heldAgain, toHtml_eq held, back]

/-- A canonical forest with a value that needs escapes and a script that
compares. -/
def canonicalSample : Forest :=
  [.leaf (.declaration "DOCTYPE html"),
    .node (.element ⟨"p", [⟨"title", "\"a\" & <b>\n&lt;"⟩,
        ⟨"hidden", ""⟩], false⟩)
      [.leaf (.text "one &amp; two"), .leaf (.element ⟨"br", [], false⟩),
        .leaf (.comment " > ")],
    .node (.element ⟨"script", [], false⟩) [.leaf (.text "a < b </b>")],
    .leaf (.element ⟨"use", [⟨"href", "#k"⟩], true⟩)]

theorem parse?_toHtml_canonicalSample :
    areCanonical canonicalSample = true ∧
      ∃ page again : Page,
        page.forestBelow? root = some canonicalSample ∧
        page.toHtml =
          "<!DOCTYPE html><p title=\"&quot;a&quot; &amp; <b>\n&amp;lt;\" " ++
            "hidden>one &amp; two<br><!-- > --></p>" ++
            "<script>a < b </b></script><use href=\"#k\"/>" ∧
        parse? page.toHtml = some again ∧
        again.forestBelow? root = some canonicalSample := by
  have canonical : areCanonical canonicalSample = true := by
    decide +kernel
  obtain ⟨page, held⟩ := (parse?_toHtml_of_areCanonical canonical).1
  obtain ⟨again, made, heldAgain⟩ :=
    (parse?_toHtml_of_areCanonical canonical).2 page held
  refine ⟨canonical, page, again, held, ?_, made, heldAgain⟩
  rw [toHtml_eq held]
  decide +kernel

/-! ## Legible documents -/

/-- A page comes back as it was saved. -/
structure ComesBackAs (page again : Page) : Prop where
  markup : again.toHtml = page.toHtml
  /-- No text is read as a tag, and no tag as a text. -/
  tokens : joinTexts (tokenize page.toHtml) =
    writtenAll (settleAll page.forest)
  /-- Nothing moves in or out of an element. -/
  forest : settleAll again.forest = settleAll page.forest

/-- The page of any text, saved and loaded again, comes back as it was exactly
if its document is legible. -/
theorem comesBackAs_iff_areLegible (html : String) :
    ∃ page again, parse? html = some page ∧
      parse? page.toHtml = some again ∧
      (page.ComesBackAs again ↔
        areLegible (settleAll page.forest) = true) := by
  obtain ⟨page, made, held⟩ := parse?_forest html
  obtain ⟨again, madeAgain, heldAgain⟩ := parse?_forest page.toHtml
  have tidy := tidyAll_settleAll page.forest
    (forest_eq held ▸ tidyAll_parse html)
  have settled := settledAll_settleAll page.forest
    (forest_eq held ▸ tidyAll_parse html)
  have written :
      page.toHtml = String.ofList (renderAll (settleAll page.forest)) := by
    rw [toHtml, renderAll_settleAll]
  have exactly := joinTexts_tokens_iff tidy settled
  refine ⟨page, again, made, madeAgain, fun same => ?_, fun legible => ?_⟩
  · rw [← exactly, ← same.tokens, tokenize, written, String.toList_ofList]
  · have document : again.forest = breakAll (settleAll page.forest) := by
      rw [forest_eq heldAgain, written]
      exact parse_renderAll tidy settled legible
    have whole := settleAll_breakAll _ tidy settled legible
    refine ⟨?_, ?_, ?_⟩
    · rw [toHtml, document, ← renderAll_settleAll, whole, written]
    · rw [tokenize, written, String.toList_ofList]
      exact exactly.mpr legible
    · rw [document, whole]

/-- An end tag without a name is dropped, and the texts around it are written
as a tag. -/
theorem toHtml_parse?_of_unnamed_end_tag :
    (parse? "<</>b>").map toHtml = some "<b>" ∧
      (parse? "<b>").map toHtml = some "<b></b>" := by
  decide +kernel

-- The same markup alone does not make the same document: tags become text.
example :
    let html := "<title>a</titlex>b<i>c</i></title>"
    let saved := "<title>ab<i>c</i></title>"
    ((parse? html).map fun page => (page.toHtml, page.nodeCount)) =
        some (saved, 6) ∧
      ((parse? saved).map fun page => (page.toHtml, page.nodeCount)) =
        some (saved, 3) := by
  decide +kernel

end KeymapViewer.Page
