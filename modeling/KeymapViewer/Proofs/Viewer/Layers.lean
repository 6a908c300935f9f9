import KeymapViewer.Proofs.Page.Around
import KeymapViewer.Viewer

/-!
Layers that are marked. Every layer has an id of its own and no two ids lead to
one element, so marking layers one after another comes to one change of the
slots that their ids lead to, in which every layer has its own mark and all else
is as it was. What is visible afterwards are the layers that are asked for, of
those that the page has.
-/

namespace KeymapViewer

open Markup

theorem ViewerSettings.layerId_injective (settings : ViewerSettings) :
    Function.Injective settings.layerId := by
  intro layer other same
  have characters := congrArg String.toList same
  simp only [layerId, String.toList_append] at characters
  have digits := List.append_cancel_left characters
  -- A number is read back from its digits.
  have number := congrArg (Nat.ofDigitChars 10 · 0) digits
  simpa [Nat.toString_eq_ofList_toDigits] using number

namespace Viewer

open Page

/-- The visibility of a layer when some layers are asked for. -/
def mark (marked : List Nat) (layer : Nat) : String :=
  if marked.contains layer then visible else hidden

theorem mark_eq_visible_iff (marked : List Nat) (layer : Nat) :
    mark marked layer = visible ↔ marked.contains layer = true := by
  unfold mark
  split
  · rename_i asked
    exact iff_of_true rfl asked
  · rename_i unasked
    exact iff_of_false (by decide) unasked

/-! ## Slots of layers -/

/-- The attributes of each slot once layers have their marks. -/
def markEdits (settings : ViewerSettings) (marked : List Nat) (page : Page)
    (layers : List Nat) (slot : Nat) : List Attribute → List Attribute :=
  match layers.find? fun layer =>
      page.ids.lookup (settings.layerId layer) == some slot with
  | some layer => withAttribute "visibility" (mark marked layer)
  | none => id

def withMarks (settings : ViewerSettings) (marked layers : List Nat)
    (page : Page) : Page :=
  page.editSlots (markEdits settings marked page layers)

section

variable {settings : ViewerSettings} {marked layers : List Nat}
  {page : Page} {layer slot : Nat}

theorem markEdits_of_forall_ne
    (elsewhere : ∀ layer ∈ layers,
      page.slotOf (settings.layerId layer) ≠ .ok slot) :
    markEdits settings marked page layers slot = id := by
  have none_ : layers.find? (fun layer =>
      page.ids.lookup (settings.layerId layer) == some slot) = none := by
    refine List.find?_eq_none.mpr fun layer member leads => ?_
    exact elsewhere layer member
      ((slotOf_eq_ok_iff ..).mpr (beq_iff_eq.mp leads))
  rw [markEdits, none_]

/-- The layer that a slot has is the only one whose id leads to it. -/
theorem markEdits_of_leads (sound : page.IsSound) (member : layer ∈ layers)
    (leads : page.slotOf (settings.layerId layer) = .ok slot) :
    markEdits settings marked page layers slot =
      withAttribute "visibility" (mark marked layer) := by
  unfold markEdits
  cases found : layers.find? fun layer =>
      page.ids.lookup (settings.layerId layer) == some slot with
  | none =>
      have absent := List.find?_eq_none.mp found layer member
      rw [(slotOf_eq_ok_iff ..).mp leads, beq_self_eq_true] at absent
      exact absurd rfl absent
  | some other =>
      have leadsThere := List.find?_some found
      have leadsOther : page.slotOf (settings.layerId other) = .ok slot :=
        (slotOf_eq_ok_iff ..).mpr (beq_iff_eq.mp leadsThere)
      rw [settings.layerId_injective (sound.apart leadsOther leads)]

/-- One more layer gets its mark before some others do. -/
theorem markEdits_cons (sound : page.IsSound) (new : layer ∉ layers)
    (leads : page.slotOf (settings.layerId layer) = .ok slot) :
    (fun other => markEdits settings marked page layers other ∘
        only slot (withAttribute "visibility" (mark marked layer)) other) =
      markEdits settings marked page (layer :: layers) := by
  funext other
  by_cases here : other = slot
  · subst here
    have rest : markEdits settings marked page layers other = id := by
      refine markEdits_of_forall_ne fun next member leadsNext => ?_
      have same := settings.layerId_injective (sound.apart leadsNext leads)
      exact new (same ▸ member)
    rw [rest, markEdits_of_leads sound (List.mem_cons_self ..) leads, only,
      if_pos rfl, Function.id_comp]
  · have leadsHere : (page.ids.lookup (settings.layerId layer) ==
        some other) = false := by
      rw [(slotOf_eq_ok_iff ..).mp leads]
      exact beq_eq_false_iff_ne.mpr
        fun same => here (Option.some.inj same).symm
    rw [only, if_neg here, Function.comp_id, markEdits, markEdits,
      List.find?_cons_of_neg (by simp [leadsHere])]

theorem markEdits_cons_of_missing
    (missing : page.contains (settings.layerId layer) = false) :
    markEdits settings marked page (layer :: layers) =
      markEdits settings marked page layers := by
  funext slot
  have none_ : page.ids.lookup (settings.layerId layer) = none := by
    simpa [contains] using missing
  rw [markEdits, markEdits, List.find?_cons_of_neg (by simp [none_])]

/-- Only the marks that were made last are left. -/
theorem markEdits_markEdits (settings : ViewerSettings)
    (first second : List Nat) (page : Page) (layers : List Nat) (slot : Nat) :
    markEdits settings second page layers slot ∘
        markEdits settings first page layers slot =
      markEdits settings second page layers slot := by
  unfold markEdits
  cases layers.find? fun layer =>
      page.ids.lookup (settings.layerId layer) == some slot with
  | none =>
      rfl
  | some layer =>
      exact funext (withAttribute_withAttribute "visibility" _ _)

/-- Marking layers changes the slots of their ids. -/
theorem markLayers_eq (sound : page.IsSound) (settings : ViewerSettings)
    (marked : List Nat) :
    markLayers settings marked page =
        .ok (withMarks settings marked (List.range settings.maxLayers) page) ∧
      (withMarks settings marked
        (List.range settings.maxLayers) page).IsSound := by
  unfold markLayers
  have distinct := List.nodup_range (n := settings.maxLayers)
  generalize List.range settings.maxLayers = layers at distinct ⊢
  induction layers generalizing page with
  | nil =>
      have same : withMarks settings marked [] page = page :=
        editSlots_id page
      rw [same]
      exact ⟨rfl, sound⟩
  | cons layer rest inductionHypothesis =>
      obtain ⟨new, distinctRest⟩ := List.nodup_cons.mp distinct
      rw [List.foldlM_cons, withMarks]
      cases known : page.contains (settings.layerId layer) with
      | false =>
          rw [markEdits_cons_of_missing known]
          simp only [known, Bool.false_eq_true, ↓reduceIte]
          exact inductionHypothesis sound distinctRest
      | true =>
          obtain ⟨slot, leads⟩ := exists_slotOf known
          obtain ⟨set, soundBetween⟩ := sound.setAttribute leads
            (show "visibility" ≠ "id" by decide) (mark marked layer)
          have later := inductionHypothesis soundBetween distinctRest
          rw [withMarks, editSlots_comp] at later
          rw [← markEdits_cons sound new leads]
          rw [mark] at set
          simp only [known, ↓reduceIte, set]
          exact later

/-- What an id of a layer addresses gets the mark of the layer. -/
theorem contentAt?_of_addresses (sound : page.IsSound)
    (soundAfter : (withMarks settings marked layers page).IsSound)
    (member : layer ∈ layers) {position : List Nat}
    (addresses : page.Addresses (settings.layerId layer) position) :
    ∃ element,
      page.document.contentAt? position = some (.element element) ∧
      (withMarks settings marked layers page).document.contentAt? position =
        some (.element { element with
          attributes := withAttribute "visibility" (mark marked layer)
            element.attributes }) := by
  obtain ⟨slot, leads, placed⟩ := addresses
  obtain ⟨element, below, found⟩ := sound.isElement leads
  obtain ⟨layouts, draws⟩ := sound.draws
  obtain ⟨layoutsAfter, drawsAfter⟩ := soundAfter.draws
  have there : page.document.contentAt? position = some (.element element) :=
    draws.contentAt?_of_slotAt? placed found
  refine ⟨element, there, ?_⟩
  rw [withMarks, draws.contentAt?_editSlots drawsAfter, editsAt, placed,
    Option.map_some, Option.getD_some, markEdits_of_leads sound member leads,
    there]
  rfl

theorem contentAt?_of_not_addresses (sound : page.IsSound)
    (soundAfter : (withMarks settings marked layers page).IsSound)
    {position : List Nat}
    (elsewhere : ∀ layer ∈ layers,
      ¬ page.Addresses (settings.layerId layer) position) :
    (withMarks settings marked layers page).document.contentAt? position =
      page.document.contentAt? position := by
  obtain ⟨layouts, draws⟩ := sound.draws
  obtain ⟨layoutsAfter, drawsAfter⟩ := soundAfter.draws
  have unmarked :
      page.editsAt (markEdits settings marked page layers) position = id := by
    unfold editsAt
    cases placed : page.slotAt? root position with
    | none =>
        rfl
    | some slot =>
        exact markEdits_of_forall_ne fun layer member leads =>
          elsewhere layer member ⟨slot, leads, placed⟩
  rw [withMarks, draws.contentAt?_editSlots drawsAfter, unmarked]
  cases page.document.contentAt? position with
  | none =>
      rfl
  | some content =>
      rw [Option.map_some, content.editAttributes_id]

/-- The visibility of a layer is its mark. -/
theorem attribute?_withMarks (sound : page.IsSound)
    (member : layer ∈ layers) :
    (withMarks settings marked layers page).attribute?
        (settings.layerId layer) "visibility" =
      if page.contains (settings.layerId layer) then
        .ok (some (mark marked layer))
      else .error (.missingElement (settings.layerId layer)) := by
  cases known : page.contains (settings.layerId layer) with
  | false =>
      have unknown : (withMarks settings marked layers page).contains
          (settings.layerId layer) = false := known
      exact attribute?_of_not_contains unknown "visibility"
  | true =>
      obtain ⟨slot, leads⟩ := exists_slotOf known
      obtain ⟨element, below, found⟩ := sound.isElement leads
      have foundAfter :
          (withMarks settings marked layers page).node? slot =
            some ⟨.element { element with
              attributes := withAttribute "visibility" (mark marked layer)
                element.attributes }, below⟩ := by
        rw [withMarks, node?_editSlots, found,
          markEdits_of_leads sound member leads]
        rfl
      have leadsAfter : (withMarks settings marked layers page).slotOf
          (settings.layerId layer) = .ok slot := leads
      rw [attribute?_of_node? leadsAfter foundAfter,
        element.attribute?_withAttribute]
      rfl

end

/-! ## Pages with a right index -/

/-- A page before and after some of its layers get their marks. -/
structure Marks (settings : ViewerSettings) (marked layers : List Nat)
    (page after : Page) : Prop where
  fresh : after.IsFresh
  first : ∀ id, after.document.first? id = page.document.first? id
  layer : ∀ layer ∈ layers, ∀ position element,
    page.document.first? (settings.layerId layer) = some position →
    page.document.contentAt? position = some (.element element) →
    after.document.contentAt? position = some (.element { element with
      attributes := Page.withAttribute "visibility" (mark marked layer)
        element.attributes })
  others : ∀ position,
    (∀ layer ∈ layers,
      page.document.first? (settings.layerId layer) ≠ some position) →
    after.document.contentAt? position = page.document.contentAt? position

theorem keepsId_markEdits (settings : ViewerSettings) (marked : List Nat)
    (page : Page) (layers : List Nat) (slot : Nat) :
    KeepsId (markEdits settings marked page layers slot) := by
  unfold markEdits
  split
  · exact keepsId_withAttribute (by decide) _
  · exact fun _ => rfl

namespace Marks

variable {settings : ViewerSettings} {marked layers : List Nat} {layer : Nat}
  {page after : Page}

theorem of_withMarks (fresh : page.IsFresh)
    (soundAfter : (withMarks settings marked layers page).IsSound) :
    Marks settings marked layers page
      (withMarks settings marked layers page) where
  fresh := by
    have same : page.SameIds (withMarks settings marked layers page) :=
      sameIds_editSlots (keepsId_markEdits settings marked page layers)
    exact fresh.of_sameIds same soundAfter.draws
  first := by
    obtain ⟨layouts, draws, -⟩ := fresh
    obtain ⟨layoutsAfter, drawsAfter⟩ := soundAfter.draws
    exact draws.first?_editSlots drawsAfter
      (keepsId_markEdits settings marked page layers)
  layer layer member position element first there := by
    obtain ⟨other, here, contents⟩ := contentAt?_of_addresses fresh.isSound
      soundAfter member ((fresh.addresses_iff ..).mpr first)
    rw [there, Option.some.injEq, Content.element.injEq] at here
    rw [contents, here]
  others position elsewhere :=
    contentAt?_of_not_addresses fresh.isSound soundAfter
      fun layer member addresses =>
        elsewhere layer member ((fresh.addresses_iff ..).mp addresses)

/-- The visibility of a layer is its mark. -/
theorem attribute?_layerId (marks : Marks settings marked layers page after)
    (member : layer ∈ layers) :
    after.attribute? (settings.layerId layer) "visibility" =
      if after.contains (settings.layerId layer) then
        .ok (some (mark marked layer))
      else .error (.missingElement (settings.layerId layer)) := by
  rw [marks.fresh.contains_eq]
  cases first : after.document.first? (settings.layerId layer) with
  | none =>
      exact marks.fresh.attribute?_of_not_found first
  | some position =>
      have firstBefore := (marks.first _).symm.trans first
      obtain ⟨element, there, -⟩ := Tree.exists_element_of_idAt?
        (Tree.isFirst_of_first? _ firstBefore).has
      rw [marks.fresh.attribute?_eq first
        (marks.layer layer member position element firstBefore there),
        element.attribute?_withAttribute]
      rfl

/-- Nothing but the visibility of some elements changes. -/
theorem sameAround (marks : Marks settings marked layers page after)
    {names : List String} (listed : "visibility" ∈ names)
    (place : List Nat) : Page.SameAround names place page after := by
  intro position _
  by_cases addressed : ∃ layer ∈ layers,
      page.document.first? (settings.layerId layer) = some position
  · obtain ⟨layer, member, first⟩ := addressed
    obtain ⟨element, there, -⟩ :=
      Tree.exists_element_of_idAt? (Tree.isFirst_of_first? _ first).has
    rw [marks.layer layer member position element first there, there,
      Option.map_some, Option.map_some,
      (editsOnly_withAttribute listed (mark marked layer)).without element]
  · rw [marks.others position fun layer member first =>
      addressed ⟨layer, member, first⟩]

end Marks

theorem exists_marks {page : Page} (fresh : page.IsFresh)
    (settings : ViewerSettings) (marked : List Nat) :
    ∃ after, markLayers settings marked page = .ok after ∧
      Marks settings marked (List.range settings.maxLayers) page after := by
  obtain ⟨done, soundAfter⟩ := markLayers_eq fresh.isSound settings marked
  exact ⟨_, done, .of_withMarks fresh soundAfter⟩

/-! ## Visible layers -/

/-- The layers that are visible once the layers have their marks. -/
theorem visibleLayers_eq {σ τ : Type} [Renderer σ] {viewer : Viewer σ τ}
    {marked : List Nat}
    (reads : ∀ layer ∈ List.range viewer.settings.maxLayers,
      viewer.page.attribute? (viewer.settings.layerId layer) "visibility" =
        if viewer.page.contains (viewer.settings.layerId layer) then
          .ok (some (mark marked layer))
        else .error (.missingElement (viewer.settings.layerId layer))) :
    viewer.visibleLayers =
      (List.range viewer.settings.maxLayers).filter fun layer =>
        marked.contains layer &&
          viewer.page.contains (viewer.settings.layerId layer) := by
  refine List.filter_congr fun layer member => ?_
  rw [reads layer member]
  cases known : viewer.page.contains (viewer.settings.layerId layer) with
  | false =>
      simp
  | true =>
      rw [if_pos rfl, Bool.and_true, Bool.eq_iff_iff]
      simp only [beq_iff_eq, Option.some.injEq, mark_eq_visible_iff]

theorem visibleLayers_of_marks {σ τ : Type} [Renderer σ]
    {viewer : Viewer σ τ} {marked : List Nat} {page : Page}
    (marks : Marks viewer.settings marked
      (List.range viewer.settings.maxLayers) page viewer.page) :
    viewer.visibleLayers =
      (List.range viewer.settings.maxLayers).filter fun layer =>
        marked.contains layer &&
          viewer.page.contains (viewer.settings.layerId layer) :=
  visibleLayers_eq fun _ member => marks.attribute?_layerId member

/-- The first layer is all that is visible once it alone is asked for. -/
theorem filter_range_singleton_zero {count : Nat} (some : 1 ≤ count)
    (known : Nat → Bool) :
    ((List.range count).filter fun layer =>
      [0].contains layer && known layer) = if known 0 then [0] else [] := by
  obtain ⟨more, rfl⟩ := Nat.exists_eq_add_of_le' some
  have others : ((List.range more).map Nat.succ).filter
      (fun layer => [0].contains layer && known layer) = [] := by
    rw [List.filter_eq_nil_iff]
    intro layer member
    obtain ⟨before, -, rfl⟩ := List.mem_map.mp member
    simp
  rw [List.range_succ_eq_map, List.filter_cons, others]
  simp

end Viewer

end KeymapViewer
