import KeymapViewer.Proofs.Page.Style

/-!
A property of a style as a lens. What is set is read, no other property is
touched, and of two values the last one is left; the page differs in the style
attribute of one element. This holds whatever was done to the page before.
-/

namespace KeymapViewer.Page

open Markup

/-- A page before and after a property of an element gets a value. -/
structure SetsProperty (page : Page) (id property value : String)
    (after : Page) : Prop where
  done : page.setStyleProperty id property value = .ok after
  get : after.styleProperty id property = .ok value
  others : ∀ other, other ≠ property →
    after.styleProperty id other = page.styleProperty id other
  again : ∀ next, after.setStyleProperty id property next =
    page.setStyleProperty id property next
  ids : after.ids = page.ids
  kept : ∃ position, page.Addresses id position ∧
    DiffersInAttribute "style" position page after

section

variable {page : Page} {id : String} {slot : Nat} {element : Element}
  {below : List Nat}

theorem style_of_node? (leads : page.slotOf id = .ok slot)
    (found : page.node? slot = some ⟨.element element, below⟩) :
    page.style id = .ok element.style := by
  rw [style, attribute?_of_node? leads found]
  rfl

theorem styleProperty_of_node? (leads : page.slotOf id = .ok slot)
    (found : page.node? slot = some ⟨.element element, below⟩)
    (property : String) :
    page.styleProperty id property = .ok (element.style.get property) := by
  rw [styleProperty, style_of_node? leads found]
  rfl

theorem IsSound.setStyleProperty (sound : page.IsSound)
    (leads : page.slotOf id = .ok slot)
    (found : page.node? slot = some ⟨.element element, below⟩)
    (property value : String) :
    let after := page.editSlots (only slot
      (withAttribute "style" (element.style.set property value).render))
    page.setStyleProperty id property value = .ok after ∧ after.IsSound := by
  rw [Page.setStyleProperty, style_of_node? leads found]
  exact sound.setAttribute leads (by decide) _

/-- The node of an element after it gets a style. -/
theorem node?_of_style
    (found : page.node? slot = some ⟨.element element, below⟩)
    (text : String) :
    (page.editSlots (only slot (withAttribute "style" text))).node? slot =
      some ⟨.element { element with
        attributes := withAttribute "style" text element.attributes },
        below⟩ := by
  rw [node?_editSlots, found, only, if_pos rfl]
  rfl

/-- A style that is set is read back. -/
theorem style_withAttribute {style : Style} (plain : style.IsPlain)
    (element : Element) :
    Element.style { element with
      attributes := withAttribute "style" style.render element.attributes } =
        style := by
  rw [Element.style, element.attribute?_withAttribute, Option.getD_some,
    plain.parse_render]

theorem IsSound.differsInAttribute (sound : page.IsSound) {name value : String}
    (soundAfter :
      (page.editSlots (only slot (withAttribute name value))).IsSound)
    (found : page.node? slot = some ⟨.element element, below⟩)
    {position : List Nat}
    (placed : page.slotAt? root position = some slot) :
    DiffersInAttribute name position page
      (page.editSlots (only slot (withAttribute name value))) := by
  obtain ⟨layouts, draws⟩ := sound.draws
  obtain ⟨layoutsAfter, drawsAfter⟩ := soundAfter.draws
  have there : page.document.contentAt? position = some (.element element) :=
    draws.contentAt?_of_slotAt? placed found
  refine ⟨element, value, there, fun place => ?_⟩
  rw [draws.contentAt?_only drawsAfter placed, there]
  rfl

theorem SetsProperty.isSound {property value : String} {after : Page}
    (sets : page.SetsProperty id property value after)
    (sound : page.IsSound) : after.IsSound := by
  have edited := sound.edit (.setStyleProperty id property value)
  rwa [edit, Edit.apply, sets.done] at edited

theorem IsSound.exists_setsProperty (sound : page.IsSound)
    (known : page.contains id = true) {property value : String}
    (named : Style.IsProperty property) (valued : Style.IsValue value) :
    ∃ after, page.SetsProperty id property value after := by
  obtain ⟨layouts, draws⟩ := sound.draws
  obtain ⟨slot, leads⟩ := exists_slotOf known
  obtain ⟨element, below, found⟩ := isElement_of_slotOf draws leads
  obtain ⟨position, placed⟩ := draws.exists_slotAt? found
  obtain ⟨done, soundAfter⟩ :=
    sound.setStyleProperty leads found property value
  have plain : (element.style.set property value).IsPlain :=
    (Style.isPlain_parse _).set named valued
  have foundAfter := node?_of_style found
    (element.style.set property value).render
  have read := style_withAttribute plain element
  have leadsAfter : (page.editSlots (only slot (withAttribute "style"
      (element.style.set property value).render))).slotOf id = .ok slot :=
    leads
  refine ⟨_, done, ?_, fun other differs => ?_, fun next => ?_, rfl,
    position, ⟨slot, leads, placed⟩,
    sound.differsInAttribute soundAfter found placed⟩
  · rw [styleProperty_of_node? leadsAfter foundAfter, read, Style.get_set,
      if_pos rfl]
  · rw [styleProperty_of_node? leadsAfter foundAfter, read, Style.get_set,
      if_neg differs, styleProperty_of_node? leads found]
  · have replaced (first second : String) :
        withAttribute "style" second ∘ withAttribute "style" first =
          withAttribute "style" second :=
      funext (withAttribute_withAttribute "style" first second)
    rw [(soundAfter.setStyleProperty leadsAfter foundAfter property next).1,
      (sound.setStyleProperty leads found property next).1, read,
      Style.set_set, editSlots_comp, only_comp, replaced]

end

end KeymapViewer.Page
