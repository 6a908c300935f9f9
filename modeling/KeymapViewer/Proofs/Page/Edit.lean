import KeymapViewer.Page.Form
import KeymapViewer.Page.Style
import KeymapViewer.Proofs.Fault
import KeymapViewer.Proofs.Page.WellFormed
import KeymapViewer.Proofs.Peak

/-!
Runs of edits. Every edit of a page that draws a document leaves a page that
draws one, and the slots of the page become more only when all of them are
occupied; so a run never needs more slots than the largest document on its way.
-/

namespace KeymapViewer.Page

open Markup Layout

inductive Edit where
  | setAttribute (id name value : String)
  | removeAttribute (id name : String)
  | setStyleProperty (id property value : String)
  | setChecked (id : String) (checked : Bool)
  | setValue (id value : String)
  | setInnerHtml (id markup : String)
  deriving DecidableEq, Repr

def Edit.apply (page : Page) : Edit → Except Fault Page
  | .setAttribute id name value => page.setAttribute id name value
  | .removeAttribute id name => page.removeAttribute id name
  | .setStyleProperty id property value =>
    page.setStyleProperty id property value
  | .setChecked id checked => page.setChecked id checked
  | .setValue id value => page.setValue id value
  | .setInnerHtml id markup => page.setInnerHtml id markup

/-- The page after an edit, which is the same page when the edit fails. -/
def edit (page : Page) (edit : Edit) : Page :=
  match edit.apply page with
  | .ok edited => edited
  | .error _ => page

def run (page : Page) (edits : List Edit) : Page := edits.foldl edit page

/-- A page that draws a document and was made of another one, with as many
slots as either of them needs. -/
structure Follows (page after : Page) : Prop where
  draws : ∃ layouts, after.Draws layouts
  size : after.slots.size = max page.slots.size after.nodeCount

/-- A page that draws a document and was made of another one in its slots. -/
structure Keeps (page after : Page) : Prop where
  draws : ∃ layouts, after.Draws layouts
  size : after.slots.size = page.slots.size

theorem Draws.nodeCount_le {page : Page} {layouts : List Layout}
    (draws : page.Draws layouts) : page.nodeCount ≤ page.slots.size := by
  have fits := draws.holds.length_add_length
  rw [draws.holds.nodeCount_eq]
  omega

theorem Keeps.follows {page after : Page} (keeps : page.Keeps after) :
    page.Follows after := by
  obtain ⟨layouts, draws⟩ := keeps.draws
  have fits := draws.nodeCount_le
  have size := keeps.size
  exact ⟨⟨layouts, draws⟩, by omega⟩

theorem Keeps.trans {first second third : Page}
    (before : first.Keeps second) (after : second.Keeps third) :
    first.Keeps third :=
  ⟨after.draws, after.size.trans before.size⟩

/-! ## Single edits -/

section

variable {page after : Page} {layouts : List Layout} {slot : Nat}
  {id : String}

theorem isElement_of_slotOf (draws : page.Draws layouts)
    (known : page.slotOf id = .ok slot) : page.IsElement slot := by
  unfold slotOf at known
  cases found : page.ids.lookup id with
  | none =>
      rw [found] at known
      cases known
  | some place =>
      rw [found] at known
      cases known
      obtain ⟨before, later, split, -⟩ := List.lookup_eq_some_iff.mp found
      exact draws.indexed (id, slot) (by simp [split])

/-- A change that is made in the slot of an id is made in an element. -/
theorem isElement_of_done (draws : page.Draws layouts) {change : Nat → Page}
    (done : (do
      let slot ← page.slotOf id
      return change slot) = .ok after) :
    ∃ slot, page.IsElement slot ∧ change slot = after := by
  obtain ⟨slot, known, same⟩ := exists_of_bind_eq_ok done
  exact ⟨slot, isElement_of_slotOf draws known, Except.ok.inj same⟩

theorem keeps_setAttribute (draws : page.Draws layouts)
    {name value : String}
    (done : page.setAttribute id name value = .ok after) :
    page.Keeps after := by
  obtain ⟨slot, ⟨element, below, found⟩, rfl⟩ := isElement_of_done draws done
  obtain ⟨edited, same, drawn, size⟩ :=
    draws.setAttributeAt? found name value
  rw [same]
  exact ⟨⟨_, drawn⟩, size⟩

theorem keeps_removeAttribute (draws : page.Draws layouts) {name : String}
    (done : page.removeAttribute id name = .ok after) :
    page.Keeps after := by
  obtain ⟨slot, ⟨element, below, found⟩, rfl⟩ := isElement_of_done draws done
  obtain ⟨edited, same, drawn, size⟩ :=
    draws.editAttributes? found (·.filter (·.name != name))
  rw [same]
  exact ⟨⟨_, drawn⟩, size⟩

theorem follows_setInnerHtml (draws : page.Draws layouts)
    {markup : String} (done : page.setInnerHtml id markup = .ok after) :
    page.Follows after := by
  obtain ⟨slot, ⟨element, below, found⟩, rfl⟩ := isElement_of_done draws done
  obtain ⟨edited, added, same, drawn, -, size⟩ :=
    draws.replaceBelow? found markup
  rw [same]
  exact ⟨⟨_, drawn⟩, size⟩

/-- Unchecking the other buttons of a group, one after another. -/
theorem keeps_removeAttributes (draws : page.Draws layouts) (name : String)
    (others : List String)
    (done : others.foldlM (·.removeAttribute · name) page = .ok after) :
    page.Keeps after := by
  induction others generalizing page layouts with
  | nil =>
      cases done
      exact ⟨⟨layouts, draws⟩, rfl⟩
  | cons other rest inductionHypothesis =>
      rw [List.foldlM_cons] at done
      obtain ⟨between, removed, done⟩ := exists_of_bind_eq_ok done
      have first := keeps_removeAttribute draws removed
      obtain ⟨layoutsBetween, drawsBetween⟩ := first.draws
      exact first.trans (inductionHypothesis drawsBetween done)

theorem keeps_setChecked (draws : page.Draws layouts) {checked : Bool}
    (done : page.setChecked id checked = .ok after) :
    page.Keeps after := by
  unfold setChecked at done
  cases checked with
  | false =>
      exact keeps_removeAttribute draws done
  | true =>
      obtain ⟨element, -, done⟩ := exists_of_bind_eq_ok done
      obtain ⟨cleared, removing, done⟩ := exists_of_bind_eq_ok done
      have first := keeps_removeAttributes draws "checked" _ removing
      obtain ⟨layoutsCleared, drawsCleared⟩ := first.draws
      exact first.trans (keeps_setAttribute drawsCleared done)

theorem keeps_setStyleProperty (draws : page.Draws layouts)
    {property value : String}
    (done : page.setStyleProperty id property value = .ok after) :
    page.Keeps after := by
  obtain ⟨style, -, done⟩ := exists_of_bind_eq_ok done
  exact keeps_setAttribute draws done

theorem follows_setValue (draws : page.Draws layouts) {value : String}
    (done : page.setValue id value = .ok after) : page.Follows after := by
  obtain ⟨textArea, -, done⟩ := exists_of_bind_eq_ok done
  cases textArea with
  | true =>
      exact follows_setInnerHtml draws done
  | false =>
      exact (keeps_setAttribute draws done).follows

theorem follows_edit (draws : page.Draws layouts) (change : Edit) :
    page.Follows (page.edit change) := by
  unfold edit
  rcases applied : change.apply page with fault | after
  · exact Keeps.follows ⟨⟨layouts, draws⟩, rfl⟩
  · cases change with
    | setAttribute id name value =>
        exact (keeps_setAttribute draws applied).follows
    | removeAttribute id name =>
        exact (keeps_removeAttribute draws applied).follows
    | setStyleProperty id property value =>
        exact (keeps_setStyleProperty draws applied).follows
    | setChecked id checked =>
        exact (keeps_setChecked draws applied).follows
    | setValue id value =>
        exact follows_setValue draws applied
    | setInnerHtml id markup =>
        exact follows_setInnerHtml draws applied

end

/-! ## Edits that fail -/

def Edit.id : Edit → String
  | .setAttribute id _ _ => id
  | .removeAttribute id _ => id
  | .setStyleProperty id _ _ => id
  | .setChecked id _ => id
  | .setValue id _ => id
  | .setInnerHtml id _ => id

section

variable {page : Page} {layouts : List Layout} {id : String}

theorem exists_slotOf (known : page.contains id = true) :
    ∃ slot, page.slotOf id = .ok slot := by
  obtain ⟨slot, found⟩ := Option.isSome_iff_exists.mp known
  exact ⟨slot, by rw [slotOf, found]⟩

theorem slotOf_of_not_contains (unknown : page.contains id = false) :
    page.slotOf id = .error (.missingElement id) := by
  have none_ := Option.isSome_eq_false_iff.mp unknown
  rw [slotOf, Option.isNone_iff_eq_none.mp none_]

theorem find_of_node? {slot : Nat} {element : Element} {below : List Nat}
    (leads : page.slotOf id = .ok slot)
    (found : page.node? slot = some ⟨.element element, below⟩) :
    page.find id = .ok element := by
  simp only [find, leads, bind, Except.bind, found]
  rfl

theorem attribute?_of_node? {slot : Nat} {element : Element}
    {below : List Nat} (leads : page.slotOf id = .ok slot)
    (found : page.node? slot = some ⟨.element element, below⟩)
    (name : String) :
    page.attribute? id name = .ok (element.attribute? name) := by
  rw [attribute?, find_of_node? leads found]
  rfl

theorem attribute?_of_not_contains (unknown : page.contains id = false)
    (name : String) :
    page.attribute? id name = .error (.missingElement id) := by
  rw [attribute?, find, slotOf_of_not_contains unknown]
  rfl

theorem exists_find (draws : page.Draws layouts)
    (known : page.contains id = true) :
    ∃ element, page.find id = .ok element := by
  obtain ⟨slot, place⟩ := exists_slotOf known
  obtain ⟨element, below, found⟩ := isElement_of_slotOf draws place
  exact ⟨element, find_of_node? place found⟩

theorem contains_of_mem_elementIds (member : id ∈ page.elementIds) :
    page.contains id = true := by
  obtain ⟨entry, listed, rfl⟩ := List.mem_map.mp member
  exact List.lookup_isSome_iff.mpr ⟨entry, listed, beq_self_eq_true _⟩

theorem exists_setAttribute (known : page.contains id = true)
    (name value : String) :
    ∃ after, page.setAttribute id name value = .ok after := by
  obtain ⟨slot, place⟩ := exists_slotOf known
  exact ⟨_, by rw [setAttribute, place]; rfl⟩

/-- Removing an attribute leaves the index as it is. -/
theorem exists_removeAttribute (known : page.contains id = true)
    (name : String) :
    ∃ after, page.removeAttribute id name = .ok after ∧
      after.ids = page.ids := by
  obtain ⟨slot, place⟩ := exists_slotOf known
  refine ⟨_, by rw [removeAttribute, place]; rfl, ?_⟩
  unfold editAttributes?
  split
  · rfl
  · rfl

theorem exists_removeAttributes {others : List String}
    (known : ∀ other ∈ others, page.contains other = true) (name : String) :
    ∃ after, others.foldlM (·.removeAttribute · name) page = .ok after ∧
      after.ids = page.ids := by
  induction others generalizing page with
  | nil =>
      exact ⟨page, rfl, rfl⟩
  | cons other rest inductionHypothesis =>
      obtain ⟨between, removed, same⟩ :=
        exists_removeAttribute (known other (List.mem_cons_self ..)) name
      have knownBetween : ∀ next ∈ rest, between.contains next = true := by
        intro next member
        rw [contains, same]
        exact known next (List.mem_cons_of_mem _ member)
      obtain ⟨after, done, sameAfter⟩ := inductionHypothesis knownBetween
      refine ⟨after, ?_, sameAfter.trans same⟩
      rw [List.foldlM_cons, removed]
      exact done

theorem exists_setInnerHtml (known : page.contains id = true)
    (markup : String) :
    ∃ after, page.setInnerHtml id markup = .ok after := by
  obtain ⟨slot, place⟩ := exists_slotOf known
  exact ⟨_, by rw [setInnerHtml, place]; rfl⟩

theorem contains_of_setInnerHtml {after : Page} {markup : String}
    (changed : page.setInnerHtml id markup = .ok after) :
    page.contains id = true := by
  by_contra unknown
  rw [Bool.not_eq_true] at unknown
  rw [setInnerHtml, slotOf_of_not_contains unknown] at changed
  cases changed

theorem exists_setStyleProperty (draws : page.Draws layouts)
    (known : page.contains id = true) (property value : String) :
    ∃ after, page.setStyleProperty id property value = .ok after := by
  obtain ⟨element, found⟩ := exists_find draws known
  simp only [setStyleProperty, style, attribute?, found, bind, Except.bind]
  exact exists_setAttribute known "style" _

theorem exists_setChecked (draws : page.Draws layouts)
    (known : page.contains id = true) (checked : Bool) :
    ∃ after, page.setChecked id checked = .ok after := by
  cases checked with
  | false =>
      obtain ⟨after, done, -⟩ := exists_removeAttribute known "checked"
      exact ⟨after, done⟩
  | true =>
      have checks : ∀ others : List String,
          (∀ other ∈ others, page.contains other = true) →
          ∃ after,
            (others.foldlM (removeAttribute · · "checked") page >>=
              (setAttribute · id "checked" "")) = .ok after := by
        intro others listed
        obtain ⟨cleared, clearing, same⟩ :=
          exists_removeAttributes listed "checked"
        have knownCleared : cleared.contains id = true := by
          rw [contains, same]
          exact known
        rw [clearing]
        exact exists_setAttribute knownCleared "checked" ""
      obtain ⟨element, found⟩ := exists_find draws known
      rw [setChecked, if_pos rfl, found]
      refine checks _ fun other member => ?_
      split at member
      · exact contains_of_mem_elementIds (List.mem_filter.mp member).1
      · cases member

theorem exists_setValue (draws : page.Draws layouts)
    (known : page.contains id = true) (value : String) :
    ∃ after, page.setValue id value = .ok after := by
  obtain ⟨element, found⟩ := exists_find draws known
  have kind : page.isTextArea id = .ok (sameName element.tag "textarea") := by
    rw [isTextArea, tagName, found]
    rfl
  rw [setValue, kind]
  cases sameName element.tag "textarea" with
  | true =>
      exact exists_setInnerHtml known _
  | false =>
      exact exists_setAttribute known "value" value

/-- An edit of an element that the index knows succeeds. -/
theorem exists_apply (draws : page.Draws layouts) (change : Edit)
    (known : page.contains change.id = true) :
    ∃ after, change.apply page = .ok after := by
  cases change with
  | setAttribute id name value =>
      exact exists_setAttribute known name value
  | removeAttribute id name =>
      obtain ⟨after, done, -⟩ := exists_removeAttribute known name
      exact ⟨after, done⟩
  | setStyleProperty id property value =>
      exact exists_setStyleProperty draws known property value
  | setChecked id checked =>
      exact exists_setChecked draws known checked
  | setValue id value =>
      exact exists_setValue draws known value
  | setInnerHtml id markup =>
      exact exists_setInnerHtml known markup

/-- An edit of any other element fails before it changes anything. -/
theorem apply_of_not_contains (change : Edit)
    (unknown : page.contains change.id = false) :
    change.apply page = .error (.missingElement change.id) := by
  have missing := slotOf_of_not_contains unknown
  have none_ : page.find change.id = .error (.missingElement change.id) := by
    rw [find, missing]
    rfl
  cases change with
  | setAttribute id name value =>
      exact congrArg (· >>= _) missing
  | removeAttribute id name =>
      exact congrArg (· >>= _) missing
  | setStyleProperty id property value =>
      rw [Edit.id] at none_
      rw [Edit.apply, setStyleProperty, style, attribute?, none_]
      rfl
  | setChecked id checked =>
      cases checked with
      | false =>
          exact congrArg (· >>= _) missing
      | true =>
          rw [Edit.id] at none_
          rw [Edit.apply, setChecked, if_pos rfl, none_]
          rfl
  | setValue id value =>
      rw [Edit.id] at none_
      rw [Edit.apply, setValue, isTextArea, tagName, none_]
      rfl
  | setInnerHtml id markup =>
      exact congrArg (· >>= _) missing

end

/-! ## Runs -/

theorem draws_run {page : Page} {layouts : List Layout}
    (draws : page.Draws layouts) (edits : List Edit) :
    ∃ after, (page.run edits).Draws after := by
  induction edits generalizing page layouts with
  | nil =>
      exact ⟨layouts, draws⟩
  | cons change rest inductionHypothesis =>
      obtain ⟨layoutsBetween, drawsBetween⟩ :=
        (follows_edit draws change).draws
      exact inductionHypothesis drawsBetween

theorem run_append (page : Page) (first second : List Edit) :
    page.run (first ++ second) = (page.run first).run second :=
  List.foldl_append ..

/-- The node counts on the way of a run. -/
def counts (page : Page) (edits : List Edit) : Set Nat :=
  {count | ∃ earlier, earlier <+: edits ∧
    count = (page.run earlier).nodeCount}

/-- A page never has more slots than the largest document needed so far. -/
theorem isGreatest_counts {page : Page} {layouts : List Layout}
    (draws : page.Draws layouts) (full : page.slots.size = page.nodeCount)
    (edits : List Edit) :
    IsGreatest (page.counts edits) (page.run edits).slots.size := by
  let size (page : Page) : Nat := page.slots.size
  have start : size page = page.nodeCount := full
  apply isGreatest_amounts start
  intro earlier change _
  obtain ⟨layoutsBefore, drawsBefore⟩ := draws_run draws earlier
  exact (follows_edit drawsBefore change).size

/-- Whatever is done to the page of a text, its slots are a tree at whose root
is the document, no operation comes to a vacant slot, the node count is the
number of slots in the tree, and the page has as many slots as the largest
document of the run has nodes. -/
theorem run_parse_wellFormed (html : String) (edits : List Edit) :
    parse? html = some (parse html) ∧
      ((parse html).run edits).WellFormed ∧
      ((parse html).run edits).Unbroken ∧
      ((parse html).run edits).nodeCount =
        {slot | ((parse html).run edits).Reaches slot}.ncard ∧
      IsGreatest ((parse html).counts edits)
        ((parse html).run edits).slots.size := by
  obtain ⟨layouts, read, draws, -, full⟩ := parse_draws html
  obtain ⟨after, drawsAfter⟩ := draws_run draws edits
  exact ⟨read, drawsAfter.wellFormed, drawsAfter.unbroken,
    drawsAfter.nodeCount_eq_ncard, isGreatest_counts draws full edits⟩

end KeymapViewer.Page
