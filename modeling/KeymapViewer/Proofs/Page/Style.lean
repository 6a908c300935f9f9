import KeymapViewer.Page.Style
import KeymapViewer.Proofs.Page.Value
import KeymapViewer.Proofs.Text.Cut

/-!
Styles that are written and read back. Whatever the style attribute of an
element is, what is read from it are declarations that come back as they are
written.
-/

namespace KeymapViewer

open Text

/-! ## Declarations -/

/-- What can stand before the colon of a declaration. -/
structure Style.IsProperty (property : String) : Prop where
  nonempty : property ≠ ""
  trimmed : trim property.toList = property.toList
  noColon : ':' ∉ property.toList
  noSemicolon : ';' ∉ property.toList

/-- What can stand after it. -/
structure Style.IsValue (value : String) : Prop where
  trimmed : trim value.toList = value.toList
  noSemicolon : ';' ∉ value.toList

namespace Declaration

open Style

/-- A declaration that is read back as it is written. -/
structure IsPlain (declaration : Declaration) : Prop where
  property : IsProperty declaration.property
  value : IsValue declaration.value

variable {declaration : Declaration}

/-- A declaration is read whatever white space there is around its property and
its value. -/
theorem parse?_append_cons (plain : declaration.IsPlain)
    {before after : List Char} (noColon : ':' ∉ before)
    (property : trim before = declaration.property.toList)
    (value : trim after = declaration.value.toList) :
    parse? (before ++ ':' :: after) = some declaration := by
  have named : declaration.property.toList.isEmpty = false := by
    rw [List.isEmpty_eq_false_iff, ne_eq, String.toList_eq_nil_iff]
    exact plain.property.nonempty
  simp only [parse?, cut?_append_cons noColon, property, value, named,
    Bool.false_eq_true, ↓reduceIte, String.ofList_toList]

theorem toList_render (declaration : Declaration) :
    declaration.render.toList =
      declaration.property.toList ++ ':' :: ' ' ::
        declaration.value.toList := by
  simp [render]

theorem trim_blank_cons (text : List Char) : trim (' ' :: text) = trim text :=
  trim_cons_of_isBlank (by decide) text

theorem parse?_render (plain : declaration.IsPlain) :
    parse? declaration.render.toList = some declaration := by
  rw [toList_render]
  apply parse?_append_cons plain plain.property.noColon plain.property.trimmed
  rw [trim_blank_cons, plain.value.trimmed]

/-- The declarations after the first one are written with a blank before
them. -/
theorem parse?_blank_cons_render (plain : declaration.IsPlain) :
    parse? (' ' :: declaration.render.toList) = some declaration := by
  have noColon : ':' ∉ ' ' :: declaration.property.toList := by
    rw [List.mem_cons, not_or]
    exact ⟨by decide, plain.property.noColon⟩
  rw [toList_render, ← List.cons_append]
  apply parse?_append_cons plain noColon
  · rw [trim_blank_cons, plain.property.trimmed]
  · rw [trim_blank_cons, plain.value.trimmed]

theorem semicolon_notMem_render (plain : declaration.IsPlain) :
    ';' ∉ declaration.render.toList := by
  rw [toList_render]
  simp [plain.property.noSemicolon, plain.value.noSemicolon]

theorem isPlain_of_parse? {text : List Char} (noSemicolon : ';' ∉ text)
    (found : parse? text = some declaration) : declaration.IsPlain := by
  unfold parse? at found
  split at found
  · cases found
  rename_i before after cut
  obtain ⟨noColon, rfl⟩ := cut?_eq_some_iff.mp cut
  rw [List.mem_append, List.mem_cons, not_or, not_or] at noSemicolon
  obtain ⟨free, -, freeAfter⟩ := noSemicolon
  simp only [Option.ite_none_left_eq_some, List.isEmpty_iff,
    Option.some.injEq] at found
  obtain ⟨nonempty, rfl⟩ := found
  refine ⟨⟨?_, ?_, ?_, ?_⟩, ?_, ?_⟩
  all_goals simp only [String.toList_ofList, trim_trim]
  · intro nothing
    exact nonempty (String.ofList_eq_empty_iff.mp nothing)
  · exact fun member => noColon (mem_of_mem_trim member)
  · exact fun member => free (mem_of_mem_trim member)
  · exact fun member => freeAfter (mem_of_mem_trim member)

end Declaration

/-! ## Styles -/

namespace Style

/-- A style that is read back as it is written. -/
def IsPlain (style : Style) : Prop :=
  ∀ declaration ∈ style, declaration.IsPlain

theorem isPlain_parse (text : String) : (parse text).IsPlain := by
  intro declaration member
  obtain ⟨piece, piecewise, found⟩ := List.mem_filterMap.mp member
  exact Declaration.isPlain_of_parse? (notMem_of_mem_splitOn piecewise) found

theorem IsPlain.set {style : Style} (plain : style.IsPlain)
    {property value : String} (named : IsProperty property)
    (valued : IsValue value) : (style.set property value).IsPlain := by
  induction style with
  | nil =>
      intro declaration member
      rw [List.mem_singleton.mp member]
      exact ⟨named, valued⟩
  | cons first rest inductionHypothesis =>
      obtain ⟨plainFirst, plainRest⟩ := List.forall_mem_cons.mp plain
      rw [Style.set]
      split
      · exact List.forall_mem_cons.mpr
          ⟨⟨plainFirst.property, valued⟩, plainRest⟩
      · exact List.forall_mem_cons.mpr
          ⟨plainFirst, inductionHypothesis plainRest⟩

/-- What is between the semicolons of a style that is written. -/
def pieces : Style → List (List Char)
  | [] => [[]]
  | first :: rest =>
    first.render.toList :: rest.map (' ' :: ·.render.toList)

theorem toList_render (style : Style) :
    style.render.toList = [';'].intercalate style.pieces := by
  rw [render, String.toList_intercalate, List.map_map]
  cases style with
  | nil =>
      rfl
  | cons first rest =>
      induction rest generalizing first with
      | nil =>
          rfl
      | cons second rest inductionHypothesis =>
          simp only [pieces, List.map_cons, List.intercalate_cons_cons,
            List.intercalate_cons_cons_left] at inductionHypothesis ⊢
          rw [inductionHypothesis second]
          simp

theorem IsPlain.semicolon_notMem {style : Style} (plain : style.IsPlain) :
    ∀ piece ∈ style.pieces, ';' ∉ piece := by
  cases style with
  | nil =>
      simp [pieces]
  | cons first rest =>
      obtain ⟨plainFirst, plainRest⟩ := List.forall_mem_cons.mp plain
      refine List.forall_mem_cons.mpr
        ⟨Declaration.semicolon_notMem_render plainFirst, ?_⟩
      intro piece member
      obtain ⟨declaration, there, rfl⟩ := List.mem_map.mp member
      rw [List.mem_cons, not_or]
      exact ⟨by decide,
        Declaration.semicolon_notMem_render (plainRest declaration there)⟩

theorem IsPlain.filterMap_pieces {style : Style} (plain : style.IsPlain) :
    style.pieces.filterMap Declaration.parse? = style := by
  cases style with
  | nil =>
      rfl
  | cons first rest =>
      obtain ⟨plainFirst, plainRest⟩ := List.forall_mem_cons.mp plain
      have others : rest.filterMap
          (fun declaration =>
            Declaration.parse? (' ' :: declaration.render.toList)) =
          rest.filterMap some :=
        List.filterMap_congr fun declaration member =>
          Declaration.parse?_blank_cons_render (plainRest declaration member)
      rw [pieces, List.filterMap_cons, Declaration.parse?_render plainFirst,
        List.filterMap_map]
      exact congrArg (first :: ·) (others.trans List.filterMap_some)

theorem IsPlain.parse_render {style : Style} (plain : style.IsPlain) :
    parse style.render = style := by
  have nonempty : style.pieces ≠ [] := by
    cases style with
    | nil =>
        exact List.cons_ne_nil _ _
    | cons first rest =>
        exact List.cons_ne_nil _ _
  rw [parse, toList_render,
    List.splitOn_intercalate ';' plain.semicolon_notMem nonempty,
    plain.filterMap_pieces]

theorem get_set (style : Style) (property value other : String) :
    (style.set property value).get other =
      if other = property then value else style.get other := by
  induction style with
  | nil =>
      by_cases same : other = property
      · simp [Style.set, Style.get, same]
      · simp [Style.set, Style.get, same, Ne.symm same]
  | cons first rest inductionHypothesis =>
      by_cases named : first.property = property
      · by_cases same : other = property
        · simp [Style.set, Style.get, named, same]
        · simp [Style.set, Style.get, named, same, Ne.symm same]
      · by_cases here : first.property = other
        · have differs : other ≠ property := here ▸ named
          simp [Style.set, Style.get, here, differs]
        · simp only [Style.set, Style.get, beq_iff_eq, named, ↓reduceIte,
            List.find?_cons, beq_false_of_ne here]
          exact inductionHypothesis

theorem set_set (style : Style) (property first second : String) :
    (style.set property first).set property second =
      style.set property second := by
  induction style with
  | nil =>
      simp [Style.set]
  | cons declaration rest inductionHypothesis =>
      by_cases named : declaration.property = property
      · simp [Style.set, named]
      · simp [Style.set, named, inductionHypothesis]

end Style

/-! ## Styles of elements -/

/-- What is read from the style attribute of an element, if it has one. -/
def Markup.Element.style (element : Markup.Element) : Style :=
  .parse ((element.attribute? "style").getD "")

namespace Page

open Markup

/-- Two pages that differ in one attribute of one element at most. -/
def DiffersInAttribute (name : String) (position : List Nat)
    (page after : Page) : Prop :=
  ∃ element value,
    page.document.contentAt? position = some (.element element) ∧
    ∀ place, after.document.contentAt? place =
      if place = position then
        some (.element { element with
          attributes := withAttribute name value element.attributes })
      else page.document.contentAt? place

namespace IsFresh

variable {page after : Page} {id : String} {position : List Nat}
  {element : Element}

theorem style_eq (fresh : page.IsFresh)
    (first : page.document.first? id = some position)
    (there : page.document.contentAt? position = some (.element element)) :
    page.style id = .ok element.style := by
  rw [style, fresh.attribute?_eq first there]
  rfl

/-- Setting a property writes the style attribute anew. -/
theorem setStyleProperty_eq (fresh : page.IsFresh)
    (first : page.document.first? id = some position)
    (there : page.document.contentAt? position = some (.element element))
    (property value : String) :
    page.setStyleProperty id property value =
      page.setAttribute id "style"
        (element.style.set property value).render := by
  rw [Page.setStyleProperty, fresh.style_eq first there]
  rfl

theorem differsInStyle (fresh : page.IsFresh)
    (first : page.document.first? id = some position)
    {property value : String}
    (done : page.setStyleProperty id property value = .ok after) :
    after.IsFresh ∧ DiffersInAttribute "style" position page after := by
  obtain ⟨element, there, -⟩ :=
    Tree.exists_element_of_idAt? (Tree.isFirst_of_first? _ first).has
  rw [fresh.setStyleProperty_eq first there] at done
  obtain ⟨styled, same, freshAfter, contents⟩ :=
    fresh.setAttribute first there (show "style" ≠ "id" by decide)
      (element.style.set property value).render
  obtain rfl := Except.ok.inj (same.symm.trans done)
  exact ⟨freshAfter, element, _, there, contents⟩

end IsFresh

end Page

end KeymapViewer
