import KeymapViewer.Preview.ReloadScript
import KeymapViewer.Proofs.Text.Occurrence

/-!
The reload script in a page. It is put directly before the last end of a body
unless its marker is in the page, so that it is there once at most; but it is
the marker that is looked for, and a page can have that without the script.
-/

namespace KeymapViewer.Preview

open Text

/-! ## Putting a text into a page -/

/-- A text is put into a page: directly before its last end of a body, or at its
end if it has none. -/
inductive IsPutInto (addition page : List Char) : List Char → Prop
  | beforeEnd {before after : List Char}
      (cut : IsLastCut bodyEnd.toList page before after) :
      IsPutInto addition page
        (before ++ addition ++ (bodyEnd.toList ++ after))
  | atEnd (noEnd : occurrences bodyEnd.toList page = 0) :
      IsPutInto addition page (page ++ addition)

theorem bodyEnd_ne_nil : bodyEnd.toList ≠ [] := by
  decide

theorem isPutInto_insertAtBodyEnd (addition page : List Char) :
    IsPutInto addition page (insertAtBodyEnd addition page) := by
  unfold insertAtBodyEnd
  cases found : cutLast? bodyEnd.toList page with
  | none =>
      exact .atEnd ((cutLast?_eq_none_iff bodyEnd_ne_nil).mp found)
  | some parts =>
      obtain ⟨before, after⟩ := parts
      simp only [List.append_assoc]
      rw [← List.append_assoc]
      exact .beforeEnd ((cutLast?_eq_some_iff bodyEnd_ne_nil).mp found)

variable {addition page : List Char}

namespace IsPutInto

variable {result : List Char}

/-- The page is cut in two, and the text is between the parts. -/
theorem exists_split (put : IsPutInto addition page result) :
    ∃ before after, page = before ++ after ∧
      result = before ++ addition ++ after := by
  cases put with
  | @beforeEnd before after cut =>
      refine ⟨before, bodyEnd.toList ++ after, ?_, rfl⟩
      rw [cut.whole, List.append_assoc]
  | atEnd noEnd =>
      refine ⟨page, [], (List.append_nil page).symm, ?_⟩
      rw [List.append_nil]

theorem ne_page (put : IsPutInto addition page result)
    (nonempty : addition ≠ []) : result ≠ page := by
  obtain ⟨before, after, rfl, rfl⟩ := put.exists_split
  intro same
  have length := congrArg List.length same
  have longer := List.length_pos_iff.mpr nonempty
  simp only [List.length_append] at length
  omega

end IsPutInto

/-! ## The script -/

theorem reloadMarker_infix : reloadMarker.toList <:+: reloadScript.toList := by
  unfold reloadScript
  simp only [String.toList_append, List.append_assoc]
  exact List.infix_append' ..

/-- The script without the line ends around it. -/
def scriptLines : List Char := reloadScript.toList.tail.dropLast

-- The literals are rewritten to lists of characters before anything is
-- evaluated, which otherwise decodes their bytes again and again.
theorem scriptLines_spec :
    reloadScript.toList = '\n' :: (scriptLines ++ ['\n']) ∧
      occurrences reloadMarker.toList scriptLines = 1 := by
  unfold scriptLines reloadScript
  simp only [String.toList_append]
  repeat rw [String.toList_ofList]
  decide +kernel

theorem reloadMarker_ne_nil : reloadMarker.toList ≠ [] := by
  decide

theorem reloadScript_ne_nil : reloadScript.toList ≠ [] := by
  rw [scriptLines_spec.1]
  exact List.cons_ne_nil _ _

/-- The marker has no line end. So it occurs in the script and on either side of
it, but nowhere across. -/
theorem occurrences_reloadMarker_append (before after : List Char) :
    occurrences reloadMarker.toList
        (before ++ reloadScript.toList ++ after) =
      occurrences reloadMarker.toList before + 1 +
        occurrences reloadMarker.toList after := by
  have absent : '\n' ∉ reloadMarker.toList := by
    decide
  have split : before ++ reloadScript.toList ++ after =
      before ++ '\n' :: (scriptLines ++ '\n' :: after) := by
    rw [scriptLines_spec.1, List.append_assoc, List.cons_append,
      List.append_assoc, List.singleton_append]
  rw [split, occurrences_append_cons absent reloadMarker_ne_nil,
    occurrences_append_cons absent reloadMarker_ne_nil, scriptLines_spec.2,
    Nat.add_assoc]

/-! ## Pages with and without the marker -/

theorem withReloadScript_of_marker {page : String}
    (marked : 0 < occurrences reloadMarker.toList page.toList) :
    withReloadScript page = page := by
  rw [withReloadScript, if_pos ((contains_iff_occurrences_pos ..).mpr marked)]

theorem toList_withReloadScript {page : String}
    (unmarked : occurrences reloadMarker.toList page.toList = 0) :
    (withReloadScript page).toList =
      insertAtBodyEnd reloadScript.toList page.toList := by
  have absent : ¬contains reloadMarker.toList page.toList = true := by
    rw [contains_iff_occurrences_pos, unmarked]
    exact Nat.lt_irrefl 0
  rw [withReloadScript, if_neg absent, String.toList_ofList]

theorem occurrences_reloadScript_le (page : List Char) :
    occurrences reloadScript.toList page ≤
      occurrences reloadMarker.toList page :=
  occurrences_le_of_infix reloadMarker_infix page

section

variable {page : String}

theorem isPutInto_withReloadScript
    (unmarked : occurrences reloadMarker.toList page.toList = 0) :
    IsPutInto reloadScript.toList page.toList
      (withReloadScript page).toList := by
  rw [toList_withReloadScript unmarked]
  exact isPutInto_insertAtBodyEnd ..

theorem toList_withReloadScript_of_cut {before after : List Char}
    (unmarked : occurrences reloadMarker.toList page.toList = 0)
    (cut : IsLastCut bodyEnd.toList page.toList before after) :
    (withReloadScript page).toList =
      before ++ reloadScript.toList ++ bodyEnd.toList ++ after := by
  have found := (cutLast?_eq_some_iff bodyEnd_ne_nil).mpr cut
  rw [toList_withReloadScript unmarked, insertAtBodyEnd, found]

/-- The script is put into a page once. -/
theorem occurrences_withReloadScript
    (unmarked : occurrences reloadMarker.toList page.toList = 0) :
    occurrences reloadMarker.toList (withReloadScript page).toList = 1 ∧
      occurrences reloadScript.toList (withReloadScript page).toList = 1 := by
  obtain ⟨before, after, split, result⟩ :=
    (isPutInto_withReloadScript unmarked).exists_split
  rw [split] at unmarked
  have first := occurrences_le_append_right reloadMarker.toList before after
  have second := occurrences_le_append_left reloadMarker.toList before after
  have once : occurrences reloadMarker.toList
      (withReloadScript page).toList = 1 := by
    rw [result, occurrences_reloadMarker_append]
    omega
  refine ⟨once, Nat.le_antisymm ?_ ?_⟩
  · exact (occurrences_reloadScript_le _).trans once.le
  · rw [result, List.append_assoc]
    exact occurrences_pos_of_infix (List.infix_append' ..)

/-- Whatever page it is, the script is not put into it twice. -/
theorem withReloadScript_withReloadScript (page : String) :
    withReloadScript (withReloadScript page) = withReloadScript page := by
  rcases Nat.eq_zero_or_pos (occurrences reloadMarker.toList page.toList) with
    unmarked | marked
  · apply withReloadScript_of_marker
    rw [(occurrences_withReloadScript unmarked).1]
    exact Nat.one_pos
  · rw [withReloadScript_of_marker marked, withReloadScript_of_marker marked]

end

end KeymapViewer.Preview
