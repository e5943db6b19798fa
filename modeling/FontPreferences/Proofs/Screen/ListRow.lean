import FontPreferences.Proofs.App.Lists
import FontPreferences.Screen.Panels

/-
What the rows of the lists say once the font lists have been applied.

* `selectionLabel l`: the label of what is selected in a list, or that nothing is;
* `Marks l mark`: what stands behind the label, which is a place for an enabled list with a selection
  only;
* `Misleads l`: policy locks the list, nothing is selected in it, and its first choice has a label
  that says otherwise;
* `shownLabel_eq_selectionLabel_iff`: a row says what is selected unless its list misleads, because
  the first choice stands in for the placeholder in every list that is disabled;
* `listRow_shows_selection_iff`: so it is in every state of a run.
-/
namespace FontPreferences
namespace Screen

/-- The label of the selected choice, or that there is none. -/
def selectionLabel (l : SelectionList) : String :=
  (l.selectedChoice?.map (·.label)).getD "(none)"

/-- What may stand behind the label of a list. -/
inductive Marks (l : SelectionList) : String → Prop where
  | locked (managed : l.managed = true) (disabled : l.disabled = true) : Marks l " [managed]"
  | unselected (enabled : l.disabled = false) (none : l.selected = none) : Marks l ""
  | placed {i : Nat} {choice : Choice} (enabled : l.disabled = false)
    (selected : l.selected = some i) (isChoice : l.choices[i]? = some choice) :
    Marks l ("  " ++ toString (i + 1) ++ "/" ++ toString l.choices.length)

/-- Nothing is selected in a list that policy locks, and its first choice does not say so. -/
structure Misleads (l : SelectionList) : Prop where
  managed : l.managed = true
  unselected : l.selected = none
  first : ∃ choice, l.choices.head? = some choice ∧ choice.label ≠ "(none)"

variable {l : SelectionList}

/-! ### The label -/

theorem selectionLabel_of_unselected (h : l.selected = none) : selectionLabel l = "(none)" := by
  rw [selectionLabel, SelectionList.selectedChoice?, h]
  rfl

/-- A selected choice is shown, and so is that there is none in a list that can be used. -/
theorem shownLabel_eq_selectionLabel
    (h : (∃ choice, l.selectedChoice? = some choice) ∨ l.disabled = false) :
    shownLabel l = selectionLabel l := by
  rw [shownLabel, selectionLabel]
  rcases h with ⟨choice, hchoice⟩ | henabled
  · rw [hchoice]
    rfl
  · simp [henabled]

/-- The first choice stands in for the selection that a disabled list does not have. -/
theorem shownLabel_of_unselected (hdisabled : l.disabled = true) (h : l.selected = none) :
    shownLabel l = (l.choices.head?.map (·.label)).getD "(none)" := by
  rw [shownLabel, SelectionList.selectedChoice?, h, hdisabled]
  rfl

/-- **Which rows say what is selected.** -/
theorem shownLabel_eq_selectionLabel_iff (h : l.WellFormed)
    (henabled : l.managed = false → l.disabled = false) :
    shownLabel l = selectionLabel l ↔ ¬Misleads l := by
  constructor
  · rintro hlabel ⟨hmanaged, hnone, choice, hfirst, hother⟩
    rw [shownLabel_of_unselected (h.locked hmanaged) hnone, selectionLabel_of_unselected hnone,
      hfirst] at hlabel
    exact hother hlabel
  · intro hhonest
    cases hmanaged : l.managed with
    | false => exact shownLabel_eq_selectionLabel (.inr (henabled hmanaged))
    | true =>
      cases hselected : l.selected with
      | some i =>
        obtain ⟨choice, -, hchoice⟩ := h.exists_choice hselected
        exact shownLabel_eq_selectionLabel (.inl ⟨choice, hchoice⟩)
      | none =>
        rw [shownLabel_of_unselected (h.locked hmanaged) hselected,
          selectionLabel_of_unselected hselected]
        cases hfirst : l.choices.head? with
        | none => rfl
        | some choice =>
          by_contra hother
          exact hhonest ⟨hmanaged, hselected, choice, hfirst, hother⟩

/-! ### The row -/

theorem text_listLine (id : ListId) (l : SelectionList) (focused : Bool) :
    Line.text (listLine id (some l) focused) = Text.padLeft 18 id.label ++ ": "
      ++ ("< " ++ shownLabel l ++ " >")
      ++ Line.text (if l.managed then [managedSpan] else if l.disabled then [] else placeSpans l) := by
  simp only [listLine, labelSpan, Line.text, List.map_cons, String.join_cons, String.append_assoc]

/-- The lines of a control are on the panel. -/
theorem mem_fontsLines {a : App} {control : Control} {line : Line}
    (h : line ∈ controlLines a control) : line ∈ fontsLines a := by
  have hcontrol : control ∈ Control.all := by cases control <;> simp [Control.all]
  rw [fontsLines]
  exact List.mem_cons_of_mem _ (List.mem_cons_of_mem _ (List.mem_flatMap.2 ⟨control, hcontrol, h⟩))

/-- What stands behind the label of a list that nothing but policy disables. -/
theorem marks_of_wellFormed (h : l.WellFormed) (henabled : l.managed = false → l.disabled = false) :
    Marks l (Line.text
      (if l.managed then [managedSpan] else if l.disabled then [] else placeSpans l)) := by
  cases hmanaged : l.managed with
  | true => exact .locked hmanaged (h.locked hmanaged)
  | false =>
    have hready := henabled hmanaged
    rw [hready, placeSpans]
    cases hselected : l.selected with
    | none => exact .unselected hready hselected
    | some i =>
      obtain ⟨choice, hchoice, -⟩ := h.exists_choice hselected
      have hplaced := Marks.placed hready hselected hchoice
      simpa [Line.text, String.join] using hplaced

/-- **A row says what is selected, except where it misleads.**  In every state of a run in which font
lists have been applied, the label in the row of a list is that of the selected choice, or says that
there is none, exactly if the row does not mislead; and what stands behind it is the mark of policy,
nothing, or the place of the selection in a list that is enabled. -/
theorem listRow_shows_selection_iff (store : Preference.Store) (strings : LocalizedStrings)
    (events : List Event) :
    let a := (App.new store strings).run events
    a.fontsLoaded.isSome = true → ∀ (control : Control) (id : ListId), control.kind = .list id →
      ∃ l row mark, a.page.list? id = some l ∧ controlLines a control = [row] ∧
        row ∈ fontsLines a ∧
        Line.text row = Text.padLeft 18 id.label ++ ": " ++ ("< " ++ shownLabel l ++ " >") ++ mark ∧
        (shownLabel l = selectionLabel l ↔ ¬Misleads l) ∧ Marks l mark := by
  intro a hloaded control id hkind
  obtain ⟨c, hsound, hlisted⟩ := App.listed_run store strings events
  have hlist : a.page.list? id = some (c.list id) := Page.list?_eq hsound.controls id
  have hwellFormed := hlisted.wellFormed id
  have henabled := hlisted.enabled hloaded id
  have hrow : controlLines a control = [listLine id (some (c.list id)) (control = a.focus)] := by
    rw [controlLines, hkind]
    dsimp only
    rw [hlist]
  refine ⟨c.list id, _, _, hlist, hrow, ?_, text_listLine id _ _,
    shownLabel_eq_selectionLabel_iff hwellFormed henabled,
    marks_of_wellFormed hwellFormed henabled⟩
  exact mem_fontsLines (hrow ▸ List.mem_singleton_self _)

open Preference in
/-- The row of a family that policy forces and the font lists offer. -/
theorem listRow_of_locked_georgia :
    let a := (App.new (Store.withFontDefaults.edited [.lock serifFamilyKey (.text "Georgia")])
      default).run [.receive (.fonts [⟨"Arial", "Arial"⟩, ⟨"Georgia", "Georgia"⟩] []
        ["Georgia", "Courier New", "ISO-8859-1"])]
    a.fontsLoaded.isSome = true ∧ ∃ l row mark, a.page.list? .serifFamily = some l ∧
      controlLines a .serifFamily = [row] ∧ row ∈ fontsLines a ∧
      Line.text row = "        Serif font: " ++ ("< " ++ shownLabel l ++ " >") ++ mark ∧
      (shownLabel l = selectionLabel l ↔ ¬Misleads l) ∧ Marks l mark := by
  intro a
  have hloaded : a.fontsLoaded.isSome = true := by decide +kernel
  obtain ⟨l, row, mark, hlist, hrow, hpanel, htext, hlabel, hmark⟩ :=
    listRow_shows_selection_iff _ _ _ hloaded .serifFamily .serifFamily rfl
  have hname : Text.padLeft 18 ListId.serifFamily.label ++ ": " = "        Serif font: " := by
    decide +kernel
  rw [hname] at htext
  exact ⟨hloaded, l, row, mark, hlist, hrow, hpanel, htext, hlabel, hmark⟩

open Preference in
/-- A family that policy forces and the font lists do not offer leaves nothing selected, and the row
shows the first family of the lists. -/
theorem listRow_misleads :
    let a := (App.new (Store.withFontDefaults.edited [.lock serifFamilyKey (.text "Verdana")])
      default).run [.receive (.fonts [⟨"Arial", "Arial"⟩, ⟨"Georgia", "Georgia"⟩]
        [⟨"UTF-8", "UTF-8"⟩] ["Verdana", "Courier New", "ISO-8859-1"])]
    a.fontsLoaded.isSome = true ∧
      (a.page.list? .serifFamily).map (fun l => (l.selected, selectionLabel l))
        = some (none, "(none)") ∧
      (controlLines a .serifFamily).map Line.text
        = ["        Serif font: < Arial > [managed]"] := by
  decide +kernel

end Screen
end FontPreferences
