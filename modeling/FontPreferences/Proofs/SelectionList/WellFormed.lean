import FontPreferences.Proofs.Page.Operations
import FontPreferences.Proofs.SelectionList.Showing

/-
The lists that a page can have.

* `WellFormed l`: the selection is one of the choices, a list that policy locks is disabled, and a
  list that is disabled for another reason has nothing selected, since it still waits for its
  choices;
* `wellFormed_buildList`, `WellFormed.populate`, `WellFormed.select`, `WellFormed.syncList`: a list
  is built that way, and every operation of the page keeps it so;
* `Controls.WellFormed c`: every list of `c` is well-formed, with a lemma for each way in which the
  controls of a page change;
* `syncList_congr`: what two well-formed lists become when they are brought in line with the same
  value does not depend on what is selected in them before.
-/
namespace FontPreferences
namespace SelectionList

variable {l : SelectionList}

/-- A list that a page can have. -/
structure WellFormed (l : SelectionList) : Prop where
  inRange : ∀ i, l.selected = some i → i < l.choices.length
  locked : l.managed = true → l.disabled = true
  /-- A list that waits for its choices has nothing selected. -/
  waiting : l.disabled = true → l.managed = false → l.selected = none

/-- What is selected in a well-formed list is one of its choices. -/
theorem WellFormed.exists_choice (h : l.WellFormed) {i : Nat} (hi : l.selected = some i) :
    ∃ choice, l.choices[i]? = some choice ∧ l.selectedChoice? = some choice := by
  have hchoice := List.getElem?_eq_getElem (h.inRange i hi)
  refine ⟨_, hchoice, ?_⟩
  rw [selectedChoice?, hi]
  exact hchoice

/-! ### Operations -/

theorem WellFormed.consistent (h : l.WellFormed) : l.Consistent :=
  ⟨h.inRange, h.locked⟩

theorem WellFormed.populate (h : l.WellFormed) (choices : List Choice) (wanted : Option String) :
    (l.populate choices wanted).WellFormed := by
  have hfilled := h.consistent.populate choices wanted
  refine ⟨hfilled.inRange, hfilled.locked, fun hdisabled hfree => ?_⟩
  rw [h.consistent.disabled_populate] at hdisabled
  exact absurd (hdisabled.symm.trans hfree) (by simp)

theorem WellFormed.select (h : l.WellFormed) (index : Nat) : (l.select index).1.WellFormed := by
  have hpicked := h.consistent.select index
  refine ⟨hpicked.inRange, hpicked.locked, fun hdisabled hfree => ?_⟩
  rcases select_cases l index with hrefused | ⟨choice, henabled, -, htaken⟩
  · rw [hrefused] at hdisabled hfree ⊢
    exact h.waiting hdisabled hfree
  · rw [htaken] at hdisabled
    exact absurd (henabled.symm.trans hdisabled) (by simp)

/-- Selecting by value keeps a list well-formed, unless it still waits for choices that it has
already. -/
theorem WellFormed.selectValue (h : l.WellFormed) (value : String)
    (hready : l.disabled = true → l.managed = false → l.choices = []) :
    (l.selectValue value).WellFormed := by
  have hselected := h.consistent.selectValue value
  refine ⟨hselected.inRange, hselected.locked, fun hdisabled hfree => ?_⟩
  show indexOf? l.choices value = none
  rw [hready hdisabled hfree]
  rfl

theorem WellFormed.syncList (h : l.WellFormed) (store : Preference.Store) (id : ListId) :
    (Page.syncList store id l).WellFormed := by
  rw [Page.syncList]
  split
  · exact h
  · next hready =>
    cases store.getText? id.preferenceKey with
    | none => exact h
    | some value =>
      refine h.selectValue value fun hdisabled hfree => ?_
      simpa [hdisabled, hfree] using hready

/-- A list is built disabled, with the placeholder in it and nothing selected. -/
theorem wellFormed_buildList (p : Page) (store : Preference.Store) (id : ListId) :
    (p.buildList store id).WellFormed :=
  ⟨fun _ hi => absurd hi (by simp [Page.buildList, setManaged, append, new]),
    fun _ => Page.buildList_disabled p store id, fun _ _ => rfl⟩

/-! ### Forgetting the selection -/

/-- Lists that agree but for what is selected become one list when they are brought in line with
the same value. -/
theorem syncList_congr {l l' : SelectionList} (hsame : l.Reselected l') (h : l.WellFormed)
    (h' : l'.WellFormed) {s s' : Preference.Store} {id : ListId} {value : String}
    (hs : s.getText? id.preferenceKey = some value)
    (hs' : s'.getText? id.preferenceKey = some value) :
    Page.syncList s' id l' = Page.syncList s id l := by
  have hchoices := hsame.choices
  have hdisabled := hsame.disabled
  have hmanaged := hsame.managed
  rw [Page.syncList, Page.syncList, hs, hs', hchoices, hdisabled, hmanaged]
  obtain ⟨choices, selected, disabled, managed⟩ := l
  obtain ⟨choices', selected', disabled', managed'⟩ := l'
  cases hchoices
  cases hdisabled
  cases hmanaged
  split
  · next hwaits =>
    -- both still show the placeholder, with nothing selected
    simp only [Bool.and_eq_true, Bool.not_eq_true'] at hwaits
    obtain ⟨⟨-, hd⟩, hfree⟩ := hwaits
    have hnone : selected = none := h.waiting hd hfree
    have hnone' : selected' = none := h'.waiting hd hfree
    rw [hnone, hnone']
  · rfl

end SelectionList

namespace Controls

variable {c : Controls}

/-- Every list is one that a page can have. -/
def WellFormed (c : Controls) : Prop :=
  ∀ id, (c.list id).WellFormed

theorem wellFormed_startControls (p : Page) (store : Preference.Store) :
    (p.startControls store).WellFormed := by
  intro id
  rw [Page.list_startControls]
  exact SelectionList.wellFormed_buildList p store id

theorem WellFormed.synced (h : c.WellFormed) (store : Preference.Store) :
    (c.synced store).WellFormed := by
  intro id
  rw [list_synced]
  exact (h id).syncList store id

theorem WellFormed.filled (h : c.WellFormed) (fonts encodings : List Choice)
    (selected : List String) : (c.filled fonts encodings selected).WellFormed := by
  intro id
  rw [list_filled]
  exact (h id).populate _ _

theorem WellFormed.putSlider (h : c.WellFormed) (id : SliderId) (s : Slider) :
    (c.putSlider id s).WellFormed := by
  intro id'
  rw [list_putSlider]
  exact h id'

theorem WellFormed.putList (h : c.WellFormed) (id : ListId) {l : SelectionList}
    (hl : l.WellFormed) : (c.putList id l).WellFormed := by
  intro id'
  rw [list_putList]
  split
  · exact hl
  · exact h id'

end Controls
end FontPreferences
