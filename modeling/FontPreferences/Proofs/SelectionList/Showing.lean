import FontPreferences.SelectionList

/-
What it means for a list to show a value.

* `Shows l value`: a choice with the value is selected if the list has one, and nothing otherwise;
* `shows_selectValue`, `shows_of_getElem?`: selecting by value shows the value, and a list that
  stands at a choice shows the value of that choice;
* `shows_populate_iff`: a list that is filled with another value to select shows `value` only if it
  offers neither.
-/
namespace FontPreferences
namespace SelectionList

/-- A choice with the value is selected if there is one, and nothing otherwise. -/
structure Shows (l : SelectionList) (value : String) : Prop where
  offered : (∃ choice ∈ l.choices, choice.value = value) → l.selectedValue? = some value
  absent : (∀ choice ∈ l.choices, choice.value ≠ value) → l.selected = none

variable {choices : List Choice} {value : String}

theorem indexOf?_eq_none :
    indexOf? choices value = none ↔ ∀ choice ∈ choices, choice.value ≠ value := by
  rw [indexOf?, List.findIdx?_eq_none_iff]
  simp

/-- The choice at the index of a value has the value. -/
theorem value_of_indexOf? {i : Nat} (h : indexOf? choices value = some i) :
    choices[i]?.map (·.value) = some value := by
  obtain ⟨hi, hvalue, -⟩ := List.findIdx?_eq_some_iff_getElem.1 h
  rw [List.getElem?_eq_getElem hi, Option.map_some, eq_of_beq hvalue]

theorem selectedValue?_eq (l : SelectionList) :
    l.selectedValue? = l.selected.bind fun i => l.choices[i]?.map (·.value) := by
  rw [selectedValue?, selectedChoice?]
  cases l.selected <;> rfl

/-- A list whose selection is the index of a value shows the value. -/
theorem shows_of_indexOf? {l : SelectionList} (h : l.selected = indexOf? l.choices value) :
    l.Shows value := by
  refine ⟨fun ⟨choice, hmem, hvalue⟩ => ?_, fun habsent => ?_⟩
  · cases hindex : indexOf? l.choices value with
    | none => exact absurd hvalue (indexOf?_eq_none.1 hindex choice hmem)
    | some i =>
      rw [selectedValue?_eq, h, hindex]
      exact value_of_indexOf? hindex
  · rw [h, indexOf?_eq_none]
    exact habsent

theorem shows_selectValue (l : SelectionList) (value : String) :
    (l.selectValue value).Shows value :=
  shows_of_indexOf? rfl

/-- A list that stands at an index shows the value of the choice there. -/
theorem shows_of_getElem? {l : SelectionList} {i : Nat} {choice : Choice} (h : l.selected = some i)
    (hchoice : l.choices[i]? = some choice) : l.Shows choice.value := by
  refine ⟨fun _ => ?_, fun habsent => ?_⟩
  · rw [selectedValue?_eq, h]
    exact congrArg (Option.map (·.value)) hchoice
  · exact absurd rfl (habsent choice (List.mem_of_getElem? hchoice))

theorem shows_populate_iff (l : SelectionList) (choices : List Choice) (wanted : Option String)
    (value : String) : (l.populate choices wanted).Shows value ↔ wanted = some value ∨
      ∀ choice ∈ choices, some choice.value ≠ wanted ∧ choice.value ≠ value := by
  have hselected : (l.populate choices wanted).selected = wanted.bind (indexOf? choices) := rfl
  by_cases hwanted : wanted = some value
  · subst hwanted
    exact ⟨fun _ => .inl rfl, fun _ => shows_of_indexOf? hselected⟩
  · rw [or_iff_right hwanted]
    constructor
    · intro hshows
      have habsent : ∀ choice ∈ choices, choice.value ≠ value := by
        intro choice hmem hvalue
        have hshown := hshows.offered ⟨choice, hmem, hvalue⟩
        -- what is selected has the value that was wanted
        rw [selectedValue?_eq, hselected] at hshown
        cases wanted with
        | none => exact absurd hshown (by simp)
        | some w =>
          cases hindex : indexOf? choices w with
          | none => simp [hindex] at hshown
          | some i =>
            rw [Option.bind_some, hindex, Option.bind_some] at hshown
            exact hwanted ((value_of_indexOf? hindex).symm.trans hshown)
      have hnone := hshows.absent habsent
      rw [hselected] at hnone
      intro choice hmem
      refine ⟨fun heq => ?_, habsent choice hmem⟩
      rw [← heq, Option.bind_some] at hnone
      exact indexOf?_eq_none.1 hnone choice hmem rfl
    · intro hneither
      refine ⟨fun ⟨choice, hmem, hvalue⟩ => absurd hvalue (hneither choice hmem).2, fun _ => ?_⟩
      rw [hselected]
      cases wanted with
      | none => rfl
      | some w =>
        exact indexOf?_eq_none.2 fun choice hmem heq => (hneither choice hmem).1 (congrArg some heq)

end SelectionList
end FontPreferences
