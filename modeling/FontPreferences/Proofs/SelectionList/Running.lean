import FontPreferences.Proofs.SelectionList.Showing

/-
What a list keeps through every run of operations.

* `Consistent l`: what is selected is one of the choices, and a list that policy locks is disabled;
  `Consistent.handle`, `Consistent.run`: every operation keeps this, and so does a run of them;
* `disabled_run`: a list stays disabled until it is populated;
* `FirstAt choices value i`, `SelectsFirst l value`: the first choice with a value, and a list whose
  selection is that;
* `select_cases`, `Picked l i`: a pick is taken exactly from an enabled list and within its range;
* `run_consistent`: all of this of a new list, after any run.
-/
namespace FontPreferences

/-- Something that is done to a list. -/
inductive ListEvent where
  | append (choice : Choice)
  | populate (choices : List Choice) (wanted : Option String)
  | select (index : Nat)
  | selectValue (value : String)
  | setManaged (managed : Bool)

/-- Whether the event gives the list its choices. -/
def ListEvent.populates : ListEvent → Bool
  | .populate _ _ => true
  | _ => false

namespace SelectionList

variable {l : SelectionList}

/-- The list after an event. -/
def handle (l : SelectionList) : ListEvent → SelectionList
  | .append choice => l.append choice
  | .populate choices wanted => l.populate choices wanted
  | .select index => (l.select index).1
  | .selectValue value => l.selectValue value
  | .setManaged managed => l.setManaged managed

/-- The list after a run of events. -/
def run (l : SelectionList) (events : List ListEvent) : SelectionList :=
  events.foldl handle l

/-! ### The first choice with a value -/

/-- The choice at the index has the value, and none before it has. -/
structure FirstAt (choices : List Choice) (value : String) (i : Nat) : Prop where
  here : choices[i]?.map (·.value) = some value
  before : ∀ j < i, choices[j]?.map (·.value) ≠ some value

theorem indexOf?_eq_some_iff {choices : List Choice} {value : String} {i : Nat} :
    indexOf? choices value = some i ↔ FirstAt choices value i := by
  rw [indexOf?, List.findIdx?_eq_some_iff_getElem]
  constructor
  · rintro ⟨hi, hvalue, hbefore⟩
    refine ⟨?_, fun j hj heq => ?_⟩
    · rw [List.getElem?_eq_getElem hi, Option.map_some, eq_of_beq hvalue]
    · rw [List.getElem?_eq_getElem (Nat.lt_trans hj hi), Option.map_some, Option.some_inj] at heq
      exact hbefore j hj (beq_iff_eq.2 heq)
  · rintro ⟨hhere, hbefore⟩
    obtain ⟨choice, hchoice, rfl⟩ := Option.map_eq_some_iff.1 hhere
    obtain ⟨hi, rfl⟩ := List.getElem?_eq_some_iff.1 hchoice
    refine ⟨hi, beq_self_eq_true _, fun j hj heq => hbefore j hj ?_⟩
    rw [List.getElem?_eq_getElem (Nat.lt_trans hj hi), Option.map_some, eq_of_beq heq]

theorem FirstAt.lt_length {choices : List Choice} {value : String} {i : Nat}
    (h : FirstAt choices value i) : i < choices.length := by
  obtain ⟨choice, hchoice, -⟩ := Option.map_eq_some_iff.1 h.here
  exact (List.getElem?_eq_some_iff.1 hchoice).1

/-- The selection is the first choice with the value, or nothing if no choice has it. -/
structure SelectsFirst (l : SelectionList) (value : String) : Prop where
  first : ∀ i, l.selected = some i ↔ FirstAt l.choices value i
  missing : l.selected = none ↔ ∀ choice ∈ l.choices, choice.value ≠ value

theorem selectsFirst_of_indexOf? {value : String} (h : l.selected = indexOf? l.choices value) :
    l.SelectsFirst value :=
  ⟨fun i => by rw [h, indexOf?_eq_some_iff], by rw [h, indexOf?_eq_none]⟩

/-! ### Picks -/

/-- A pick is refused, or it selects a choice of an enabled list. -/
theorem select_cases (l : SelectionList) (index : Nat) :
    l.select index = (l, none) ∨ ∃ choice, l.disabled = false ∧ l.choices[index]? = some choice ∧
      l.select index = ({ l with selected := some index }, some choice) := by
  rw [select]
  cases hdisabled : l.disabled with
  | true => exact .inl rfl
  | false =>
    cases hchoice : l.choices[index]? with
    | none => exact .inl rfl
    | some choice => exact .inr ⟨choice, rfl, rfl, rfl⟩

theorem select_of_disabled (h : l.disabled = true) (index : Nat) : l.select index = (l, none) := by
  rw [select, if_pos h]

theorem select_of_lt (h : l.disabled = false) {index : Nat} (hlt : index < l.choices.length) :
    l.select index = ({ l with selected := some index }, some l.choices[index]) := by
  rw [select, h, List.getElem?_eq_getElem hlt]
  rfl

/-- How a list answers to a pick: it hands out the choice at the index and selects it, or it hands
out nothing and stays as it is. -/
structure Picked (l : SelectionList) (index : Nat) : Prop where
  isSome_iff : (l.select index).2.isSome ↔ l.disabled = false ∧ index < l.choices.length
  taken : ∀ choice, (l.select index).2 = some choice → l.choices[index]? = some choice ∧
    (l.select index).1 = { l with selected := some index }
  refused : (l.select index).2 = none → (l.select index).1 = l

theorem picked (l : SelectionList) (index : Nat) : l.Picked index := by
  rcases select_cases l index with hrefused | ⟨choice, henabled, hchoice, htaken⟩
  · refine ⟨?_, fun choice h => ?_, fun _ => by rw [hrefused]⟩
    · refine iff_of_false (by rw [hrefused]; simp) fun ⟨henabled, hlt⟩ => ?_
      rw [select_of_lt henabled hlt] at hrefused
      exact absurd (congrArg Prod.snd hrefused) (by simp)
    · rw [hrefused] at h
      exact absurd h (by simp)
  · have hlt := (List.getElem?_eq_some_iff.1 hchoice).1
    refine ⟨iff_of_true (by rw [htaken]; rfl) ⟨henabled, hlt⟩, fun picked h => ?_, fun h => ?_⟩
    · rw [htaken, Option.some_inj] at h
      rw [htaken, ← h]
      exact ⟨hchoice, rfl⟩
    · rw [htaken] at h
      exact absurd h (by simp)

/-! ### Consistent lists -/

/-- What is selected is one of the choices, and a list that policy locks is disabled. -/
structure Consistent (l : SelectionList) : Prop where
  inRange : ∀ i, l.selected = some i → i < l.choices.length
  locked : l.managed = true → l.disabled = true

theorem consistent_new : new.Consistent :=
  ⟨fun _ h => absurd h (by simp [new]), fun _ => rfl⟩

theorem Consistent.append (h : l.Consistent) (choice : Choice) : (l.append choice).Consistent := by
  refine ⟨fun i hi => ?_, h.locked⟩
  have hlt := h.inRange i hi
  show i < (l.choices ++ [choice]).length
  rw [List.length_append]
  omega

/-- A list that is filled is disabled by policy alone. -/
theorem Consistent.disabled_populate (h : l.Consistent) (choices : List Choice)
    (wanted : Option String) : (l.populate choices wanted).disabled = l.managed := by
  show (l.managed && l.disabled) = l.managed
  cases hmanaged : l.managed with
  | false => rfl
  | true => rw [h.locked hmanaged, Bool.and_self]

theorem Consistent.populate (h : l.Consistent) (choices : List Choice) (wanted : Option String) :
    (l.populate choices wanted).Consistent := by
  refine ⟨fun i hi => ?_, fun hmanaged => ?_⟩
  · obtain ⟨value, -, hindex⟩ := Option.bind_eq_some_iff.1 hi
    exact (indexOf?_eq_some_iff.1 hindex).lt_length
  · rw [h.disabled_populate]
    exact hmanaged

theorem Consistent.select (h : l.Consistent) (index : Nat) : (l.select index).1.Consistent := by
  rcases select_cases l index with hrefused | ⟨choice, -, hchoice, htaken⟩
  · rw [hrefused]
    exact h
  · rw [htaken]
    refine ⟨fun i hi => ?_, h.locked⟩
    rw [← Option.some_inj.1 hi]
    exact (List.getElem?_eq_some_iff.1 hchoice).1

theorem Consistent.selectValue (h : l.Consistent) (value : String) :
    (l.selectValue value).Consistent :=
  ⟨fun _ hi => (indexOf?_eq_some_iff.1 hi).lt_length, h.locked⟩

theorem Consistent.setManaged (h : l.Consistent) (managed : Bool) :
    (l.setManaged managed).Consistent := by
  refine ⟨h.inRange, fun hmanaged => ?_⟩
  show (managed || l.disabled) = true
  rw [show managed = true from hmanaged, Bool.true_or]

/-- Every event keeps a list consistent. -/
theorem Consistent.handle (h : l.Consistent) (e : ListEvent) : (l.handle e).Consistent := by
  cases e with
  | append choice => exact h.append choice
  | populate choices wanted => exact h.populate choices wanted
  | select index => exact h.select index
  | selectValue value => exact h.selectValue value
  | setManaged managed => exact h.setManaged managed

theorem Consistent.run (h : l.Consistent) (events : List ListEvent) : (l.run events).Consistent :=
  List.foldlRecOn events _ h fun _ ht e _ => ht.handle e

/-! ### Before the first choices -/

/-- A disabled list is enabled by nothing but its choices. -/
theorem disabled_handle (h : l.disabled = true) {e : ListEvent} (he : e.populates = false) :
    (l.handle e).disabled = true := by
  cases e with
  | append choice => exact h
  | populate choices wanted => exact absurd he (by simp [ListEvent.populates])
  | select index =>
    show (l.select index).1.disabled = true
    rw [select_of_disabled h]
    exact h
  | selectValue value => exact h
  | setManaged managed =>
    show (managed || l.disabled) = true
    rw [h, Bool.or_true]

theorem disabled_run (h : l.disabled = true) {events : List ListEvent}
    (hevents : ∀ e ∈ events, e.populates = false) : (l.run events).disabled = true :=
  List.foldlRecOn (motive := fun t : SelectionList => t.disabled = true) events _ h
    fun _ ht e he => disabled_handle ht (hevents e he)

/-- **A list keeps its fields in agreement.**  After any run of operations on a new list:

* what is selected is one of the choices, and a list that policy locks is disabled;
* a list that was never populated is disabled, and refuses every pick;
* populating the list gives it the choices and selects the first one with the wanted value, or
  nothing if none has it, and leaves it disabled only if policy locks it; selecting by value does the
  same among the choices that the list has;
* a pick is taken exactly if the list is enabled and has a choice there, and otherwise the list stays
  as it is. -/
theorem run_consistent (events : List ListEvent) :
    let l := new.run events
    ((∀ i, l.selected = some i → i < l.choices.length) ∧
        (l.managed = true → l.disabled = true)) ∧
      ((∀ e ∈ events, e.populates = false) →
        l.disabled = true ∧ ∀ index, l.select index = (l, none)) ∧
      (∀ choices wanted, (l.populate choices wanted).choices = choices ∧
        (l.populate choices wanted).disabled = l.managed ∧
        (wanted = none → (l.populate choices wanted).selected = none) ∧
        ∀ value, wanted = some value → (l.populate choices wanted).SelectsFirst value) ∧
      (∀ value, (l.selectValue value).choices = l.choices ∧
        (l.selectValue value).SelectsFirst value) ∧
      ∀ index, l.Picked index := by
  intro l
  have h : l.Consistent := consistent_new.run events
  refine ⟨⟨h.inRange, h.locked⟩, fun hevents => ?_, fun choices wanted => ?_, fun value => ?_,
    l.picked⟩
  · have hdisabled : l.disabled = true := disabled_run rfl hevents
    exact ⟨hdisabled, select_of_disabled hdisabled⟩
  · refine ⟨rfl, h.disabled_populate choices wanted, fun hwanted => ?_, fun value hwanted => ?_⟩
    · rw [hwanted]
      rfl
    · rw [hwanted]
      exact selectsFirst_of_indexOf? rfl
  · exact ⟨rfl, selectsFirst_of_indexOf? rfl⟩

/-- A list that was never populated may have a selection, but is disabled, also after policy has let
go of it. -/
theorem run_consistent_unpopulated :
    let events : List ListEvent := [.append ⟨"Arial", "Arial"⟩, .selectValue "Arial",
      .setManaged true, .setManaged false]
    (∀ e ∈ events, e.populates = false) ∧ (new.run events).selected = some 0 ∧
      (new.run events).managed = false ∧ (new.run events).disabled = true ∧
      (new.run events).select 0 = (new.run events, none) := by
  intro events
  have hevents : ∀ e ∈ events, e.populates = false := by decide
  obtain ⟨hdisabled, hrefused⟩ := (run_consistent events).2.1 hevents
  exact ⟨hevents, by decide, rfl, hdisabled, hrefused 0⟩

end SelectionList
end FontPreferences
