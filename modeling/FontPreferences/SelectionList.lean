/-
Selection lists: choices, at most one of them selected, and two locks.

* a list starts disabled, and only `populate` enables it;
* a managed list is disabled however often it is populated;
* `populate` and `selectValue` select the first choice with a value, or nothing on a miss.
-/
namespace FontPreferences

/-- One entry of a list: the value it stands for and the label shown for it. -/
structure Choice where
  value : String
  label : String
deriving DecidableEq, Repr

/-- Choices with the current selection. -/
structure SelectionList where
  choices : List Choice
  /-- The index of the selected choice. -/
  selected : Option Nat
  disabled : Bool
  /-- Whether policy locks the list. -/
  managed : Bool
deriving DecidableEq, Repr

namespace SelectionList

/-- The list before anything is known about it. -/
def new : SelectionList :=
  ⟨[], none, true, false⟩

instance : Inhabited SelectionList := ⟨new⟩

/-- The selected choice. -/
def selectedChoice? (l : SelectionList) : Option Choice :=
  l.selected.bind fun i => l.choices[i]?

/-- The value of the selected choice. -/
def selectedValue? (l : SelectionList) : Option String :=
  l.selectedChoice?.map (·.value)

/-- The index of the first choice with a value. -/
def indexOf? (choices : List Choice) (value : String) : Option Nat :=
  choices.findIdx? (·.value == value)

/-- Locks the list by policy, which disables it, or unlocks it. -/
def setManaged (l : SelectionList) (managed : Bool) : SelectionList :=
  { l with managed := managed, disabled := managed || l.disabled }

/-- Adds a choice at the end. -/
def append (l : SelectionList) (choice : Choice) : SelectionList :=
  { l with choices := l.choices ++ [choice] }

/-- Replaces the choices and selects a wanted value; enables the list unless it is managed. -/
def populate (l : SelectionList) (choices : List Choice) (wanted : Option String) :
    SelectionList where
  choices := choices
  selected := wanted.bind (indexOf? choices)
  disabled := l.managed && l.disabled
  managed := l.managed

/-- A pick by the user, with the picked choice.  A disabled list and an index out of range refuse
it. -/
def select (l : SelectionList) (index : Nat) : SelectionList × Option Choice :=
  if l.disabled then (l, none)
  else
    match l.choices[index]? with
    | none => (l, none)
    | some choice => ({ l with selected := some index }, some choice)

/-- Selects by value, or nothing when no choice has it. -/
def selectValue (l : SelectionList) (value : String) : SelectionList :=
  { l with selected := indexOf? l.choices value }

end SelectionList
end FontPreferences
