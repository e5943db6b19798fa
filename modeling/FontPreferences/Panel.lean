/-
The panels of the screen, of which one is shown at a time.
-/
namespace FontPreferences

/-- The panels. -/
inductive Panel where
  | fonts
  | preferences
  | help
deriving DecidableEq, Repr, Inhabited

namespace Panel

/-- All panels, in the order of their numbers. -/
def all : List Panel :=
  [.fonts, .preferences, .help]

/-- The place of a panel in the order, from zero. -/
def index : Panel → Nat
  | .fonts => 0
  | .preferences => 1
  | .help => 2

/-- The panel at a place in the order. -/
def ofIndex? (i : Nat) : Option Panel :=
  all[i]?

/-- The label of a panel, which also identifies it in the file of the screen's state. -/
def label : Panel → String
  | .fonts => "Fonts"
  | .preferences => "Preferences"
  | .help => "Help"

/-- The panel with a label. -/
def ofLabel? (s : String) : Option Panel :=
  all.find? (·.label == s)

/-- The next panel, the first one after the last. -/
def next : Panel → Panel
  | .fonts => .preferences
  | .preferences => .help
  | .help => .fonts

/-- The panel before, the last one before the first. -/
def previous : Panel → Panel
  | .fonts => .help
  | .preferences => .fonts
  | .help => .preferences

end Panel
end FontPreferences
