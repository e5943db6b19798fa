import FontPreferences.Control
import FontPreferences.FileContent
import FontPreferences.Json.Writer
import FontPreferences.Panel

/-
The part of the screen's state that outlives the program: the panel shown and the focus.

`UiState.load` reads it from a JSON file: an object with the entries `active_panel` and `focus`, or
an array of the two.  An absent entry has its default, and a file with any fault counts as absent.
-/
namespace FontPreferences

/-- The panel shown and the control with the focus. -/
structure UiState where
  panel : Panel
  focus : Control
deriving DecidableEq, Repr

namespace UiState

/-- The state without a file. -/
def default : UiState :=
  ⟨.fonts, .serifFamily⟩

instance : Inhabited UiState := ⟨default⟩

/-- The name that a JSON value gives: a string, or an object with the name as its only key and no
value to it. -/
def nameOf? : Json → Option String
  | .text s => some s
  | .object [(s, .null)] => some s
  | _ => none

/-- The panel that a JSON value names. -/
def panelOf? (v : Json) : Option Panel :=
  (nameOf? v).bind Panel.ofLabel?

/-- The control that a JSON value names. -/
def controlOf? (v : Json) : Option Control :=
  (nameOf? v).bind Control.ofName?

/-- The value of the only entry with a key, if there is one; a repeated key is a fault. -/
def onlyEntry? (members : List (String × Json)) (key : String) : Option (Option Json) :=
  match members.filter (·.1 == key) with
  | [] => some none
  | [(_, v)] => some (some v)
  | _ => none

/-- Reads an optional part of the state, which may have a default. -/
def part? {α : Type} (absent : α) (read? : Json → Option α) : Option Json → Option α
  | none => some absent
  | some v => read? v

/-- The state in a JSON value. -/
def ofJson? : Json → Option UiState
  | .object members => do
    let panel ← onlyEntry? members "active_panel"
    let focus ← onlyEntry? members "focus"
    return ⟨← part? default.panel panelOf? panel, ← part? default.focus controlOf? focus⟩
  | .array items => do
    guard (items.length ≤ 2)
    return ⟨← part? default.panel panelOf? items[0]?, ← part? default.focus controlOf? items[1]?⟩
  | _ => none

/-- Loads the state from its file. -/
def load (file : FileContent) : UiState :=
  match file.read with
  | .text s => ((Json.readLoosely? s).bind ofJson?).getD default
  | _ => default

/-- The text of the file that holds the state. -/
def text (s : UiState) : String :=
  Json.writeObject [("active_panel", Json.writeText s.panel.label),
    ("focus", Json.writeText s.focus.name)]

end UiState
end FontPreferences
