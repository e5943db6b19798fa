import FontPreferences.App

/-
Keys and what they do: an open error history takes them first, then the app, then the panel shown.
-/
namespace FontPreferences

/-- A key of the keyboard. -/
inductive KeyCode where
  | tab
  | backTab
  | escape
  | enter
  | up
  | down
  | left
  | right
  | char (c : Char)
  /-- A key of the keyboard that has no use here, by its name. -/
  | other (name : String)
deriving DecidableEq, Repr

/-- What happened to a key. -/
inductive KeyMotion where
  | press
  | hold
  | release
deriving DecidableEq, Repr

/-- A key event. -/
structure KeyEvent where
  code : KeyCode
  shift : Bool
  control : Bool
  alt : Bool
  motion : KeyMotion
deriving DecidableEq, Repr

namespace App

/-- A key while the error history is open. -/
def historyKey (a : App) : KeyCode → App
  | .escape | .char 'q' | .char 'e' => { a with historyOpen := false }
  | .char 'j' | .down =>
    if a.errorScroll + 1 < a.errors.length then { a with errorScroll := a.errorScroll + 1 } else a
  | .char 'k' | .up => { a with errorScroll := a.errorScroll - 1 }
  | _ => a

/-- A key for the Fonts panel. -/
def fontsKey (a : App) : KeyCode → App
  | .char 'j' | .down => { a with focus := a.focus.down }
  | .char 'k' | .up => { a with focus := a.focus.up }
  | .char 'h' | .left => a.adjust .decrease
  | .char 'l' | .right => a.adjust .increase
  | _ => a

/-- A key for the Preferences panel. -/
def preferencesKey (a : App) : KeyCode → App
  | .char 'j' | .down =>
    if a.cursor + 1 < a.store.entries.length then { a with cursor := a.cursor + 1 } else a
  | .char 'k' | .up => { a with cursor := a.cursor - 1 }
  | .char 'r' => a.resetSelected
  | _ => a

/-- A key for the panel shown. -/
def panelKey (a : App) (code : KeyCode) : App :=
  match a.panel with
  | .fonts => a.fontsKey code
  | .preferences => a.preferencesKey code
  | .help => a

/-- The effect of a key that acts on any panel. -/
def globalKey? (a : App) (e : KeyEvent) : Option App :=
  match e.code with
  | .char 'q' => some a.quit
  | .char 'c' => if e.control then some a.quit else none
  | .char '1' => some (a.showPanel .fonts)
  | .char '2' => some (a.showPanel .preferences)
  | .char '3' => some (a.showPanel .help)
  | .tab => some (a.showPanel (if e.shift then a.panel.previous else a.panel.next))
  | .backTab => some (a.showPanel a.panel.previous)
  | .char 'e' => some { a with historyOpen := true, errorScroll := 0 }
  | _ => none

/-- Takes a key event.  Only a press does anything. -/
def handleKey (a : App) (e : KeyEvent) : App :=
  if e.motion ≠ .press then a
  else if a.historyOpen then a.historyKey e.code
  else (a.globalKey? e).getD (a.panelKey e.code)

end App
end FontPreferences
