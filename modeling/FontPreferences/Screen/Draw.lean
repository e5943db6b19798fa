import FontPreferences.Screen.Canvas
import FontPreferences.Screen.Panels

/-
Drawing the screen: the panel shown, the status bar below it, and the error history over them.
-/
namespace FontPreferences
namespace Screen

/-- Draws the panel shown, in a border with its title. -/
def drawPanel (c : Canvas) (area : Rect) (a : App) : Canvas :=
  let c := c.drawBlock area .accent (panelTitle a) Style.accent.inBold
  match a.panel with
  | .fonts => c.drawWrapped area.inner (fontsLines a)
  | .preferences => c.drawTruncated area.inner (preferencesLines a)
  | .help => c.drawTruncated area.inner helpLines

/-- Draws the error history in the middle of an area. -/
def drawHistory (c : Canvas) (area : Rect) (a : App) : Canvas :=
  let popup := area.centered 80 70
  let c := (c.clear popup).drawBlock popup .negative (historyTitle a) .negative
  c.drawTruncated popup.inner (historyLines a popup.inner.height)

/-- Draws the screen in a number of columns and rows. -/
def draw (a : App) (width height : Nat) : Canvas :=
  let (main, status) := Rect.splitStatus ⟨0, 0, width, height⟩
  let c := drawPanel (.blank width height) main a
  let c := c.drawTruncated status [statusLine a]
  if a.historyOpen then drawHistory c main a else c

end Screen
end FontPreferences
