import FontPreferences.App
import FontPreferences.Screen.Style
import FontPreferences.Slider.Bar
import FontPreferences.Text.Basic

/-
What the panels, the status bar and the error history say, as lines of styled text.
-/
namespace FontPreferences
namespace Screen

/-- A line without text. -/
def emptyLine : Line := []

/-- A blank beside text, in no style. -/
def gap (n : Nat) : Span :=
  ⟨String.ofList (List.replicate n ' '), .plain⟩

/-! The Fonts panel -/

/-- The width of the sliders' bars. -/
def barWidth : Nat := 24

/-- The label of a control. -/
def labelSpan (label : String) (focused : Bool) : Span :=
  ⟨Text.padLeft 18 label ++ ": ", if focused then Style.accent.inReverse else Style.neutral⟩

/-- The style of a control's value. -/
def controlStyle (disabled focused : Bool) : Style :=
  if disabled then .muted else if focused then .accent else .text

/-- The mark of a control that policy locks. -/
def managedSpan : Span :=
  ⟨" [managed]", .warning⟩

/-- The label that a list shows: that of its selected choice, else the placeholder of a list that
cannot be used yet. -/
def shownLabel (l : SelectionList) : String :=
  let placeholder := if l.disabled then l.choices.head? else none
  ((l.selectedChoice?.or placeholder).map (·.label)).getD "(none)"

/-- The place of the selection in a list that can be used. -/
def placeSpans (l : SelectionList) : List Span :=
  match l.selected with
  | some i => [⟨"  " ++ toString (i + 1) ++ "/" ++ toString l.choices.length, .muted⟩]
  | none => []

/-- The line of a list. -/
def listLine (id : ListId) (l : Option SelectionList) (focused : Bool) : Line :=
  labelSpan id.label focused ::
    match l with
    | none => []
    | some l =>
      ⟨"< " ++ shownLabel l ++ " >", controlStyle l.disabled focused⟩ ::
        (if l.managed then [managedSpan] else if l.disabled then [] else placeSpans l)

/-- The line of a slider. -/
def sliderLine (id : SliderId) (s : Option Slider) (focused : Bool) : Line :=
  labelSpan id.label focused ::
    match s with
    | none => []
    | some s =>
      let style := controlStyle s.disabled focused
      [⟨s.bar barWidth, style⟩, ⟨" " ++ toString s.value.toInt ++ "pt", style⟩]
        ++ (if s.disabled then [managedSpan] else [])

/-- The line of a sample. -/
def sampleLine (r : SampleRegion) : Line :=
  [gap 20, ⟨r.text, Style.plain.inItalics⟩, ⟨"  (" ++ r.family.getD "default" ++ ")", .muted⟩]

/-- The lines of a control, with the sample of a slider below it. -/
def controlLines (a : App) (control : Control) : List Line :=
  let focused := control = a.focus
  match control.kind with
  | .list id => [listLine id (a.page.list? id) focused]
  | .slider id =>
    [sliderLine id (a.page.slider? id) focused, sampleLine (a.page.samples.get id), emptyLine]

/-- The lines of the Fonts panel. -/
def fontsLines (a : App) : List Line :=
  [⟨"[j/k]focus [h/l]change", .muted⟩] :: emptyLine :: Control.all.flatMap (controlLines a)

/-! The Preferences panel -/

/-- The line of a preference. -/
def entryLine (e : Preference.Entry) (underCursor : Bool) : Line :=
  [⟨Text.padRight 44 e.key, if underCursor then Style.accent.inReverse else .text⟩,
   ⟨Text.padRight 24 e.value.display, .source e.source⟩,
   ⟨"[" ++ e.source.label ++ "]", .muted⟩]

/-- The lines of the Preferences panel. -/
def preferencesLines (a : App) : List Line :=
  [⟨"[j/k]scroll [r]reset to default", .muted⟩] :: emptyLine ::
    a.store.entries.zipIdx.map fun (e, i) => entryLine e (i = a.cursor)

/-! The Help panel -/

/-- The heading of a section of the help. -/
def helpHeading (title : String) : Line :=
  [⟨title, Style.accent.inBold⟩]

/-- The help on some keys. -/
def helpLine (keys description : String) : Line :=
  [⟨"  " ++ Text.padLeft 16 keys ++ "  ", .accent⟩, ⟨description, .muted⟩]

/-- The lines of the Help panel. -/
def helpLines : List Line := [
  helpHeading "Global Navigation",
  helpLine "1-3" "Switch to panel by number",
  helpLine "Tab / Shift+Tab" "Cycle panels forward / back",
  helpLine "e" "Open error history",
  helpLine "q / Ctrl+C" "Quit (preferences are saved)",
  emptyLine,
  helpHeading "Panel 1: Fonts",
  helpLine "j / k" "Move focus down / up",
  helpLine "h / l" "Previous / next font, or smaller / larger size",
  helpLine "" "Font lists load the first time the panel is shown",
  helpLine "" "Choosing a serif font also sets the sans-serif font",
  helpLine "" "Controls managed by policy cannot be changed",
  emptyLine,
  helpHeading "Panel 2: Preferences",
  helpLine "j / k" "Scroll preferences",
  helpLine "r" "Reset selected preference to its default"]

/-! The status bar -/

/-- What the status bar says of the font lists. -/
def fetchSpan (a : App) : Span :=
  match a.fontsLoaded with
  | some n => ⟨toString n ++ " fonts", .positive⟩
  | none =>
    if a.page.hasShown then ⟨"loading fonts", .warning⟩ else ⟨"fonts not loaded", .muted⟩

/-- The bar between the parts of the status bar. -/
def divider : Span :=
  ⟨" | ", .plain⟩

/-- What the status bar says of the Fonts panel. -/
def fontsStatus (a : App) : Line :=
  [fetchSpan a, divider, ⟨a.focus.label, .text⟩]
    ++ (if a.focusIsManaged then [⟨" [policy]", .warning⟩] else [])

/-- The style of a status message. -/
def levelStyle : StatusLevel → Style
  | .info => .accent
  | .warning => .warning
  | .error => .negative

/-- The line of the status bar. -/
def statusLine (a : App) : Line :=
  [⟨" 1:Fonts 2:Preferences 3:Help e:Errors q:Quit", .muted⟩, divider]
    ++ (if a.panel = .fonts then fontsStatus a ++ [divider] else [])
    ++ (match a.status with
        | some (message, level) => [⟨message, levelStyle level⟩]
        | none => [])

/-! The error history -/

/-- A number of two digits at least. -/
def twoDigits (n : Nat) : String :=
  if n < 10 then "0" ++ toString n else toString n

/-- A time of day with colons. -/
def clockText (t : ClockTime) : String :=
  twoDigits t.hour ++ ":" ++ twoDigits t.minute ++ ":" ++ twoDigits t.second

/-- The lines of an error: the error, and its context if it has any. -/
def errorLines (e : ErrorRecord) (first : Bool) : List Line :=
  [⟨"[" ++ clockText e.time ++ "] ", .muted⟩, ⟨"[" ++ e.category.label ++ "] ", .warning⟩,
    ⟨e.message, if first then Style.negative.inBold else .muted⟩]
    :: (if e.context = "" then [] else [[gap 2, ⟨e.context, .muted⟩]])

/-- The lines of the error history in `height` rows. -/
def historyLines (a : App) (height : Nat) : List Line :=
  if a.errors.isEmpty then [[⟨"No errors recorded.", .muted⟩]]
  else
    (((a.errors.drop a.errorScroll).take height).zipIdx).flatMap fun (e, i) =>
      errorLines e (i = 0)

/-- The title of the error history. -/
def historyTitle (a : App) : String :=
  " Error History (" ++ toString a.errors.length ++ ") [Esc]close [j/k]scroll "

/-- The title of the panel shown. -/
def panelTitle (a : App) : String :=
  let title := match a.panel with
    | .fonts => a.page.title
    | panel => panel.label
  " " ++ title ++ " [" ++ toString (a.panel.index + 1) ++ "] "

end Screen
end FontPreferences
