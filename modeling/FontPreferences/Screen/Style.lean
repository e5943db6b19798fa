import FontPreferences.Preference.Store

/-
Colours, styles and styled text, and the palette of the screen.

Accent marks focus and values set by the user, positive success, negative errors, warning what
policy manages, neutral labels, and muted what is disabled, a default or a hint.
-/
namespace FontPreferences
namespace Screen

/-- A colour of text; `reset` is the terminal's own. -/
inductive Color where
  | reset
  | white
  | rgb (red green blue : Nat)
deriving DecidableEq, Repr

/-- What a style adds to the cells it is laid over.  No colour leaves theirs. -/
structure Style where
  color : Option Color
  bold : Bool
  italic : Bool
  reversed : Bool
deriving DecidableEq, Repr

namespace Style

/-- The style that adds nothing. -/
def plain : Style :=
  ⟨none, false, false, false⟩

/-- A colour alone. -/
def ink (c : Color) : Style :=
  ⟨some c, false, false, false⟩

def accent : Style := ink (.rgb 0 255 255)
def positive : Style := ink (.rgb 0 255 128)
def negative : Style := ink (.rgb 255 20 147)
def warning : Style := ink (.rgb 255 140 0)
def neutral : Style := ink (.rgb 147 112 219)
def muted : Style := ink (.rgb 100 149 237)
def text : Style := ink .white

/-- The style in bold. -/
def inBold (s : Style) : Style :=
  { s with bold := true }

/-- The style in italics. -/
def inItalics (s : Style) : Style :=
  { s with italic := true }

/-- The style with foreground and background swapped. -/
def inReverse (s : Style) : Style :=
  { s with reversed := true }

/-- The style of a preference value, by the layer it comes from. -/
def source : Preference.Source → Style
  | .policy => warning
  | .user => accent
  | .default => muted

end Style

/-- Text in one style. -/
structure Span where
  text : String
  style : Style
deriving DecidableEq, Repr

/-- A line of styled text. -/
abbrev Line := List Span

/-- The text of a line without its styles. -/
def Line.text (l : Line) : String :=
  String.join (l.map (·.text))

end Screen
end FontPreferences
