import FontPreferences.Preference.Value
import FontPreferences.Slider

/-
The controls of the settings page: three size sliders and three selection lists, each bound to a
preference.
-/
namespace FontPreferences

/-- The selection lists of the page. -/
inductive ListId where
  | serifFamily
  | fixedFamily
  | encoding
deriving DecidableEq, Repr, Inhabited

namespace ListId

/-- All lists, in screen order. -/
def all : List ListId :=
  [.serifFamily, .fixedFamily, .encoding]

/-- The label shown beside a list. -/
def label : ListId → String
  | .serifFamily => "Serif font"
  | .fixedFamily => "Fixed-width font"
  | .encoding => "Encoding"

/-- The preference that a list is bound to. -/
def preferenceKey : ListId → String
  | .serifFamily => Preference.serifFamilyKey
  | .fixedFamily => Preference.fixedFamilyKey
  | .encoding => Preference.charsetKey

end ListId

/-- The preference that a slider is bound to. -/
def SliderId.preferenceKey : SliderId → String
  | .serifSize => Preference.fontSizeKey
  | .fixedSize => Preference.fixedFontSizeKey
  | .minimumSize => Preference.minimumFontSizeKey

/-- The value map of a slider. -/
def SliderId.valueMap : SliderId → ValueMap
  | .serifSize => .fontSizes
  | .fixedSize => .fontSizes
  | .minimumSize => .minimumFontSizes

/-- The controls that can have the focus. -/
inductive Control where
  | serifFamily
  | serifSize
  | fixedFamily
  | fixedSize
  | minimumSize
  | encoding
deriving DecidableEq, Repr, Inhabited

/-- A control as a slider or a list. -/
inductive ControlKind where
  | slider (id : SliderId)
  | list (id : ListId)
deriving DecidableEq, Repr

namespace Control

/-- All controls, in screen order. -/
def all : List Control :=
  [.serifFamily, .serifSize, .fixedFamily, .fixedSize, .minimumSize, .encoding]

/-- What a control is. -/
def kind : Control → ControlKind
  | .serifFamily => .list .serifFamily
  | .serifSize => .slider .serifSize
  | .fixedFamily => .list .fixedFamily
  | .fixedSize => .slider .fixedSize
  | .minimumSize => .slider .minimumSize
  | .encoding => .list .encoding

/-- The slider that a control is. -/
def slider? (c : Control) : Option SliderId :=
  match c.kind with
  | .slider id => some id
  | .list _ => none

/-- The list that a control is. -/
def list? (c : Control) : Option ListId :=
  match c.kind with
  | .slider _ => none
  | .list id => some id

/-- The label shown beside a control. -/
def label (c : Control) : String :=
  match c.kind with
  | .slider id => id.label
  | .list id => id.label

/-- The identifier of a control in the file of the screen's state. -/
def name : Control → String
  | .serifFamily => "SerifFamily"
  | .serifSize => "SerifSize"
  | .fixedFamily => "FixedFamily"
  | .fixedSize => "FixedSize"
  | .minimumSize => "MinimumSize"
  | .encoding => "Encoding"

/-- The control with an identifier. -/
def ofName? (s : String) : Option Control :=
  all.find? (·.name == s)

/-- The next control down the screen, the last one staying. -/
def down : Control → Control
  | .serifFamily => .serifSize
  | .serifSize => .fixedFamily
  | .fixedFamily => .fixedSize
  | .fixedSize => .minimumSize
  | .minimumSize => .encoding
  | .encoding => .encoding

/-- The next control up the screen, the first one staying. -/
def up : Control → Control
  | .serifFamily => .serifFamily
  | .serifSize => .serifFamily
  | .fixedFamily => .serifSize
  | .fixedSize => .fixedFamily
  | .minimumSize => .fixedSize
  | .encoding => .minimumSize

end Control
end FontPreferences
