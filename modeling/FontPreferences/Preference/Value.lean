import FontPreferences.Json.Reader
import FontPreferences.Text.Quoted

/-
Preference values, and the preferences of the settings page.
-/
namespace FontPreferences
namespace Preference

/-- The two kinds of preference values. -/
inductive Kind where
  | integer
  | text
deriving DecidableEq, Repr

/-- The kind as an error message names it. -/
def Kind.phrase : Kind → String
  | .integer => "an integer"
  | .text => "a string"

/-- A preference value. -/
inductive Value where
  | integer (n : Int32)
  | text (s : String)
deriving DecidableEq, Repr

namespace Value

def kind : Value → Kind
  | .integer _ => .integer
  | .text _ => .text

/-- The number of an integer value. -/
def asInteger? : Value → Option Int32
  | .integer n => some n
  | .text _ => none

/-- The text of a text value. -/
def asText? : Value → Option String
  | .integer _ => none
  | .text s => some s

/-- The integer in the range of an integer value. -/
def ofInt? (n : Int) : Option Value :=
  if Int32.minValue.toInt ≤ n ∧ n ≤ Int32.maxValue.toInt then some (.integer (Int32.ofInt n)) else none

/-- The value stored as a JSON value: a string, or an integer in range. -/
def ofJson? : Json → Option Value
  | .text s => some (.text s)
  | .integer n => ofInt? n
  | _ => none

/-- The value as a listing shows it. -/
def display : Value → String
  | .integer n => toString n.toInt
  | .text s => Text.quoted s

end Value

/-! The preferences of the page, by their names in the browser. -/

def serifFamilyKey : String := "webkit.webprefs.serif_font_family"
def sansSerifFamilyKey : String := "webkit.webprefs.sansserif_font_family"
def fixedFamilyKey : String := "webkit.webprefs.fixed_font_family"
def fontSizeKey : String := "webkit.webprefs.default_font_size"
def fixedFontSizeKey : String := "webkit.webprefs.default_fixed_font_size"
def minimumFontSizeKey : String := "webkit.webprefs.minimum_font_size"
def minimumLogicalFontSizeKey : String := "webkit.webprefs.minimum_logical_font_size"
def charsetKey : String := "intl.charset_default"

/-- The page's preferences with their defaults. -/
def fontDefaults : List (String × Value) := [
  (serifFamilyKey, .text "Times New Roman"),
  (sansSerifFamilyKey, .text "Times New Roman"),
  (fixedFamilyKey, .text "Courier New"),
  (fontSizeKey, .integer 16),
  (fixedFontSizeKey, .integer 13),
  (minimumFontSizeKey, .integer 0),
  (minimumLogicalFontSizeKey, .integer 6),
  (charsetKey, .text "ISO-8859-1")]

end Preference
end FontPreferences
