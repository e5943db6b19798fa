import FontPreferences.KeyTable

/-
Localized strings: English texts by identifier, with overrides on top.
-/
namespace FontPreferences

/-- A table of texts by identifier. -/
structure LocalizedStrings where
  table : KeyTable String
deriving DecidableEq, Repr

namespace LocalizedStrings

/-- The identifier of the page title. -/
def pageTitle : String := "fontSettingsPageTabTitle"

/-- The identifier of the entry shown while a list is being loaded. -/
def placeholder : String := "fontSettingsPlaceholder"

/-- The identifier of the sentence shown in the samples. -/
def sampleSentence : String := "fontSettingsLoremIpsum"

/-- The English texts. -/
def english : KeyTable String :=
  KeyTable.ofList [
    (pageTitle, "Fonts and Encoding"),
    (placeholder, "(loading)"),
    (sampleSentence, "It was a bright cold day in April, and the clocks were striking thirteen.")]

/-- The English texts with overrides on top. -/
def withOverrides (overrides : KeyTable String) : LocalizedStrings :=
  ⟨overrides.entries.foldl (fun t e => t.insert e.1 e.2) english⟩

instance : Inhabited LocalizedStrings := ⟨⟨english⟩⟩

/-- The text for an identifier; an unknown one has the empty text. -/
def get (s : LocalizedStrings) (key : String) : String :=
  (s.table.get? key).getD ""

end LocalizedStrings
end FontPreferences
