import FontPreferences.Encoding
import FontPreferences.KeyTable
import FontPreferences.Text.Basic
import FontPreferences.Text.LowerCase

/-
The font catalog: the families offered for choice.

Names are trimmed and blank ones dropped.  Names that agree in lower case are one family, shown in
the spelling that comes first; the families are ordered by their lower-case names.
-/
namespace FontPreferences

/-- Why a catalog has nothing to offer. -/
inductive CatalogError where
  | noFonts
deriving DecidableEq, Repr

/-- The message shown when a catalog has nothing to offer. -/
def CatalogError.message : CatalogError → String
  | .noFonts => "no font families found on this system"

/-- A font catalog over a fixed list of family names. -/
structure Catalog where
  names : List String
deriving DecidableEq, Repr

namespace Catalog

/-- Adds a name to the families found so far, unless it is blank or known in another spelling. -/
def collect (found : KeyTable String) (name : String) : KeyTable String :=
  let spelling := Text.trim name
  let key := Text.lowerCase spelling
  if spelling.isEmpty || found.contains key then found else found.insert key spelling

/-- The spelling of each family by its lower-case name. -/
def spellings (c : Catalog) : KeyTable String :=
  c.names.foldl collect .empty

/-- The families as choices, or the fault that there are none. -/
def families (c : Catalog) : Except CatalogError (List Choice) :=
  match c.spellings.entries with
  | [] => .error .noFonts
  | entries => .ok (entries.map fun e => ⟨e.2, e.2⟩)

/-- The encodings offered beside the families. -/
def encodings (_ : Catalog) : List Choice :=
  Encoding.choices

end Catalog
end FontPreferences
