/-
Sample regions: a sentence shown in the size and family that the controls stand at.
-/
namespace FontPreferences

/-- What a sample region shows. -/
structure SampleRegion where
  text : String
  /-- The font size in points, once something has been shown. -/
  size : Option Int32
  /-- The font family, once one has been given. -/
  family : Option String
deriving DecidableEq, Repr, Inhabited

namespace SampleRegion

/-- A region that shows nothing yet. -/
def blank : SampleRegion :=
  ⟨"", none, none⟩

/-- The text of a sample: its size, then the sentence. -/
def caption (sentence : String) (size : Int32) : String :=
  toString size.toInt ++ "pt: " ++ sentence

/-- Shows the sentence in a size.  The family changes only to a given one that is not empty. -/
def render (r : SampleRegion) (sentence : String) (size : Int32) (family : Option String) :
    SampleRegion where
  text := caption sentence size
  size := some size
  family := (family.filter (· ≠ "")).or r.family

end SampleRegion
end FontPreferences
