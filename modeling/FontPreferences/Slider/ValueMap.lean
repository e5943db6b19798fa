import FontPreferences.Binary64

/-
Value maps: the permitted values of a slider, never empty and strictly ascending.

* `ValueMap.ofList` accepts exactly such lists and names the first fault of any other;
* `ValueMap.closest` picks the permitted value next to a target, the lower one on a tie;
* `fontSizes` and `minimumFontSizes` are the two maps of the settings page.
-/
namespace FontPreferences

/-- Why a slider cannot be built. -/
inductive SliderError where
  | emptyValueMap
  | notAscending (index : Nat) (previous next : Int32)
  | emptyRange
deriving DecidableEq, Repr

/-- The message shown for a slider that cannot be built. -/
def SliderError.message : SliderError → String
  | .emptyValueMap => "value map is empty"
  | .notAscending index previous next =>
    "value map is not strictly ascending at index " ++ toString index ++ " ("
      ++ toString previous.toInt ++ " then " ++ toString next.toInt ++ ")"
  | .emptyRange => "slider range must have at least one position"

/-- A nonempty, strictly ascending list of permitted values. -/
structure ValueMap where
  first : Int32
  rest : List Int32
  ascending : (first :: rest).Pairwise (· < ·)
deriving DecidableEq, Repr

namespace ValueMap

/-- The permitted values in ascending order. -/
def values (m : ValueMap) : List Int32 :=
  m.first :: m.rest

/-- The greatest permitted value. -/
def last (m : ValueMap) : Int32 :=
  m.values.getLast (by simp [values])

/-- The distance from the first to the last permitted value. -/
def span (m : ValueMap) : Int :=
  m.last.toInt - m.first.toInt

/-- The first place where a list fails to ascend: the index of the offending element, the element
before it and the element itself.  `index` is the index of the list's second element. -/
def descent? (index : Nat) : List Int32 → Option (Nat × Int32 × Int32)
  | a :: b :: rest => if a < b then descent? (index + 1) (b :: rest) else some (index, a, b)
  | _ => none

theorem pairwise_of_descent?_eq_none {index : Nat} {values : List Int32}
    (h : descent? index values = none) : values.Pairwise (· < ·) := by
  induction values generalizing index with
  | nil => exact .nil
  | cons a tail ih =>
    cases tail with
    | nil => simp
    | cons b rest =>
      by_cases hab : a < b
      · have hb := ih (by simpa [descent?, hab] using h)
        refine List.pairwise_cons.2 ⟨fun c hc => ?_, hb⟩
        rcases List.mem_cons.1 hc with rfl | hc
        · exact hab
        · exact Int32.lt_trans hab (List.rel_of_pairwise_cons hb hc)
      · simp [descent?, hab] at h

/-- The value map of a list, or the first fault of the list. -/
def ofList : List Int32 → Except SliderError ValueMap
  | [] => .error .emptyValueMap
  | first :: rest =>
    match h : descent? 1 (first :: rest) with
    | some (index, previous, next) => .error (.notAscending index previous next)
    | none => .ok ⟨first, rest, pairwise_of_descent?_eq_none h⟩

/-- The sizes offered for the serif and the fixed-width font. -/
def fontSizes : ValueMap where
  first := 9
  rest := [10, 11, 12, 13, 14, 15, 16, 17, 18, 20, 22, 24, 26, 28, 30, 32, 34, 36, 40, 44, 48, 56,
    64, 72]
  ascending := by decide

/-- The sizes offered for the minimum font size. -/
def minimumFontSizes : ValueMap where
  first := 9
  rest := [10, 11, 12, 13, 14, 15, 16, 17, 18, 20, 22, 24]
  ascending := by decide

/-- The rational that a permitted value stands for. -/
def toRat (v : Int32) : Rat :=
  (v.toInt : Rat)

/-- The permitted value closest to `target`.  The two candidates are the neighbours of the target;
their distances to it are compared as rounded differences, and the lower one wins a tie. -/
def closest (m : ValueMap) (target : Rat) : Int32 :=
  let below := m.values.takeWhile fun v => toRat v < target
  let above := m.values.dropWhile fun v => toRat v < target
  match below.getLast?, above.head? with
  | none, _ => m.first
  | some _, none => m.last
  | some lower, some upper =>
    if Binary64.nearest (target - toRat lower) ≤ Binary64.nearest (toRat upper - target) then lower
    else upper

/-- The permitted value closest to any binary64 number: an infinity is beyond its end of the map,
and NaN compares with nothing, which leaves the first value. -/
def closestTo (m : ValueMap) (target : Binary64) : Int32 :=
  match target with
  | .nan => m.first
  | .infinite negative => if negative then m.first else m.last
  | .negativeZero => m.closest 0
  | .finite q => m.closest q

end ValueMap
end FontPreferences
