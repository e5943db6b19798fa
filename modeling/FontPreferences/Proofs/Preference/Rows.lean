import FontPreferences.Proofs.Preference.SavedValues
import Mathlib.Data.List.Basic

/-
The listing of a store, row by row.

* `row?`: the row of a key, and `entries_eq`: a listing is the rows of the registered keys;
* `entries_attempt`: a value that is accepted changes the row of its own key, to the value that the
  user set, and no other row.
-/
namespace FontPreferences

namespace Preference
namespace Store

variable {s : Store} {key : String}

/-- The row of a key in the listing. -/
def row? (s : Store) (key : String) : Option Entry :=
  match s.get? key, s.source? key with
  | some value, some source => some ⟨key, value, source⟩
  | _, _ => none

theorem entries_eq (s : Store) : s.entries = s.defaults.keys.filterMap s.row? := rfl

theorem key_of_row? {e : Entry} (h : s.row? key = some e) : e.key = key := by
  rw [row?] at h
  split at h
  · cases h
    rfl
  · exact absurd h (by simp)

/-- Every registered key has a row. -/
theorem exists_row? (h : key ∈ s.defaults.keys) : ∃ e, s.row? key = some e := by
  obtain ⟨entry, hentry, rfl⟩ := List.mem_map.1 h
  have hdefault := KeyTable.get?_of_mem_entries hentry
  rw [row?, get?, source?, KeyTable.contains, KeyTable.contains, KeyTable.contains, hdefault]
  -- the first layer that has the key decides
  cases s.managed.get? entry.1 <;> cases s.user.get? entry.1 <;> exact ⟨_, rfl⟩

section attempt

variable {value : Value} (hfault : s.fault? key value = none) (hmanaged : s.isManaged key = false)
  (origin : String)
include hfault hmanaged

theorem user_attempt (other : String) : (s.attempt key value origin).user.get? other
    = if other = key then some value else s.user.get? other := by
  rw [attempt_of_accepted hfault hmanaged, notifyIfChanged_user]
  exact KeyTable.get?_insert s.user key value other

/-- The row of a key with a value that was accepted. -/
theorem row?_attempt_self : (s.attempt key value origin).row? key = some ⟨key, value, .user⟩ := by
  have huser := user_attempt hfault hmanaged origin key
  have hget := get?_attempt_self hfault hmanaged origin
  have hfree := get?_eq_none_of_isManaged hmanaged
  rw [if_pos rfl] at huser
  rw [row?, hget, source?, KeyTable.contains, KeyTable.contains, attempt_managed, hfree, huser]
  rfl

theorem row?_attempt_of_ne {other : String} (h : other ≠ key) :
    (s.attempt key value origin).row? other = s.row? other := by
  have hdefaults := attempt_defaults s key value origin
  have huser := user_attempt hfault hmanaged origin other
  have hlocks := attempt_managed s key value origin
  rw [if_neg h] at huser
  rw [row?, get?_congr (by rw [hdefaults]) huser (by rw [hlocks]),
    source?_congr (by rw [hdefaults]) huser (by rw [hlocks]), row?]

/-- **A value that is accepted changes the row of its key alone.** -/
theorem entries_attempt : (s.attempt key value origin).entries
    = s.entries.map fun e => if e.key = key then ⟨key, value, .user⟩ else e := by
  rw [entries_eq, entries_eq, attempt_defaults, List.map_filterMap]
  refine List.filterMap_congr fun other hother => ?_
  obtain ⟨e, he⟩ := exists_row? hother
  rw [he, Option.map_some, key_of_row? he]
  by_cases hkey : other = key
  · rw [if_pos hkey, hkey, row?_attempt_self hfault hmanaged origin]
  · rw [if_neg hkey, row?_attempt_of_ne hfault hmanaged origin hkey, he]

theorem mem_entries_attempt : ⟨key, value, .user⟩ ∈ (s.attempt key value origin).entries := by
  obtain ⟨d, hdefault, -⟩ := fault?_eq_none_iff.1 hfault
  have hregistered : key ∈ s.defaults.keys :=
    List.mem_map_of_mem (f := Prod.fst) (KeyTable.mem_of_find? hdefault)
  rw [entries_eq, attempt_defaults, List.mem_filterMap]
  exact ⟨key, hregistered, row?_attempt_self hfault hmanaged origin⟩

end attempt

end Store
end Preference
end FontPreferences
