import FontPreferences.Proofs.Preference.SavedValues

/-
Which preferences files can be loaded.

Every content that can stand at the path is of one of two sorts, whatever store it is loaded into:

* `Holds file members`: nothing stands there, or a JSON object with these members does; such a file
  is loaded (`exists_loadUserFile_iff`), however unusable its members are;
* `Unloadable file e`: the file is refused with the fault `e` (`loadUserFile_eq_error_iff`).

`holds_or_unloadable` says that there is no third sort.

A key that is loaded gets the value of its last member, if this is usable, and keeps the user's value
otherwise (`user_loadUserFile`).
-/
namespace FontPreferences

namespace FileContent

open Preference (UserFileError)

/-- The members that a preferences file holds; a missing file holds none. -/
inductive Holds : FileContent → List (String × Json) → Prop where
  | missing : Holds .missing []
  | object {text : String} {members : List (String × Json)}
      (h : Json.read? text = some (.object members)) : Holds (.ofText text) members

/-- What cannot be loaded as a preferences file, and the fault that it is refused with. -/
inductive Unloadable : FileContent → UserFileError → Prop where
  | directory : Unloadable .directory .unreadable
  | unreachable : Unloadable .unreachable .unreadable
  | notText {data : ByteArray} (h : String.fromUTF8? data = none) :
      Unloadable (.bytes data) .unreadable
  | notJson {text : String} (h : Json.read? text = none) : Unloadable (.ofText text) .malformed
  | notObject {text : String} {json : Json} (h : Json.read? text = some json)
      (hother : ∀ members, json ≠ .object members) : Unloadable (.ofText text) .malformed

/-- Bytes that can be read as a text are the bytes of this text. -/
theorem eq_ofText_of_fromUTF8? {data : ByteArray} {text : String}
    (h : String.fromUTF8? data = some text) : FileContent.bytes data = .ofText text := by
  rw [String.fromUTF8?] at h
  split at h
  · cases h
    rfl
  · exact absurd h (by simp)

/-- Whatever stands at the path is loaded or refused. -/
theorem holds_or_unloadable (file : FileContent) :
    (∃ members, file.Holds members) ∨ ∃ e, file.Unloadable e := by
  cases file with
  | missing => exact .inl ⟨[], .missing⟩
  | directory => exact .inr ⟨_, .directory⟩
  | unreachable => exact .inr ⟨_, .unreachable⟩
  | bytes data =>
    cases htext : String.fromUTF8? data with
    | none => exact .inr ⟨_, .notText htext⟩
    | some text =>
      rw [eq_ofText_of_fromUTF8? htext]
      cases hjson : Json.read? text with
      | none => exact .inr ⟨_, .notJson hjson⟩
      | some json =>
        cases json with
        | object members => exact .inl ⟨members, .object hjson⟩
        | null | bool | integer | decimal | text | array | faulty =>
          exact .inr ⟨_, .notObject hjson (by simp)⟩

end FileContent

namespace Preference
namespace Store

variable {s : Store} {file : FileContent}

/-- A file that holds members is loaded, member after member in the order of their keys. -/
theorem loadUserFile_of_holds {members : List (String × Json)} (h : file.Holds members) :
    s.loadUserFile file = .ok ((KeyTable.ofList members).entries.foldl loadEntry (s, 0)) := by
  cases h with
  | missing => rfl
  | object h => simp [loadUserFile, FileContent.read_ofText, readObject?, h]

/-- What cannot be loaded is refused with its fault. -/
theorem loadUserFile_of_unloadable {e : UserFileError} (h : file.Unloadable e) :
    s.loadUserFile file = .error e := by
  cases h with
  | directory | unreachable => rfl
  | notText h => simp [loadUserFile, FileContent.read, h]
  | notJson h => simp [loadUserFile, FileContent.read_ofText, readObject?, h]
  | @notObject text json h hother =>
    have hnone : readObject? text = none := by
      rw [readObject?, h]
      cases json with
      | object members => exact absurd rfl (hother members)
      | null | bool | integer | decimal | text | array | faulty => rfl
    simp [loadUserFile, FileContent.read_ofText, hnone]

/-- **Which files are refused, and with which fault**, whatever store they are loaded into. -/
theorem loadUserFile_eq_error_iff {e : UserFileError} :
    s.loadUserFile file = .error e ↔ file.Unloadable e := by
  refine ⟨fun h => ?_, loadUserFile_of_unloadable⟩
  rcases file.holds_or_unloadable with ⟨members, hholds⟩ | ⟨e', hunloadable⟩
  · rw [loadUserFile_of_holds hholds] at h
    exact absurd h (by simp)
  · rw [loadUserFile_of_unloadable hunloadable, Except.error.injEq] at h
    exact h ▸ hunloadable

/-- **Which files are loaded.** -/
theorem exists_loadUserFile_iff :
    (∃ loaded, s.loadUserFile file = .ok loaded) ↔ ∃ members, file.Holds members := by
  constructor
  · rintro ⟨loaded, h⟩
    rcases file.holds_or_unloadable with hholds | ⟨e, hunloadable⟩
    · exact hholds
    · rw [loadUserFile_of_unloadable hunloadable] at h
      exact absurd h (by simp)
  · rintro ⟨members, h⟩
    exact ⟨_, loadUserFile_of_holds h⟩

/-! ### What is loaded -/

theorem usable?_congr {t : Store} (h : t.defaults = s.defaults) (key : String) (stored : Json) :
    t.usable? key stored = s.usable? key stored := by
  simp only [usable?, fault?_congr h]

/-- A member concerns its own key alone, and that only if it is usable. -/
theorem user_loadEntry (loaded : Store × Nat) (entry : String × Json) (key : String) :
    (loadEntry loaded entry).1.user.get? key
      = if key = entry.1 then (loaded.1.usable? entry.1 entry.2).or (loaded.1.user.get? key)
        else loaded.1.user.get? key := by
  rw [loadEntry]
  cases loaded.1.usable? entry.1 entry.2 with
  | none => simp
  | some value => simp [KeyTable.get?_insert]

/-- Members in the order of their keys: each key has the value of its member, if this is usable. -/
theorem user_foldl_loadEntry {l : List (String × Json)} (h : l.Pairwise fun a b => a.1 < b.1)
    (loaded : Store × Nat) (key : String) : (l.foldl loadEntry loaded).1.user.get? key
      = ((KeyTable.find? key l).bind (loaded.1.usable? key)).or (loaded.1.user.get? key) := by
  induction l generalizing loaded with
  | nil => rfl
  | cons e l ih =>
    obtain ⟨hhead, hrest⟩ := List.pairwise_cons.1 h
    obtain ⟨_, hentry⟩ := exists_user_loadEntry loaded e
    have husable : (loadEntry loaded e).1.usable? key = loaded.1.usable? key :=
      funext fun stored => usable?_congr (by rw [hentry]) key stored
    rw [List.foldl_cons, ih hrest, husable, user_loadEntry, KeyTable.find?]
    by_cases hkey : e.1 = key
    · -- no later member has the key
      subst hkey
      rw [KeyTable.find?_eq_none_of_lt hhead, if_pos rfl, if_pos rfl]
      rfl
    · rw [if_neg hkey, if_neg (Ne.symm hkey)]

/-- **What a file gives the user layer.** -/
theorem user_loadUserFile {members : List (String × Json)} (h : file.Holds members)
    {loaded : Store × Nat} (hload : s.loadUserFile file = .ok loaded) (key : String) :
    loaded.1.user.get? key = (((KeyTable.ofList members).get? key).bind (s.usable? key)).or
      (s.user.get? key) := by
  rw [loadUserFile_of_holds h, Except.ok.injEq] at hload
  rw [← hload]
  exact user_foldl_loadEntry (KeyTable.ofList members).ascending (s, 0) key

end Store
end Preference
end FontPreferences
