import FontPreferences.Proofs.Json.Document
import FontPreferences.Proofs.KeyTable.Entries
import FontPreferences.Proofs.Preference.Layers

/-
What is saved is loaded again.

* `Value.ofJson?_toJson`: a value is what is read from its own text;
* `loadUserFile_userText`: over the same defaults, the text of a well-kinded user layer loads as
  that layer, every entry taken.

The text is a written JSON object whose members are the entries of the layer, so reading it needs
nothing of the layer but that its keys ascend.
-/
namespace FontPreferences

/-- A file that holds a text is read as this text. -/
theorem FileContent.read_ofText (s : String) : (FileContent.ofText s).read = .text s := by
  have hdecode : String.fromUTF8? s.toUTF8 = some s := by
    rw [String.fromUTF8?, String.toUTF8_eq_toByteArray, dif_pos s.isValidUTF8]
    rfl
  rw [ofText, read, hdecode]

namespace Preference

namespace Value

/-- The value as a JSON value. -/
def toJson : Value → Json
  | .integer n => .integer n.toInt
  | .text s => .text s

/-- A value is what is read from its JSON value. -/
theorem ofJson?_toJson (v : Value) : ofJson? v.toJson = some v := by
  cases v with
  | text s => rfl
  | integer n =>
    have hle : Int32.minValue.toInt ≤ n.toInt := n.minValue_le_toInt
    have hge : n.toInt ≤ Int32.maxValue.toInt := n.toInt_le
    rw [toJson, ofJson?, ofInt?, if_pos ⟨hle, hge⟩, Int32.ofInt_toInt]

/-- The integers in range are those of an integer value. -/
theorem ofInt?_eq_some_iff {n : Int} {value : Value} :
    ofInt? n = some value ↔ ∃ m : Int32, n = m.toInt ∧ value = .integer m := by
  constructor
  · intro h
    rw [ofInt?] at h
    split at h
    · next hrange =>
      have hlo : -2 ^ 31 ≤ n := hrange.1
      have hhi : n ≤ 2 ^ 31 - 1 := hrange.2
      have hn : (Int32.ofInt n).toInt = n := Int32.toInt_ofInt_of_le hlo (by omega)
      exact ⟨Int32.ofInt n, hn.symm, (Option.some.inj h).symm⟩
    · exact absurd h (by simp)
  · rintro ⟨m, rfl, rfl⟩
    exact ofJson?_toJson (.integer m)

/-- The text of a value is one token that stands for its JSON value. -/
theorem exists_writes (v : Value) : ∃ token, Json.Writes (Store.writeValue v) token v.toJson := by
  cases v with
  | text s => exact ⟨_, Json.writes_text s⟩
  | integer n =>
    have hlo := n.le_toInt
    have hhi := n.toInt_lt
    exact ⟨_, Json.writes_integer (by omega)⟩

end Value

namespace Store

/-- The text of a user layer is a JSON object of its entries, in their order. -/
theorem read?_userText (s : Store) :
    Json.read? s.userText = some (.object (s.user.entries.map fun e => (e.1, e.2.toJson))) := by
  choose token hwrites using Value.exists_writes
  have hread := Json.read?_writeObject
    (s.user.entries.map fun e => ⟨e.1, writeValue e.2, token e.2, e.2.toJson, hwrites e.2⟩)
  rw [List.map_map, List.map_map] at hread
  exact hread

/-- The text of a user layer is read as its entries. -/
theorem readObject?_userText (s : Store) :
    ∃ members, readObject? s.userText = some members ∧
      members.entries = s.user.entries.map fun e => (e.1, e.2.toJson) :=
  ⟨_, by rw [readObject?, read?_userText], KeyTable.entries_ofList_map s.user Value.toJson⟩

/-- Entries without a fault are all taken. -/
theorem foldl_loadEntry {entries : List (String × Value)} {loaded : Store × Nat}
    (h : ∀ e ∈ entries, loaded.1.fault? e.1 e.2 = none) :
    (entries.map fun e => (e.1, e.2.toJson)).foldl loadEntry loaded
      = ({ loaded.1 with user := entries.foldl (fun t e => t.insert e.1 e.2) loaded.1.user },
        loaded.2 + entries.length) := by
  induction entries generalizing loaded with
  | nil => rfl
  | cons e entries ih =>
    have husable : loaded.1.usable? e.1 e.2.toJson = some e.2 := by
      rw [usable?, Value.ofJson?_toJson, Option.filter_some, h e List.mem_cons_self]
      rfl
    have htaken : loadEntry loaded (e.1, e.2.toJson)
        = ({ loaded.1 with user := loaded.1.user.insert e.1 e.2 }, loaded.2 + 1) := by
      rw [loadEntry, husable]
    rw [List.map_cons, List.foldl_cons, htaken, ih fun e' he' => ?_, List.foldl_cons,
      List.length_cons, Nat.add_assoc, Nat.add_comm 1]
    rw [← h e' (List.mem_cons_of_mem _ he')]
    exact fault?_congr rfl e'.1 e'.2

/-- **A saved user layer is loaded as it was**, over the defaults that it conforms to. -/
theorem loadUserFile_userText {s t : Store} (h : s.Conforming) (hdefaults : t.defaults = s.defaults)
    (hempty : t.user = .empty) :
    t.loadUserFile (.ofText s.userText)
      = .ok ({ t with user := s.user }, s.user.entries.length) := by
  obtain ⟨members, hread, hentries⟩ := readObject?_userText s
  have hfaultless : ∀ e ∈ s.user.entries, t.fault? e.1 e.2 = none := by
    intro e he
    rw [fault?_congr hdefaults]
    exact h.user e.1 e.2 (KeyTable.get?_of_mem_entries he)
  have hlayer : s.user.entries.foldl (fun t e => t.insert e.1 e.2) t.user = s.user := by
    rw [hempty]
    exact s.user.ofList_entries
  have htaken : (s.user.entries.map fun e => (e.1, e.2.toJson)).foldl loadEntry (t, 0)
      = ({ t with user := s.user.entries.foldl (fun t e => t.insert e.1 e.2) t.user },
        0 + s.user.entries.length) := foldl_loadEntry hfaultless
  simp only [loadUserFile, FileContent.read_ofText, hread, hentries, htaken, hlayer, Nat.zero_add]

end Store
end Preference
end FontPreferences
