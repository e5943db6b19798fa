import FontPreferences.Control
import FontPreferences.Preference.UserFile
import FontPreferences.Proofs.Preference.Announcement
import Mathlib.Data.List.Induction

/-
Well-kinded stores, and the stores that the program builds its page over.

* `Conforming s`: every value in the user and the managed layer could be set at its key;
* `overFontDefaults_edited`: whatever is done to the store with the font defaults (values set,
  dropped, locked or loaded from a file, observers coming and going), it stays conforming and keeps
  those defaults;
* `attemptLocks_managed_congr`: what a run of locks makes of the layer of policy depends on that layer
  and the defaults alone;
* over such a store every bound key has an effective value of the kind that its control needs:
  `getInteger?_eq_some` for the sliders, `getText?_eq_some` for the lists.
-/
namespace FontPreferences
namespace Preference
namespace Store

/-- The faults of a value depend on the defaults alone. -/
theorem fault?_congr {s t : Store} (h : t.defaults = s.defaults) (key : String) (value : Value) :
    t.fault? key value = s.fault? key value := by
  rw [fault?, default?, h, fault?, default?]

/-! ### Stores with the same layers -/

section congr

variable {s t : Store} {key : String} (hdefaults : s.defaults.get? key = t.defaults.get? key)
  (huser : s.user.get? key = t.user.get? key)
  (hmanaged : s.managed.get? key = t.managed.get? key)
include hdefaults huser hmanaged

theorem get?_congr : s.get? key = t.get? key := by
  rw [get?, hmanaged, huser, hdefaults, get?]

theorem source?_congr : s.source? key = t.source? key := by
  unfold source? KeyTable.contains
  rw [hmanaged, huser, hdefaults]

end congr

/-- Stores that differ in their observers at most. -/
structure SameLayers (s t : Store) : Prop where
  defaults : s.defaults = t.defaults
  user : s.user = t.user
  managed : s.managed = t.managed

theorem SameLayers.get? {s t : Store} (h : SameLayers s t) (key : String) :
    s.get? key = t.get? key :=
  get?_congr (by rw [h.defaults]) (by rw [h.user]) (by rw [h.managed])

theorem SameLayers.source? {s t : Store} (h : SameLayers s t) (key : String) :
    s.source? key = t.source? key :=
  source?_congr (by rw [h.defaults]) (by rw [h.user]) (by rw [h.managed])

theorem SameLayers.entries {s t : Store} (h : SameLayers s t) : s.entries = t.entries := by
  simp only [Store.entries, h.defaults, h.get?, h.source?]

/-- What policy forces is effective. -/
theorem get?_of_managed {s : Store} {key : String} {value : Value}
    (h : s.managed.get? key = some value) : s.get? key = some value := by
  rw [get?, h]
  rfl

theorem source?_of_managed {s : Store} {key : String} {value : Value}
    (h : s.managed.get? key = some value) : s.source? key = some .policy := by
  rw [source?, KeyTable.contains, h]
  rfl

/-! ### Well-kinded stores -/

/-- Every value of the user and managed layers could be set at its key. -/
structure Conforming (s : Store) : Prop where
  user : ∀ key value, s.user.get? key = some value → s.fault? key value = none
  managed : ∀ key value, s.managed.get? key = some value → s.fault? key value = none

theorem Conforming.of_eq {s t : Store} (h : s.Conforming) (hd : t.defaults = s.defaults)
    (hu : t.user = s.user) (hm : t.managed = s.managed) : t.Conforming := by
  refine ⟨fun key value hv => ?_, fun key value hv => ?_⟩
  · rw [fault?_congr hd]
    exact h.user key value (hu ▸ hv)
  · rw [fault?_congr hd]
    exact h.managed key value (hm ▸ hv)

theorem Conforming.insert_user {s : Store} (h : s.Conforming) {key : String} {value : Value}
    (hfault : s.fault? key value = none) :
    Conforming { s with user := s.user.insert key value } := by
  refine ⟨fun k v hv => ?_, fun k v hv => h.managed k v hv⟩
  rw [KeyTable.get?_insert] at hv
  by_cases hk : k = key
  · rw [if_pos hk, Option.some_inj] at hv
    rw [hk, ← hv]
    exact hfault
  · rw [if_neg hk] at hv
    exact h.user k v hv

theorem Conforming.erase_user {s : Store} (h : s.Conforming) (key : String) :
    Conforming { s with user := s.user.erase key } := by
  refine ⟨fun k v hv => ?_, fun k v hv => h.managed k v hv⟩
  rw [KeyTable.get?_erase] at hv
  by_cases hk : k = key
  · rw [if_pos hk] at hv
    exact absurd hv (by simp)
  · rw [if_neg hk] at hv
    exact h.user k v hv

theorem Conforming.insert_managed {s : Store} (h : s.Conforming) {key : String} {value : Value}
    (hfault : s.fault? key value = none) :
    Conforming { s with managed := s.managed.insert key value } := by
  refine ⟨fun k v hv => h.user k v hv, fun k v hv => ?_⟩
  rw [KeyTable.get?_insert] at hv
  by_cases hk : k = key
  · rw [if_pos hk, Option.some_inj] at hv
    rw [hk, ← hv]
    exact hfault
  · rw [if_neg hk] at hv
    exact h.managed k v hv

theorem Conforming.notifyIfChanged {s : Store} (h : s.Conforming) (key : String)
    (before : Option Value) (origin : String) :
    (s.notifyIfChanged key before origin).Conforming :=
  h.of_eq (notifyIfChanged_defaults ..) (notifyIfChanged_user ..) (notifyIfChanged_managed ..)

theorem Conforming.attempt {s : Store} (h : s.Conforming) (key : String) (value : Value)
    (origin : String) : (s.attempt key value origin).Conforming := by
  rcases set_cases s key value origin with ⟨hfault, hmanaged⟩ | hs
  · rw [attempt_of_accepted hfault hmanaged]
    exact (h.insert_user hfault).notifyIfChanged ..
  · rw [hs]
    exact h

theorem Conforming.attemptClear {s : Store} (h : s.Conforming) (key : String) :
    (s.attemptClear key).Conforming := by
  rcases clear_cases s key with hs | ⟨-, hs⟩
  · rw [hs]
    exact h
  · rw [hs]
    exact (h.erase_user key).notifyIfChanged ..

theorem Conforming.attemptLock {s : Store} (h : s.Conforming) (key : String) (value : Value) :
    (s.attemptLock key value).Conforming := by
  rcases lock_cases s key value with hs | ⟨hfault, hs⟩
  · rw [hs]
    exact h
  · rw [hs]
    exact (h.insert_managed hfault).notifyIfChanged ..

theorem Conforming.drain {s : Store} (h : s.Conforming) (o : Nat) : (s.drain o).1.Conforming :=
  h.of_eq (drain_defaults ..) (drain_user ..) (drain_managed ..)

/-- In a conforming store the effective value of a key has the kind of its default. -/
theorem Conforming.kind_get? {s : Store} (h : s.Conforming) {key : String} {d : Value}
    (hd : s.default? key = some d) : ∃ v, s.get? key = some v ∧ v.kind = d.kind := by
  have hkind : ∀ v, s.fault? key v = none → v.kind = d.kind := by
    intro v hv
    obtain ⟨d', hd', hkind⟩ := fault?_eq_none_iff.1 hv
    rw [hd, Option.some_inj] at hd'
    exact hd' ▸ hkind.symm
  -- the first layer that has the key decides
  rw [get?]
  cases hm : s.managed.get? key with
  | some v => exact ⟨v, rfl, hkind v (h.managed key v hm)⟩
  | none =>
    cases hu : s.user.get? key with
    | some v => exact ⟨v, rfl, hkind v (h.user key v hu)⟩
    | none => exact ⟨d, hd, rfl⟩

/-- A key with an integer for a default has an integer that is effective. -/
theorem Conforming.exists_getInteger? {s : Store} (h : s.Conforming) {key : String} {n : Int32}
    (hd : s.default? key = some (.integer n)) : ∃ m, s.getInteger? key = some m := by
  obtain ⟨v, hv, hkind⟩ := h.kind_get? hd
  cases v with
  | integer m => exact ⟨m, by rw [getInteger?, hv]; rfl⟩
  | text text => exact absurd hkind (by simp [Value.kind])

/-- A key with a text for a default has a text that is effective. -/
theorem Conforming.exists_getText? {s : Store} (h : s.Conforming) {key text : String}
    (hd : s.default? key = some (.text text)) : ∃ text', s.getText? key = some text' := by
  obtain ⟨v, hv, hkind⟩ := h.kind_get? hd
  cases v with
  | integer n => exact absurd hkind (by simp [Value.kind])
  | text text' => exact ⟨text', by rw [getText?, hv]; rfl⟩

/-! ### Loading a file -/

/-- An entry of the file concerns the user layer alone. -/
theorem exists_user_loadEntry (loaded : Store × Nat) (entry : String × Json) :
    ∃ user, (loadEntry loaded entry).1 = { loaded.1 with user } := by
  rw [loadEntry]
  split
  · exact ⟨loaded.1.user, rfl⟩
  · exact ⟨_, rfl⟩

theorem exists_user_loadEntries (entries : List (String × Json)) (loaded : Store × Nat) :
    ∃ user, (entries.foldl loadEntry loaded).1 = { loaded.1 with user } := by
  induction entries generalizing loaded with
  | nil => exact ⟨loaded.1.user, rfl⟩
  | cons entry entries ih =>
    obtain ⟨user, hrest⟩ := ih (loadEntry loaded entry)
    obtain ⟨_, hentry⟩ := exists_user_loadEntry loaded entry
    exact ⟨user, by rw [List.foldl_cons, hrest, hentry]⟩

theorem Conforming.loadEntry {loaded : Store × Nat} (h : loaded.1.Conforming)
    (entry : String × Json) : (loadEntry loaded entry).1.Conforming := by
  rw [Store.loadEntry]
  split
  · exact h
  · next value hvalue =>
    rw [usable?, Option.filter_eq_some_iff] at hvalue
    exact h.insert_user (Option.isNone_iff_eq_none.1 hvalue.2)

theorem Conforming.loadEntries {loaded : Store × Nat} (h : loaded.1.Conforming)
    (entries : List (String × Json)) : (entries.foldl Store.loadEntry loaded).1.Conforming := by
  induction entries generalizing loaded with
  | nil => exact h
  | cons entry entries ih => exact ih (h.loadEntry entry)

section load

variable {s : Store} {file : FileContent} {loaded : Store × Nat}
  (hload : s.loadUserFile file = .ok loaded)
include hload

/-- What a load does is to take entries one after another. -/
theorem exists_entries_loadUserFile :
    ∃ entries : List (String × Json), loaded = entries.foldl loadEntry (s, 0) := by
  rw [loadUserFile] at hload
  split at hload
  · cases hload
    exact ⟨[], rfl⟩
  · exact absurd hload (by simp)
  · split at hload
    · exact absurd hload (by simp)
    · next members _ =>
      cases hload
      exact ⟨members.entries, rfl⟩

/-- **Loading a file changes the user layer alone.** -/
theorem exists_user_loadUserFile : ∃ user, loaded.1 = { s with user } := by
  obtain ⟨entries, rfl⟩ := exists_entries_loadUserFile hload
  exact exists_user_loadEntries entries (s, 0)

theorem loadUserFile_defaults : loaded.1.defaults = s.defaults := by
  obtain ⟨user, h⟩ := exists_user_loadUserFile hload
  rw [h]

theorem loadUserFile_managed : loaded.1.managed = s.managed := by
  obtain ⟨user, h⟩ := exists_user_loadUserFile hload
  rw [h]

theorem loadUserFile_observers : loaded.1.observers = s.observers := by
  obtain ⟨user, h⟩ := exists_user_loadUserFile hload
  rw [h]

theorem Conforming.loadUserFile (h : s.Conforming) : loaded.1.Conforming := by
  obtain ⟨entries, rfl⟩ := exists_entries_loadUserFile hload
  have hstart : (s, 0).1.Conforming := h
  exact hstart.loadEntries entries

end load

/-! ### Preparing a store -/

/-- What can happen to a store before a page is built over it. -/
inductive Edit where
  | set (key : String) (value : Value) (origin : String)
  | clear (key : String)
  | lock (key : String) (value : Value)
  | load (file : FileContent)
  | observe
  | drain (observer : Nat)
  | drop (observer : Nat)

/-- The store after an edit; a refused one changes nothing. -/
def edit (s : Store) : Edit → Store
  | .set key value origin => s.attempt key value origin
  | .clear key => s.attemptClear key
  | .lock key value => s.attemptLock key value
  | .load file =>
    match s.loadUserFile file with
    | .ok loaded => loaded.1
    | .error _ => s
  | .observe => s.observe.1
  | .drain observer => (s.drain observer).1
  | .drop observer => s.drop observer

/-- The store after a run of edits. -/
def edited (s : Store) (edits : List Edit) : Store :=
  edits.foldl edit s

/-- A conforming store with the defaults of the page's preferences. -/
structure OverFontDefaults (s : Store) : Prop where
  conforming : s.Conforming
  defaults : s.defaults = withFontDefaults.defaults

/-- No edit changes the defaults. -/
theorem edit_defaults (s : Store) (e : Edit) : (s.edit e).defaults = s.defaults := by
  cases e with
  | set key value origin => exact attempt_defaults ..
  | clear key => exact attemptClear_defaults ..
  | lock key value => exact attemptLock_defaults ..
  | load file =>
    simp only [Store.edit]
    cases hload : s.loadUserFile file with
    | error e => rfl
    | ok loaded => exact loadUserFile_defaults hload
  | observe => rfl
  | drain observer => exact drain_defaults ..
  | drop observer => rfl

theorem edited_defaults (s : Store) (edits : List Edit) : (s.edited edits).defaults = s.defaults :=
  List.foldlRecOn (motive := fun t => t.defaults = s.defaults) edits edit rfl
    fun t ht e _ => (edit_defaults t e).trans ht

/-- No edit makes a conforming store one that is not. -/
theorem Conforming.edit {s : Store} (h : s.Conforming) (e : Edit) : (s.edit e).Conforming := by
  cases e with
  | set key value origin => exact h.attempt ..
  | clear key => exact h.attemptClear ..
  | lock key value => exact h.attemptLock ..
  | load file =>
    simp only [Store.edit]
    cases hload : s.loadUserFile file with
    | error e => exact h
    | ok loaded => exact h.loadUserFile hload
  | observe => exact h.of_eq rfl rfl rfl
  | drain observer => exact h.drain observer
  | drop observer => exact h.of_eq rfl rfl rfl

theorem Conforming.edited {s : Store} (h : s.Conforming) (edits : List Edit) :
    (s.edited edits).Conforming :=
  List.foldlRecOn edits Store.edit h fun _ ht e _ => ht.edit e

theorem overFontDefaults_edit {s : Store} (h : s.OverFontDefaults) (e : Edit) :
    (s.edit e).OverFontDefaults :=
  ⟨h.conforming.edit e, (edit_defaults s e).trans h.defaults⟩

theorem withFontDefaults_user : withFontDefaults.user = .empty := rfl

theorem withFontDefaults_managed : withFontDefaults.managed = .empty := rfl

/-- With nothing but defaults a store conforms to them. -/
theorem conforming_of_empty {s : Store} (huser : s.user = .empty) (hmanaged : s.managed = .empty) :
    s.Conforming := by
  refine ⟨fun key value hv => ?_, fun key value hv => ?_⟩
  · rw [huser, KeyTable.get?_empty] at hv
    exact absurd hv (by simp)
  · rw [hmanaged, KeyTable.get?_empty] at hv
    exact absurd hv (by simp)

theorem overFontDefaults_withFontDefaults : withFontDefaults.OverFontDefaults :=
  ⟨conforming_of_empty withFontDefaults_user withFontDefaults_managed, rfl⟩

theorem OverFontDefaults.edited {s : Store} (h : s.OverFontDefaults) (edits : List Edit) :
    (s.edited edits).OverFontDefaults := by
  induction edits generalizing s with
  | nil => exact h
  | cons e edits ih => exact ih (overFontDefaults_edit h e)

/-- **Every store prepared from the font defaults conforms to them.** -/
theorem overFontDefaults_edited (edits : List Edit) :
    (withFontDefaults.edited edits).OverFontDefaults :=
  overFontDefaults_withFontDefaults.edited edits

/-! ### Locking one key after another -/

/-- The store with a lock for each of the entries that it takes. -/
def attemptLocks (s : Store) (entries : List (String × Value)) : Store :=
  s.edited (entries.map fun e => .lock e.1 e.2)

theorem attemptLocks_cons (s : Store) (e : String × Value) (entries : List (String × Value)) :
    s.attemptLocks (e :: entries) = (s.attemptLock e.1 e.2).attemptLocks entries := rfl

theorem attemptLocks_user (s : Store) (entries : List (String × Value)) :
    (s.attemptLocks entries).user = s.user := by
  induction entries generalizing s with
  | nil => rfl
  | cons e entries ih => rw [attemptLocks_cons, ih, attemptLock_user]

/-- What a lock adds to the layer of policy depends on that layer and the defaults alone. -/
theorem attemptLock_managed_congr {s t : Store} (hdefaults : s.defaults = t.defaults)
    (hmanaged : s.managed = t.managed) (key : String) (value : Value) :
    (s.attemptLock key value).managed = (t.attemptLock key value).managed := by
  have hfault : s.fault? key value = t.fault? key value := fault?_congr hdefaults key value
  rw [attemptLock, setManaged, attemptLock, setManaged, hfault]
  cases t.fault? key value with
  | some e => exact hmanaged
  | none => simp only [notifyIfChanged_managed, hmanaged]

theorem attemptLocks_managed_congr {s t : Store} (hdefaults : s.defaults = t.defaults)
    (hmanaged : s.managed = t.managed) (entries : List (String × Value)) :
    (s.attemptLocks entries).managed = (t.attemptLocks entries).managed := by
  induction entries generalizing s t with
  | nil => exact hmanaged
  | cons e entries ih =>
    refine ih ?_ (attemptLock_managed_congr hdefaults hmanaged e.1 e.2)
    rw [edit, edit, attemptLock_defaults, attemptLock_defaults, hdefaults]

/-! ### The bound keys -/

theorem default?_register (s : Store) (key : String) (value : Value) (k : String) :
    (s.register key value).default? k = if k = key then some value else s.default? k :=
  KeyTable.get?_insert s.defaults key value k

theorem default?_foldl_register (l : List (String × Value)) (s : Store) (key : String) :
    (l.foldl (fun s e => s.register e.1 e.2) s).default? key
      = (KeyTable.find? key l.reverse).or (s.default? key) := by
  induction l using List.reverseRecOn with
  | nil => rfl
  | append_singleton l e ih =>
    rw [List.foldl_append, List.reverse_append]
    show ((l.foldl (fun s e => s.register e.1 e.2) s).register e.1 e.2).default? key
      = (if e.1 = key then some e.2 else KeyTable.find? key l.reverse).or (s.default? key)
    rw [default?_register, ih]
    by_cases hk : key = e.1
    · rw [if_pos hk, if_pos hk.symm]
      rfl
    · rw [if_neg hk, if_neg (Ne.symm hk)]

theorem OverFontDefaults.default?_eq {s : Store} (h : s.OverFontDefaults) (key : String) :
    s.default? key = KeyTable.find? key fontDefaults.reverse := by
  rw [default?, h.defaults]
  refine (default?_foldl_register fontDefaults empty key).trans ?_
  exact Option.or_none

theorem default?_slider {s : Store} (h : s.OverFontDefaults) (id : SliderId) :
    ∃ n, s.default? id.preferenceKey = some (.integer n) := by
  rw [h.default?_eq]
  cases id with
  | serifSize => exact ⟨16, by decide⟩
  | fixedSize => exact ⟨13, by decide⟩
  | minimumSize => exact ⟨0, by decide⟩

theorem default?_list {s : Store} (h : s.OverFontDefaults) (id : ListId) :
    ∃ text, s.default? id.preferenceKey = some (.text text) := by
  rw [h.default?_eq]
  cases id with
  | serifFamily => exact ⟨"Times New Roman", by decide⟩
  | fixedFamily => exact ⟨"Courier New", by decide⟩
  | encoding => exact ⟨"ISO-8859-1", by decide⟩

theorem fault?_slider {s : Store} (h : s.OverFontDefaults) (id : SliderId) (n : Int32) :
    s.fault? id.preferenceKey (.integer n) = none := by
  obtain ⟨d, hd⟩ := default?_slider h id
  rw [fault?, hd]
  rfl

theorem fault?_list {s : Store} (h : s.OverFontDefaults) (id : ListId) (text : String) :
    s.fault? id.preferenceKey (.text text) = none := by
  obtain ⟨d, hd⟩ := default?_list h id
  rw [fault?, hd]
  rfl

theorem fault?_sansSerif {s : Store} (h : s.OverFontDefaults) (text : String) :
    s.fault? sansSerifFamilyKey (.text text) = none := by
  have hd : s.default? sansSerifFamilyKey = some (.text "Times New Roman") := by
    rw [h.default?_eq]
    decide
  rw [fault?, hd]
  rfl

/-- The preference of a slider always is an integer. -/
theorem getInteger?_eq_some {s : Store} (h : s.OverFontDefaults) (id : SliderId) :
    ∃ n, s.getInteger? id.preferenceKey = some n := by
  obtain ⟨d, hd⟩ := default?_slider h id
  exact h.conforming.exists_getInteger? hd

/-- The preference of a list always is a text. -/
theorem getText?_eq_some {s : Store} (h : s.OverFontDefaults) (id : ListId) :
    ∃ text, s.getText? id.preferenceKey = some text := by
  obtain ⟨d, hd⟩ := default?_list h id
  exact h.conforming.exists_getText? hd

end Store
end Preference
end FontPreferences
