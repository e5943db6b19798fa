import FontPreferences.Proofs.Policy.Locks
import FontPreferences.Proofs.Preference.Rows

/-
What the stores of a program look like.

* `Reachable s`: `s` comes from the empty store or from the one with the font defaults, by preferences
  registered, calls, loads of any file and policies;
* `Reachable.conforming`: each of these checks the kinds that it has to, so the user and the managed
  layer never hold a value that its key could not be set to;
* `mem_entries_iff`: the listing of any store shows of each registered key the layer that decides;
* `represented_of_reachable`: what follows from the two for a reachable store.
-/
namespace FontPreferences
namespace Preference
namespace Store

/-- The stores that a program can come to.  A preference that is registered again keeps its kind; an
operation that the store refuses leaves it as it was. -/
inductive Reachable : Store → Prop where
  | empty : Reachable .empty
  | fontDefaults : Reachable withFontDefaults
  | register {s : Store} {key : String} {value : Value} (h : Reachable s)
      (hkind : ∀ d, s.default? key = some d → d.kind = value.kind) : Reachable (s.register key value)
  | edit {s : Store} (h : Reachable s) (e : Edit) : Reachable (s.edit e)
  | policy {s : Store} (h : Reachable s) (p : Policy) : Reachable (p.apply s).1

/-! ### The kinds of the layers -/

/-- A default of the same kind makes no value of the layers above unfit. -/
theorem Conforming.register {s : Store} (h : s.Conforming) {key : String} {value : Value}
    (hkind : ∀ d, s.default? key = some d → d.kind = value.kind) :
    (s.register key value).Conforming := by
  -- every default keeps its kind, so no value gets a fault
  have hfault : ∀ k v, s.fault? k v = none → (s.register key value).fault? k v = none := by
    intro k v hv
    obtain ⟨d, hd, hdv⟩ := fault?_eq_none_iff.1 hv
    rw [fault?_eq_none_iff]
    by_cases hk : k = key
    · subst hk
      exact ⟨value, by rw [default?_register, if_pos rfl], (hkind d hd).symm.trans hdv⟩
    · exact ⟨d, by rw [default?_register, if_neg hk, hd], hdv⟩
  exact ⟨fun k v hv => hfault k v (h.user k v hv), fun k v hv => hfault k v (h.managed k v hv)⟩

theorem Reachable.conforming {s : Store} (h : s.Reachable) : s.Conforming := by
  induction h with
  | empty => exact conforming_of_empty rfl rfl
  | fontDefaults => exact overFontDefaults_withFontDefaults.conforming
  | register _ hkind ih => exact ih.register hkind
  | edit _ e ih => exact ih.edit e
  | policy _ p ih =>
    -- a policy is a run of locks
    rw [Policy.apply_fst]
    exact ih.edited _

/-! ### The listing -/

variable {s : Store} {key : String}

/-- The layer that decides what is effective at a key, with the value that it has there. -/
inductive Decides (s : Store) (key : String) : Source → Value → Prop where
  | policy {value : Value} (h : s.managed.get? key = some value) : Decides s key .policy value
  | user {value : Value} (hmanaged : s.managed.get? key = none)
      (h : s.user.get? key = some value) : Decides s key .user value
  | default {value : Value} (hmanaged : s.managed.get? key = none) (huser : s.user.get? key = none)
      (h : s.default? key = some value) : Decides s key .default value

theorem Decides.get? {source : Source} {value : Value} (h : s.Decides key source value) :
    s.get? key = some value := by
  rw [Store.get?]
  cases h with
  | policy h => rw [h, Option.some_or]
  | user hmanaged h => rw [hmanaged, h, Option.none_or, Option.some_or]
  | default hmanaged huser h => rw [hmanaged, huser, Option.none_or, Option.none_or]; exact h

theorem Decides.source? {source : Source} {value : Value} (h : s.Decides key source value) :
    s.source? key = some source := by
  rw [Store.source?, KeyTable.contains, KeyTable.contains, KeyTable.contains]
  cases h with
  | policy h => rw [h]; rfl
  | user hmanaged h => rw [hmanaged, h]; rfl
  | default hmanaged huser h =>
    rw [default?] at h
    rw [hmanaged, huser, h]
    rfl

theorem exists_decides {value : Value} (h : s.get? key = some value) :
    ∃ source, s.Decides key source value := by
  rw [Store.get?] at h
  cases hmanaged : s.managed.get? key with
  | some v =>
    rw [hmanaged, Option.some_or] at h
    exact ⟨.policy, .policy (hmanaged.trans h)⟩
  | none =>
    rw [hmanaged, Option.none_or] at h
    cases huser : s.user.get? key with
    | some v =>
      rw [huser, Option.some_or] at h
      exact ⟨.user, .user hmanaged (huser.trans h)⟩
    | none =>
      rw [huser, Option.none_or] at h
      exact ⟨.default, .default hmanaged huser h⟩

theorem row?_eq_some_iff {e : Entry} :
    s.row? key = some e ↔ e.key = key ∧ s.Decides key e.source e.value := by
  constructor
  · intro h
    refine ⟨key_of_row? h, ?_⟩
    rw [row?] at h
    split at h
    · next value source hvalue hsource =>
      cases h
      obtain ⟨source', hdecides⟩ := exists_decides hvalue
      rw [hdecides.source?, Option.some_inj] at hsource
      exact hsource ▸ hdecides
    · exact absurd h (by simp)
  · rintro ⟨rfl, h⟩
    rw [row?, h.get?, h.source?]

theorem isRegistered_iff : s.isRegistered key = true ↔ ∃ d, s.default? key = some d :=
  Option.isSome_iff_exists

theorem mem_keys_iff : key ∈ s.defaults.keys ↔ s.isRegistered key = true := by
  rw [isRegistered_iff]
  constructor
  · intro h
    obtain ⟨entry, hentry, rfl⟩ := List.mem_map.1 h
    exact ⟨entry.2, KeyTable.get?_of_mem_entries hentry⟩
  · rintro ⟨d, hd⟩
    exact List.mem_map_of_mem (f := Prod.fst) (KeyTable.mem_of_find? hd)

/-- **What a listing shows**, of any store: of every registered key the layer that decides. -/
theorem mem_entries_iff {e : Entry} :
    e ∈ s.entries ↔ s.isRegistered e.key = true ∧ s.Decides e.key e.source e.value := by
  rw [entries_eq, List.mem_filterMap]
  constructor
  · rintro ⟨key, hkey, hrow⟩
    obtain ⟨rfl, hdecides⟩ := row?_eq_some_iff.1 hrow
    exact ⟨mem_keys_iff.1 hkey, hdecides⟩
  · rintro ⟨hkey, hdecides⟩
    exact ⟨e.key, mem_keys_iff.2 hkey, row?_eq_some_iff.2 ⟨rfl, hdecides⟩⟩

/-- The rows of a listing are those of the registered keys, each once and in their order. -/
theorem map_key_entries (s : Store) : s.entries.map Entry.key = s.defaults.keys := by
  rw [entries_eq, List.map_filterMap]
  refine (List.filterMap_congr fun key hkey => ?_).trans List.filterMap_some
  obtain ⟨e, he⟩ := exists_row? hkey
  rw [he, Option.map_some, key_of_row? he]

theorem entries_length (s : Store) : s.entries.length = s.defaults.keys.length := by
  rw [← map_key_entries, List.length_map]

theorem pairwise_keys (s : Store) : s.defaults.keys.Pairwise (· < ·) :=
  List.pairwise_map.2 s.defaults.ascending

/-! ### Reachable stores -/

/-- Layers whose values have the kinds of the defaults, and what can be read off them. -/
structure Represented (s : Store) : Prop where
  user : ∀ key value, s.user.get? key = some value →
    ∃ d, s.default? key = some d ∧ value.kind = d.kind
  managed : ∀ key value, s.managed.get? key = some value →
    ∃ d, s.default? key = some d ∧ value.kind = d.kind
  /-- No key has two rows, and the rows stand in the order of the keys. -/
  ascending : (s.entries.map Entry.key).Pairwise (· < ·)
  keys : ∀ key, key ∈ s.entries.map Entry.key ↔ s.isRegistered key = true
  rows : ∀ e ∈ s.entries, s.Decides e.key e.source e.value ∧
    ∃ d, s.default? e.key = some d ∧ e.value.kind = d.kind
  integer : ∀ key n, s.default? key = some (.integer n) → ∃ m, s.getInteger? key = some m
  text : ∀ key t, s.default? key = some (.text t) → ∃ u, s.getText? key = some u

theorem exists_kind_of_fault? {value : Value} (h : s.fault? key value = none) :
    ∃ d, s.default? key = some d ∧ value.kind = d.kind := by
  obtain ⟨d, hd, hkind⟩ := fault?_eq_none_iff.1 h
  exact ⟨d, hd, hkind.symm⟩

theorem Conforming.kind_of_decides (h : s.Conforming) {d : Value} (hd : s.default? key = some d)
    {source : Source} {value : Value} (hdecides : s.Decides key source value) :
    value.kind = d.kind := by
  obtain ⟨v, hv, hkind⟩ := h.kind_get? hd
  rw [hdecides.get?, Option.some_inj] at hv
  exact hv ▸ hkind

/-- **Every reachable store is well represented.** -/
theorem represented_of_reachable (h : s.Reachable) : s.Represented where
  user key value hv := exists_kind_of_fault? (h.conforming.user key value hv)
  managed key value hv := exists_kind_of_fault? (h.conforming.managed key value hv)
  ascending := by
    rw [map_key_entries]
    exact pairwise_keys s
  keys key := by
    rw [map_key_entries]
    exact mem_keys_iff
  rows e he := by
    obtain ⟨hregistered, hdecides⟩ := mem_entries_iff.1 he
    obtain ⟨d, hd⟩ := isRegistered_iff.1 hregistered
    exact ⟨hdecides, d, hd, h.conforming.kind_of_decides hd hdecides⟩
  integer _ _ hd := h.conforming.exists_getInteger? hd
  text _ _ hd := h.conforming.exists_getText? hd

/-- A preference of its own, loaded and registered again; neither the file nor the policy gets a value
of the wrong kind in. -/
theorem represented_with_zoom :
    let file := FileContent.ofText "\x7b\"zoom\": 90, \"intl.charset_default\": 7\x7d"
    let policy : Policy := ⟨.ofList [(fontSizeKey, .integer 30), ("zoom", .text "wide")]⟩
    let before := (withFontDefaults.register "zoom" (.integer 100)).edit (.load file)
    let s := (policy.apply (before.register "zoom" (.integer 110))).1
    s.Reachable ∧ s.Represented ∧ ⟨"zoom", .integer 90, .user⟩ ∈ s.entries ∧
      ⟨fontSizeKey, .integer 30, .policy⟩ ∈ s.entries ∧
      ⟨charsetKey, .text "ISO-8859-1", .default⟩ ∈ s.entries := by
  intro file policy before s
  have hnew : withFontDefaults.default? "zoom" = none := by decide +kernel
  have hknown : before.default? "zoom" = some (.integer 100) := by decide +kernel +zetaReduce
  have hbefore : before.Reachable :=
    .edit (.register .fontDefaults fun d hd => by simp [hnew] at hd) (.load file)
  have hreachable : s.Reachable := by
    refine .policy (.register hbefore fun d hd => ?_) policy
    rw [hknown, Option.some_inj] at hd
    exact hd ▸ rfl
  exact ⟨hreachable, represented_of_reachable hreachable, by decide +kernel +zetaReduce⟩

end Store
end Preference
end FontPreferences
