import FontPreferences.Proofs.Preference.Reporting

/-
What a load merges into a store.

* `Value.StoredAs stored value`: the JSON value stands for the preference value, as a string or as an
  integer of thirty-two bits; `Value.ofJson?_eq_some_iff`: no other JSON value stands for one;
* `Offers s members key value`: the last member with the key has this value, which is of the kind of
  the key's default;
* `Merged`: a store over which the offered values, and no others, were laid;
  `merged_loadUserFile`: so is the store after a load;
* `loadUserFile_again`: a second load of the file finds nothing to change;
* `load_merges_usable`: all of it, with the files that are refused as a whole.
-/
namespace FontPreferences

namespace Preference

namespace Value

/-- The JSON values that stand for a preference value. -/
inductive StoredAs : Json → Value → Prop where
  | text (t : String) : StoredAs (.text t) (.text t)
  | integer (n : Int32) : StoredAs (.integer n.toInt) (.integer n)

theorem ofJson?_eq_some_iff {stored : Json} {value : Value} :
    ofJson? stored = some value ↔ StoredAs stored value := by
  constructor
  · intro h
    cases stored with
    | text t =>
      cases h
      exact .text t
    | integer n =>
      obtain ⟨m, rfl, rfl⟩ := ofInt?_eq_some_iff.1 h
      exact .integer m
    | null | bool | decimal | array | object | faulty => exact absurd h (by simp [ofJson?])
  · rintro (_ | n)
    · rfl
    · exact ofJson?_toJson (.integer n)

end Value

namespace Store

variable {s s' : Store} {key : String} {value : Value} {members : List (String × Json)}
  {file : FileContent} {loaded : Store × Nat}

/-! ### Offers -/

/-- The value that the members of a file have for a key: the one of the last member with the key, if
it stands for a value of the kind of the key's default. -/
def Offers (s : Store) (members : List (String × Json)) (key : String) (value : Value) : Prop :=
  ∃ stored, members.reverse.lookup key = some stored ∧ Value.StoredAs stored value ∧
    ∃ d, s.default? key = some d ∧ value.kind = d.kind

theorem usable?_eq_some_iff {stored : Json} : s.usable? key stored = some value ↔
    Value.StoredAs stored value ∧ ∃ d, s.default? key = some d ∧ value.kind = d.kind := by
  rw [usable?, Option.filter_eq_some_iff, Value.ofJson?_eq_some_iff, Option.isNone_iff_eq_none,
    fault?_eq_none_iff]
  simp only [eq_comm]

theorem offered?_eq_some_iff : s.offered? members key = some value ↔ s.Offers members key value := by
  rw [offered?, Option.bind_eq_some_iff, KeyTable.get?_ofList]
  simp only [usable?_eq_some_iff, Offers]

theorem offered?_eq_none_iff :
    s.offered? members key = none ↔ ∀ value, ¬s.Offers members key value := by
  simp only [Option.eq_none_iff_forall_ne_some, ne_eq, offered?_eq_some_iff]

/-! ### Merging -/

/-- The values that a file offers, and no others, have been laid over the user layer. -/
structure Merged (s : Store) (members : List (String × Json)) (s' : Store) (count : Nat) :
    Prop where
  offered : ∀ key value, s.Offers members key value → s'.user.get? key = some value
  kept : ∀ key, (∀ value, ¬s.Offers members key value) → s'.user.get? key = s.user.get? key
  /-- The number of keys with an offer. -/
  counted : ∃ keys : List String, keys.Nodup ∧
    (∀ key, key ∈ keys ↔ ∃ value, s.Offers members key value) ∧ count = keys.length
  defaults : s'.defaults = s.defaults
  managed : s'.managed = s.managed
  observers : s'.observers = s.observers
  locked : ∀ key, s.isManaged key = true → s'.get? key = s.get? key ∧ s'.source? key = s.source? key

/-- A load counts the entries that it can use. -/
theorem count_foldl_loadEntry (entries : List (String × Json)) (loaded : Store × Nat) :
    (entries.foldl loadEntry loaded).2
      = loaded.2 + (entries.filter fun e => (loaded.1.usable? e.1 e.2).isSome).length := by
  induction entries generalizing loaded with
  | nil => rfl
  | cons e entries ih =>
    obtain ⟨_, hentry⟩ := exists_user_loadEntry loaded e
    have husable : ∀ key stored, (loadEntry loaded e).1.usable? key stored
        = loaded.1.usable? key stored := usable?_congr (by rw [hentry])
    have hcount : (loadEntry loaded e).2
        = loaded.2 + if (loaded.1.usable? e.1 e.2).isSome then 1 else 0 := by
      rw [loadEntry]
      cases loaded.1.usable? e.1 e.2 <;> rfl
    rw [List.foldl_cons, ih, hcount, List.filter_cons]
    simp only [husable]
    split
    · rw [List.length_cons]
      omega
    · rw [Nat.add_zero]

/-- The keys with an offer are as many as a load counts. -/
theorem exists_keys_loadUserFile (h : file.Holds members)
    (hload : s.loadUserFile file = .ok loaded) : ∃ keys : List String, keys.Nodup ∧
      (∀ key, key ∈ keys ↔ ∃ value, s.Offers members key value) ∧ loaded.2 = keys.length := by
  rw [loadUserFile_of_holds h, Except.ok.injEq] at hload
  have hcount := count_foldl_loadEntry (KeyTable.ofList members).entries (s, 0)
  rw [hload] at hcount
  refine ⟨((KeyTable.ofList members).entries.filter fun e => (s.usable? e.1 e.2).isSome).map (·.1),
    ?_, fun key => ?_, by rw [hcount, List.length_map, Nat.zero_add]⟩
  · have hsorted := (KeyTable.ofList members).ascending.filter fun e => (s.usable? e.1 e.2).isSome
    refine (List.pairwise_map.2 hsorted).imp fun hlt heq => ?_
    exact String.lt_irrefl _ (heq ▸ hlt)
  · simp only [← offered?_eq_some_iff, ← Option.isSome_iff_exists, offered?, List.mem_map,
      List.mem_filter]
    constructor
    · rintro ⟨⟨key, stored⟩, ⟨hmem, husable⟩, rfl⟩
      rw [KeyTable.get?_of_mem_entries hmem]
      exact husable
    · intro hoffered
      cases hstored : (KeyTable.ofList members).get? key with
      | none =>
        rw [hstored] at hoffered
        exact absurd hoffered (by simp)
      | some stored =>
        rw [hstored] at hoffered
        exact ⟨(key, stored), ⟨KeyTable.mem_of_find? hstored, hoffered⟩, rfl⟩

/-- **A load merges what it is offered.** -/
theorem merged_loadUserFile (h : file.Holds members) (hload : s.loadUserFile file = .ok loaded) :
    s.Merged members loaded.1 loaded.2 := by
  have huser : ∀ key, loaded.1.user.get? key = (s.offered? members key).or (s.user.get? key) :=
    user_loadUserFile h hload
  refine
    { offered := fun key value hoffer => ?_
      kept := fun key hnone => ?_
      counted := exists_keys_loadUserFile h hload
      defaults := loadUserFile_defaults hload
      managed := loadUserFile_managed hload
      observers := loadUserFile_observers hload
      locked := fun key hlocked => ?_ }
  · rw [huser, offered?_eq_some_iff.2 hoffer, Option.some_or]
  · rw [huser, offered?_eq_none_iff.2 hnone, Option.none_or]
  · obtain ⟨value, hvalue⟩ := Option.isSome_iff_exists.1 hlocked
    have hvalue' : loaded.1.managed.get? key = some value := by
      rw [loadUserFile_managed hload]
      exact hvalue
    rw [get?_of_managed hvalue, get?_of_managed hvalue', source?_of_managed hvalue,
      source?_of_managed hvalue']
    exact ⟨rfl, rfl⟩

/-- **A second load of a file changes nothing**, and counts the same entries. -/
theorem loadUserFile_again (hload : s.loadUserFile file = .ok loaded) :
    loaded.1.loadUserFile file = .ok loaded := by
  obtain ⟨members, h⟩ := exists_loadUserFile_iff.1 ⟨loaded, hload⟩
  obtain ⟨again, hagain⟩ : ∃ again, loaded.1.loadUserFile file = .ok again :=
    exists_loadUserFile_iff.2 ⟨members, h⟩
  rw [hagain, Except.ok.injEq]
  -- what is usable depends on the defaults, which the first load left alone
  have husable : ∀ key stored, loaded.1.usable? key stored = s.usable? key stored :=
    usable?_congr (loadUserFile_defaults hload)
  have huser : again.1.user = loaded.1.user := by
    refine KeyTable.ext fun key => ?_
    rw [user_loadUserFile h hagain, user_loadUserFile h hload, funext (husable key),
      ← Option.or_assoc, Option.or_self]
  have hcount : again.2 = loaded.2 := by
    rw [loadUserFile_of_holds h, Except.ok.injEq] at hload hagain
    rw [← hagain, count_foldl_loadEntry]
    simp only [husable]
    rw [← hload, count_foldl_loadEntry]
  obtain ⟨user, hstore⟩ := exists_user_loadUserFile hagain
  have hstore' : again.1 = loaded.1 := by
    rw [hstore] at huser
    rw [hstore, show user = loaded.1.user from huser]
  exact Prod.ext hstore' hcount

/-- **What a load does, whatever stands at the path and whatever the store holds.**  A missing file
changes nothing; what is not text, or text that the reader does not take for a JSON object, is refused
and leaves the store as it is; and from an object the usable members are merged, once and for all.
The reader also refuses an object with a number beyond the doubles, with a half of a surrogate pair or
with too deep a nesting; to it `-0` is no integer. -/
theorem load_merges_usable (s : Store) (file : FileContent) :
    s.loadUserFile .missing = .ok (s, 0) ∧
      ((∃ members, file.Holds members) ∨ ∃ e, file.Unloadable e) ∧
      (∀ e, file.Unloadable e → s.loadUserFile file = .error e ∧ s.edit (.load file) = s) ∧
      ∀ members, file.Holds members → ∃ s' count, s.loadUserFile file = .ok (s', count) ∧
        s.Merged members s' count ∧ s'.loadUserFile file = .ok (s', count) := by
  refine ⟨rfl, file.holds_or_unloadable, fun e he => ?_, fun members h => ?_⟩
  · have herror : s.loadUserFile file = .error e := loadUserFile_of_unloadable he
    exact ⟨herror, by rw [edit, herror]⟩
  · obtain ⟨loaded, hload⟩ := exists_loadUserFile_iff.2 ⟨members, h⟩
    exact ⟨loaded.1, loaded.2, hload, merged_loadUserFile h hload, loadUserFile_again hload⟩

/-- Of two sizes for one key the last is merged, under a lock here; a number for the character set and
a key that nobody registered are passed over. -/
theorem load_merges_last_size :
    let s := withFontDefaults.attemptLock fontSizeKey (.integer 24)
    let text := "\x7b\"webkit.webprefs.default_font_size\": 18, \"intl.charset_default\": 7,
      \"webkit.webprefs.default_font_size\": 20, \"unknown\": -0\x7d"
    ∃ s', s.loadUserFile (.ofText text) = .ok (s', 1) ∧
      s'.user.get? fontSizeKey = some (.integer 20) ∧ s'.user.get? charsetKey = none ∧
      s'.get? fontSizeKey = some (.integer 24) ∧ s'.loadUserFile (.ofText text) = .ok (s', 1) := by
  intro s text
  have hscan : Json.Token.scan text = some [.openBrace, .text fontSizeKey.toList, .colon,
      .integer 18, .comma, .text charsetKey.toList, .colon, .integer 7, .comma,
      .text fontSizeKey.toList, .colon, .integer 20, .comma, .text "unknown".toList, .colon, .decimal,
      .closeBrace] := by
    decide +kernel +zetaReduce
  have hholds : (FileContent.ofText text).Holds [(fontSizeKey, .integer 18),
      (charsetKey, .integer 7), (fontSizeKey, .integer 20), ("unknown", .decimal)] :=
    .object (by rw [Json.read?, hscan]; rfl)
  obtain ⟨s', count, hload, hmerged, hagain⟩ := (load_merges_usable s (.ofText text)).2.2.2 _ hholds
  obtain rfl : count = 1 := by
    rw [loadUserFile_of_holds hholds, Except.ok.injEq] at hload
    rw [← show _ = count from congrArg Prod.snd hload]
    decide +kernel +zetaReduce
  have hlocked : s.managed.get? fontSizeKey = some (.integer 24) := by decide +kernel +zetaReduce
  refine ⟨s', hload, hmerged.offered _ _ ⟨_, rfl, .integer 20, .integer 16, by decide, rfl⟩, ?_, ?_,
    hagain⟩
  · rw [hmerged.kept charsetKey (offered?_eq_none_iff.1 (by decide +kernel +zetaReduce))]
    rfl
  · exact get?_of_managed (by rw [hmerged.managed]; exact hlocked)

end Store
end Preference
end FontPreferences
