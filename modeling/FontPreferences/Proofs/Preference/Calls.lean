import FontPreferences.Proofs.Preference.Mirror
import FontPreferences.Proofs.Preference.Representation

/-
Which calls a store refuses, and what the others do.

* `Cause s key value barred e`: `e` is the first cause there is to refuse a value at a key;
  `set_eq_error_iff`, `setManaged_eq_error_iff`, `clear_eq_error_iff`: each call is refused for its
  cause, and for no other;
* `Overrides s s' key value source`: in `s'` the value is the effective one of the key and comes from
  `source`, and every other key has the value and the source that it has in `s`;
  `overrides_set`, `overrides_setManaged`, `overrides_clear`: what the calls that are accepted do;
* `calls_classified`: all of it, and that a call which is refused changes nothing.
-/
namespace FontPreferences
namespace Preference
namespace Store

variable {s s' : Store} {key : String} {value : Value} {barred : Prop} {e : StoreError}

/-! ### Causes -/

/-- The cause to refuse a value at a key, the first that applies: the key is not registered, its
default is of another kind, or it is barred. -/
inductive Cause (s : Store) (key : String) (value : Value) (barred : Prop) : StoreError → Prop where
  | unknown (h : s.isRegistered key = false) : Cause s key value barred (.unknown key)
  | mistyped {d : Value} (h : s.default? key = some d) (hkind : value.kind ≠ d.kind) :
      Cause s key value barred (.kindMismatch key d.kind)
  | managed {d : Value} (h : s.default? key = some d) (hkind : value.kind = d.kind)
      (hbarred : barred) : Cause s key value barred (.managed key)

theorem default?_eq_none_iff : s.default? key = none ↔ s.isRegistered key = false :=
  Option.isNone_iff_eq_none.symm.trans Option.isSome_eq_false_iff.symm

theorem cause_iff : s.Cause key value barred e ↔ s.fault? key value = some e ∨
    s.fault? key value = none ∧ barred ∧ e = .managed key := by
  constructor
  · rintro (h | ⟨h, hkind⟩ | ⟨h, hkind, hbarred⟩)
    · rw [fault?, default?_eq_none_iff.2 h]
      exact .inl rfl
    · rw [fault?, h]
      exact .inl (if_neg hkind.symm)
    · exact .inr ⟨fault?_eq_none_iff.2 ⟨_, h, hkind.symm⟩, hbarred, rfl⟩
  · rintro (h | ⟨h, hbarred, rfl⟩)
    · rw [fault?] at h
      split at h
      · next hnone =>
        cases h
        exact .unknown (default?_eq_none_iff.1 hnone)
      · next d hd =>
        split at h
        · exact absurd h (by simp)
        · next hkind =>
          cases h
          exact .mistyped hd (Ne.symm hkind)
    · obtain ⟨d, hd, hkind⟩ := fault?_eq_none_iff.1 h
      exact .managed hd hkind.symm hbarred

/-- **Why a store refuses a value of the user's.** -/
theorem set_eq_error_iff {origin : String} : s.set key value origin = .error e ↔
    s.Cause key value (s.isManaged key = true) e := by
  rw [cause_iff, set]
  cases s.fault? key value with
  | some e' => simp
  | none => cases s.isManaged key <;> simp [eq_comm]

/-- **Why a store refuses a value of policy.** -/
theorem setManaged_eq_error_iff : s.setManaged key value = .error e ↔
    s.Cause key value False e := by
  rw [cause_iff, setManaged]
  cases s.fault? key value <;> simp

/-- **Why a store refuses to drop a value.** -/
theorem clear_eq_error_iff :
    s.clear key = .error e ↔ s.isRegistered key = false ∧ e = .unknown key := by
  rw [clear]
  cases s.isRegistered key <;> simp [eq_comm]

/-- There is no cause if the key has a default of the kind of the value and is not barred. -/
theorem forall_not_cause_iff : (∀ e, ¬s.Cause key value barred e) ↔
    ∃ d, s.default? key = some d ∧ value.kind = d.kind ∧ ¬barred := by
  constructor
  · intro h
    cases hd : s.default? key with
    | none => exact absurd (.unknown (default?_eq_none_iff.1 hd)) (h _)
    | some d =>
      have hkind : value.kind = d.kind := by
        by_contra hne
        exact h _ (.mistyped hd hne)
      exact ⟨d, rfl, hkind, fun hbarred => h _ (.managed hd hkind hbarred)⟩
  · rintro ⟨d, hd, hkind, hfree⟩ e (h | ⟨hd', hne⟩ | ⟨-, -, hbarred⟩)
    · rw [default?_eq_none_iff.2 h] at hd
      exact absurd hd (by simp)
    · rw [hd, Option.some_inj] at hd'
      exact hne (hd' ▸ hkind)
    · exact hfree hbarred

/-! ### Effects -/

/-- Every key but one has the effective value and the source that it had before. -/
def SameBut (s s' : Store) (key : String) : Prop :=
  ∀ k, k ≠ key → s'.get? k = s.get? k ∧ s'.source? k = s.source? k

/-- A value is the effective one at its key, and nothing else has changed. -/
structure Overrides (s s' : Store) (key : String) (value : Value) (source : Source) : Prop where
  value : s'.get? key = some value
  source : s'.source? key = some source
  others : s.SameBut s' key

/-- Layers that differ at one key are the same to every other. -/
theorem sameBut_of_layers (hdefaults : s'.defaults = s.defaults)
    (huser : ∀ k, k ≠ key → s'.user.get? k = s.user.get? k)
    (hmanaged : ∀ k, k ≠ key → s'.managed.get? k = s.managed.get? k) : s.SameBut s' key := by
  intro k hk
  have hdefault : s'.defaults.get? k = s.defaults.get? k := by rw [hdefaults]
  exact ⟨get?_congr hdefault (huser k hk) (hmanaged k hk),
    source?_congr hdefault (huser k hk) (hmanaged k hk)⟩

theorem overrides_set {origin : String} (h : s.set key value origin = .ok s') :
    s.Overrides s' key value .user := by
  obtain ⟨hfault, hfree, rfl⟩ := set_eq_ok_iff.1 h
  have huser := user_attempt hfault hfree origin
  have hmanaged := attempt_managed s key value origin
  have hdecides : (s.attempt key value origin).Decides key .user value :=
    .user (hmanaged ▸ get?_eq_none_of_isManaged hfree) (by rw [huser, if_pos rfl])
  exact ⟨hdecides.get?, hdecides.source?, sameBut_of_layers (attempt_defaults s key value origin)
    (fun k hk => by rw [huser, if_neg hk]) fun k _ => by rw [hmanaged]⟩

theorem setManaged_eq_ok_iff : s.setManaged key value = .ok s' ↔
    s.fault? key value = none ∧ s' = s.attemptLock key value := by
  rw [attemptLock, setManaged]
  cases s.fault? key value <;> simp [eq_comm]

theorem overrides_setManaged (h : s.setManaged key value = .ok s') :
    s.Overrides s' key value .policy := by
  obtain ⟨hfault, rfl⟩ := setManaged_eq_ok_iff.1 h
  have hmanaged := managed_attemptLock s key value
  have huser := attemptLock_user s key value
  have hdecides : (s.attemptLock key value).Decides key .policy value :=
    .policy (by rw [hmanaged, if_pos ⟨rfl, hfault⟩])
  exact ⟨hdecides.get?, hdecides.source?, sameBut_of_layers (attemptLock_defaults s key value)
    (fun k _ => by rw [huser]) fun k hk => by rw [hmanaged, if_neg fun h => hk h.1]⟩

theorem clear_eq_ok_iff : s.clear key = .ok s' ↔
    s.isRegistered key = true ∧ s' = s.attemptClear key := by
  rw [attemptClear, clear]
  cases s.isRegistered key <;> simp [eq_comm]

theorem user_attemptClear (h : s.isRegistered key = true) (k : String) :
    (s.attemptClear key).user.get? k = if k = key then none else s.user.get? k := by
  rw [attemptClear, clear, if_pos h]
  dsimp only
  rw [notifyIfChanged_user]
  exact KeyTable.get?_erase s.user key k

/-- A key whose value of the user's was dropped has the one of policy, else its default. -/
theorem overrides_clear (h : s.clear key = .ok s') :
    s'.get? key = (s.managed.get? key).or (s.default? key) ∧ s.SameBut s' key := by
  obtain ⟨hregistered, rfl⟩ := clear_eq_ok_iff.1 h
  have huser := user_attemptClear hregistered
  have hmanaged := attemptClear_managed s key
  have hdefaults := attemptClear_defaults s key
  refine ⟨?_, sameBut_of_layers hdefaults (fun k hk => by rw [huser, if_neg hk])
    fun k _ => by rw [hmanaged]⟩
  rw [get?, huser, if_pos rfl, hmanaged, hdefaults, Option.none_or, default?]

/-! ### Calls -/

/-- How a write comes out: it is refused for the first cause there is, and else its value overrides
the one of the key. -/
structure Classified (s : Store) (key : String) (value : Value) (barred : Prop) (source : Source)
    (result : Except StoreError Store) : Prop where
  refused : ∀ e, result = .error e ↔ s.Cause key value barred e
  accepted : (∃ s', result = .ok s') ↔
    ∃ d, s.default? key = some d ∧ value.kind = d.kind ∧ ¬barred
  overrides : ∀ s', result = .ok s' → s.Overrides s' key value source

theorem Classified.of_refused {source : Source} {result : Except StoreError Store}
    (hrefused : ∀ e, result = .error e ↔ s.Cause key value barred e)
    (hoverrides : ∀ s', result = .ok s' → s.Overrides s' key value source) :
    s.Classified key value barred source result := by
  refine ⟨hrefused, ?_, hoverrides⟩
  rw [← forall_not_cause_iff]
  simp only [← hrefused]
  cases result <;> simp

/-- **Calls are classified exactly, and change nothing if they fail.**  Over every store, at every key:

* a value of the user's is refused for a key that is not registered, else for a kind that is not the
  default's, else for a lock, and accepted otherwise;
* a value of policy likewise, except that no lock keeps it out; a value is dropped if the key is
  registered;
* what is accepted is effective at its key from then on, and no other key has another value or source
  than before;
* after a refusal the layers are those of before, and nobody has received anything. -/
theorem calls_classified (s : Store) (key : String) (value : Value) (origin : String) :
    s.Classified key value (s.isManaged key = true) .user (s.set key value origin) ∧
    s.Classified key value False .policy (s.setManaged key value) ∧
    (∀ e, s.clear key = .error e ↔ s.isRegistered key = false ∧ e = .unknown key) ∧
    (∀ s', s.clear key = .ok s' →
      s'.get? key = (s.managed.get? key).or (s.default? key) ∧ s.SameBut s' key) ∧
    ∀ call, s.Refuses call → s.SameLayers (s.edit call) ∧
      ∀ o, (s.edit call).pending? o = s.pending? o := by
  refine ⟨.of_refused (fun e => set_eq_error_iff) fun s' => overrides_set,
    .of_refused (fun e => setManaged_eq_error_iff) fun s' => overrides_setManaged,
    fun e => clear_eq_error_iff, fun s' => overrides_clear, fun call hrefuses => ?_⟩
  rw [edit_of_refuses hrefuses]
  exact ⟨⟨rfl, rfl, rfl⟩, fun o => rfl⟩

/-- A text for the locked font size is refused for its kind and not for the lock. -/
theorem calls_classified_locked_size :
    let s := withFontDefaults.attemptLock fontSizeKey (.integer 20)
    s.isManaged fontSizeKey = true ∧
      s.set fontSizeKey (.text "large") "page" = .error (.kindMismatch fontSizeKey .integer) ∧
      s.set fontSizeKey (.integer 9) "page" = .error (.managed fontSizeKey) := by
  intro s
  have hlocked : s.isManaged fontSizeKey = true := by decide +kernel +zetaReduce
  have hdefault : s.default? fontSizeKey = some (.integer 16) := by decide +kernel +zetaReduce
  refine ⟨hlocked, ?_, ?_⟩
  · exact ((calls_classified s fontSizeKey (.text "large") "page").1.refused _).2
      (.mistyped hdefault (by decide))
  · exact ((calls_classified s fontSizeKey (.integer 9) "page").1.refused _).2
      (.managed hdefault rfl hlocked)

end Store
end Preference
end FontPreferences
