import FontPreferences.Preference.Store

/-
What a store tells an observer, and what silence says.

* `Told s s' told`: in the step from `s` to `s'` every observer was told the same, one change at most,
  which is all that the step did to the effective values;
* `told_attempt`, `told_attemptClear`, `told_attemptLock`: each way to change a store tells what it
  does, accepted or refused;
* `Quiet s o`: observer `o` has taken every change that it was told of;
* `Announced s s' o`: whatever the step from `s` to `s'` did to an effective value waits for `o` in
  `s'`; so if `o` is quiet after the step, it was quiet before and no effective value has changed.

`attempt`, `attemptClear` and `attemptLock` are the operations as a caller meets them who goes on
after a refusal.
-/
namespace FontPreferences
namespace Preference
namespace Store

/-- Whether an observer has taken every change that it was told of. -/
def Quiet (s : Store) (o : Nat) : Prop :=
  s.pending? o = some []

instance (s : Store) (o : Nat) : Decidable (s.Quiet o) :=
  inferInstanceAs (Decidable (_ = _))

/-- Sets the user's value of a key, unless the store refuses. -/
def attempt (s : Store) (key : String) (value : Value) (origin : String) : Store :=
  match s.set key value origin with
  | .ok s' => s'
  | .error _ => s

/-- Drops the user's value of a key, unless the store refuses. -/
def attemptClear (s : Store) (key : String) : Store :=
  match s.clear key with
  | .ok s' => s'
  | .error _ => s

/-- Locks a key to a value, unless the store refuses. -/
def attemptLock (s : Store) (key : String) (value : Value) : Store :=
  match s.setManaged key value with
  | .ok s' => s'
  | .error _ => s

/-! ### What a notification leaves alone -/

section notifyIfChanged

variable (s : Store) (key : String) (before : Option Value) (origin : String)

theorem notifyIfChanged_defaults : (s.notifyIfChanged key before origin).defaults = s.defaults := by
  rw [notifyIfChanged]
  split
  · rfl
  · split <;> rfl

theorem notifyIfChanged_user : (s.notifyIfChanged key before origin).user = s.user := by
  rw [notifyIfChanged]
  split
  · rfl
  · split <;> rfl

theorem notifyIfChanged_managed : (s.notifyIfChanged key before origin).managed = s.managed := by
  rw [notifyIfChanged]
  split
  · rfl
  · split <;> rfl

theorem get?_notifyIfChanged (k : String) :
    (s.notifyIfChanged key before origin).get? k = s.get? k := by
  rw [get?, notifyIfChanged_managed, notifyIfChanged_user, notifyIfChanged_defaults, get?]

end notifyIfChanged

theorem pending?_notify (s : Store) (c : Change) (o : Nat) :
    (s.notify c).pending? o = (s.pending? o).map (· ++ [c]) := by
  unfold pending? notify
  rw [List.getElem?_map]
  rcases s.observers[o]? with _ | ⟨pending⟩ | _ <;> rfl

/-- Nobody who has just been told of a change is quiet. -/
theorem not_quiet_notify (s : Store) (c : Change) (o : Nat) : ¬(s.notify c).Quiet o := by
  intro h
  rw [Quiet, pending?_notify, Option.map_eq_some_iff] at h
  obtain ⟨pending, -, h⟩ := h
  exact absurd h (by simp)

section congr

variable {s s' : Store} (h : ∀ k, s'.get? k = s.get? k)
include h

theorem getInteger?_congr (key : String) : s'.getInteger? key = s.getInteger? key := by
  rw [getInteger?, h, getInteger?]

theorem getText?_congr (key : String) : s'.getText? key = s.getText? key := by
  rw [getText?, h, getText?]

end congr

/-! ### Announced steps -/

/-- Whatever the step from `s` to `s'` did to an effective value waits for the observer in `s'`. -/
structure Announced (s s' : Store) (o : Nat) : Prop where
  quiet : s'.Quiet o → s.Quiet o ∧ ∀ k, s'.get? k = s.get? k
  isSome : (s'.pending? o).isSome = (s.pending? o).isSome

theorem Announced.refl (s : Store) (o : Nat) : Announced s s o :=
  ⟨fun h => ⟨h, fun _ => rfl⟩, rfl⟩

theorem Announced.trans {s s' s'' : Store} {o : Nat} (h : Announced s s' o)
    (h' : Announced s' s'' o) : Announced s s'' o := by
  refine ⟨fun hq => ?_, h'.isSome.trans h.isSome⟩
  obtain ⟨hq', hget'⟩ := h'.quiet hq
  obtain ⟨hq, hget⟩ := h.quiet hq'
  exact ⟨hq, fun k => (hget' k).trans (hget k)⟩

/-! ### What a step tells -/

/-- A view of effective values after changes, one after the other. -/
def mirrored (view : String → Option Value) (changes : List Change) : String → Option Value :=
  changes.foldl (fun view c key => if key = c.key then some c.value else view key) view

theorem mirrored_append (view : String → Option Value) (changes more : List Change) :
    mirrored view (changes ++ more) = mirrored (mirrored view changes) more :=
  List.foldl_append

/-- In the step from `s` to `s'` every observer was told the same, and all that there was to tell. -/
structure Told (s s' : Store) (told : Option Change) : Prop where
  pending : ∀ o, s'.pending? o = (s.pending? o).map (· ++ told.toList)
  mirror : s'.get? = mirrored s.get? told.toList
  new : ∀ c, told = some c → s.get? c.key ≠ some c.value

theorem Told.refl (s : Store) : Told s s none := by
  refine ⟨fun o => ?_, rfl, fun c hc => absurd hc (by simp)⟩
  simp

theorem Told.announced {s s' : Store} {told : Option Change} (h : Told s s' told) (o : Nat) :
    Announced s s' o := by
  refine ⟨fun hq => ?_, by rw [h.pending, Option.isSome_map]⟩
  rw [Quiet, h.pending, Option.map_eq_some_iff] at hq
  obtain ⟨pending, hpending, hnil⟩ := hq
  obtain ⟨rfl, htold⟩ := List.append_eq_nil_iff.1 hnil
  refine ⟨hpending, fun k => ?_⟩
  rw [h.mirror, htold]
  rfl

/-- A notification about a key tells all that a change of the layers at this key does, provided that
the key keeps an effective value. -/
theorem told_notifyIfChanged {s t : Store} {key : String} {origin : String}
    (hobservers : t.observers = s.observers) (hother : ∀ k, k ≠ key → t.get? k = s.get? k)
    (hkey : t.get? key = none → s.get? key = none) :
    ∃ told, Told s (t.notifyIfChanged key (s.get? key) origin) told := by
  have hpending : ∀ o, t.pending? o = s.pending? o := by
    intro o
    unfold pending?
    rw [hobservers]
  -- an effective value that stays at the key stays everywhere
  have hsame : t.get? key = s.get? key → Told s t none := by
    intro hstays
    refine ⟨fun o => by simp [hpending], funext fun k => ?_, fun c hc => absurd hc (by simp)⟩
    by_cases hk : k = key
    · rw [hk, hstays]
      rfl
    · exact hother k hk
  rw [notifyIfChanged]
  cases hvalue : t.get? key with
  | none => exact ⟨none, hsame (hvalue.trans (hkey hvalue).symm)⟩
  | some value =>
    dsimp only
    by_cases hbefore : s.get? key = some value
    · rw [if_pos hbefore]
      exact ⟨none, hsame (hvalue.trans hbefore.symm)⟩
    · rw [if_neg hbefore]
      refine ⟨some ⟨key, value, origin⟩, fun o => ?_, funext fun k => ?_, fun c hc => ?_⟩
      · rw [pending?_notify, hpending]
        rfl
      · show t.get? k = if k = key then some value else s.get? k
        by_cases hk : k = key
        · rw [if_pos hk, hk, hvalue]
        · rw [if_neg hk, hother k hk]
      · cases hc
        exact hbefore

/-! ### Setting a value -/

theorem set_eq_ok {s : Store} {key : String} {value : Value} (hfault : s.fault? key value = none)
    (hmanaged : s.isManaged key = false) (origin : String) :
    s.set key value origin = .ok
      ({ s with user := s.user.insert key value }.notifyIfChanged key (s.get? key) origin) := by
  rw [set]
  rw [hfault]
  simp [hmanaged]

theorem set_cases (s : Store) (key : String) (value : Value) (origin : String) :
    (s.fault? key value = none ∧ s.isManaged key = false) ∨ s.attempt key value origin = s := by
  rw [attempt, set]
  cases hfault : s.fault? key value with
  | some e => exact .inr rfl
  | none =>
    cases hmanaged : s.isManaged key with
    | true => exact .inr rfl
    | false => exact .inl ⟨rfl, rfl⟩

theorem fault?_eq_none_iff {s : Store} {key : String} {value : Value} :
    s.fault? key value = none ↔ ∃ d, s.default? key = some d ∧ d.kind = value.kind := by
  rw [fault?]
  cases s.default? key <;> simp

/-- Which values a store accepts. -/
theorem set_eq_ok_iff {s s' : Store} {key : String} {value : Value} {origin : String} :
    s.set key value origin = .ok s' ↔ s.fault? key value = none ∧ s.isManaged key = false ∧
      s' = s.attempt key value origin := by
  rw [attempt, set]
  cases s.fault? key value with
  | some e => simp
  | none => cases s.isManaged key <;> simp [eq_comm]

theorem attempt_of_accepted {s : Store} {key : String} {value : Value}
    (hfault : s.fault? key value = none) (hmanaged : s.isManaged key = false) (origin : String) :
    s.attempt key value origin
      = { s with user := s.user.insert key value }.notifyIfChanged key (s.get? key) origin := by
  rw [attempt, set_eq_ok hfault hmanaged]

/-- Writing to a key that policy locks changes nothing. -/
theorem attempt_of_isManaged {s : Store} {key : String} (h : s.isManaged key = true) (value : Value)
    (origin : String) : s.attempt key value origin = s := by
  rcases set_cases s key value origin with ⟨-, hm⟩ | hs
  · rw [h] at hm
    exact absurd hm (by simp)
  · exact hs

theorem get?_eq_none_of_isManaged {s : Store} {key : String} (h : s.isManaged key = false) :
    s.managed.get? key = none := by
  rw [isManaged, KeyTable.contains] at h
  exact Option.isSome_eq_false_iff.1 h |> Option.isNone_iff_eq_none.1

/-- An accepted value is the effective one. -/
theorem get?_attempt_self {s : Store} {key : String} {value : Value}
    (hfault : s.fault? key value = none) (hmanaged : s.isManaged key = false) (origin : String) :
    (s.attempt key value origin).get? key = some value := by
  rw [attempt_of_accepted hfault hmanaged, get?_notifyIfChanged, get?]
  simp [get?_eq_none_of_isManaged hmanaged, KeyTable.get?_insert]

theorem get?_attempt_of_ne {s : Store} {key k : String} (hk : k ≠ key) (value : Value)
    (origin : String) : (s.attempt key value origin).get? k = s.get? k := by
  rcases set_cases s key value origin with ⟨hfault, hmanaged⟩ | hrefused
  · rw [attempt_of_accepted hfault hmanaged, get?_notifyIfChanged, get?, KeyTable.get?_insert,
      if_neg hk, get?]
  · rw [hrefused]

theorem user_attempt_of_ne {s : Store} {key k : String} (hk : k ≠ key) (value : Value)
    (origin : String) : (s.attempt key value origin).user.get? k = s.user.get? k := by
  rcases set_cases s key value origin with ⟨hfault, hmanaged⟩ | hrefused
  · rw [attempt_of_accepted hfault hmanaged, notifyIfChanged_user, KeyTable.get?_insert, if_neg hk]
  · rw [hrefused]

theorem attempt_defaults (s : Store) (key : String) (value : Value) (origin : String) :
    (s.attempt key value origin).defaults = s.defaults := by
  rcases set_cases s key value origin with ⟨hfault, hmanaged⟩ | hs
  · rw [attempt_of_accepted hfault hmanaged, notifyIfChanged_defaults]
  · rw [hs]

theorem attempt_managed (s : Store) (key : String) (value : Value) (origin : String) :
    (s.attempt key value origin).managed = s.managed := by
  rcases set_cases s key value origin with ⟨hfault, hmanaged⟩ | hs
  · rw [attempt_of_accepted hfault hmanaged, notifyIfChanged_managed]
  · rw [hs]

theorem told_attempt (s : Store) (key : String) (value : Value) (origin : String) :
    ∃ told, Told s (s.attempt key value origin) told := by
  rcases set_cases s key value origin with ⟨hfault, hmanaged⟩ | hs
  · rw [attempt_of_accepted hfault hmanaged]
    refine told_notifyIfChanged rfl (fun k hk => ?_) fun hnone => ?_
    · simp [get?, KeyTable.get?_insert, hk]
    · simp [get?, KeyTable.get?_insert] at hnone
  · rw [hs]
    exact ⟨none, .refl s⟩

theorem announced_attempt (s : Store) (key : String) (value : Value) (origin : String) (o : Nat) :
    Announced s (s.attempt key value origin) o := by
  obtain ⟨told, htold⟩ := told_attempt s key value origin
  exact htold.announced o

/-! ### Dropping a value -/

theorem clear_cases (s : Store) (key : String) :
    s.attemptClear key = s ∨ (s.isRegistered key = true ∧ s.attemptClear key
      = { s with user := s.user.erase key }.notifyIfChanged key (s.get? key) "") := by
  rw [attemptClear, clear]
  cases h : s.isRegistered key with
  | false => exact .inl rfl
  | true => exact .inr ⟨rfl, rfl⟩

theorem attemptClear_defaults (s : Store) (key : String) :
    (s.attemptClear key).defaults = s.defaults := by
  rcases clear_cases s key with hs | ⟨-, hs⟩
  · rw [hs]
  · rw [hs, notifyIfChanged_defaults]

theorem attemptClear_managed (s : Store) (key : String) :
    (s.attemptClear key).managed = s.managed := by
  rcases clear_cases s key with hs | ⟨-, hs⟩
  · rw [hs]
  · rw [hs, notifyIfChanged_managed]

theorem user_attemptClear_of_ne {s : Store} {key k : String} (hk : k ≠ key) :
    (s.attemptClear key).user.get? k = s.user.get? k := by
  rcases clear_cases s key with hs | ⟨-, hs⟩
  · rw [hs]
  · rw [hs, notifyIfChanged_user, KeyTable.get?_erase, if_neg hk]

theorem told_attemptClear (s : Store) (key : String) : ∃ told, Told s (s.attemptClear key) told := by
  rcases clear_cases s key with hs | ⟨hregistered, hs⟩
  · rw [hs]
    exact ⟨none, .refl s⟩
  · rw [hs]
    refine told_notifyIfChanged rfl (fun k hk => ?_) fun hnone => ?_
    · simp [get?, KeyTable.get?_erase, hk]
    · -- a registered key keeps its default under every value that goes
      rw [isRegistered, KeyTable.contains] at hregistered
      simp [get?, KeyTable.get?_erase] at hnone
      rw [hnone.2] at hregistered
      exact absurd hregistered (by simp)

theorem announced_attemptClear (s : Store) (key : String) (o : Nat) :
    Announced s (s.attemptClear key) o := by
  obtain ⟨told, htold⟩ := told_attemptClear s key
  exact htold.announced o

/-! ### Locking a key -/

theorem lock_cases (s : Store) (key : String) (value : Value) :
    s.attemptLock key value = s ∨ (s.fault? key value = none ∧ s.attemptLock key value
      = { s with managed := s.managed.insert key value }.notifyIfChanged key (s.get? key)
        "policy") := by
  rw [attemptLock, setManaged]
  cases hfault : s.fault? key value with
  | some e => exact .inl rfl
  | none => exact .inr ⟨rfl, rfl⟩

theorem attemptLock_defaults (s : Store) (key : String) (value : Value) :
    (s.attemptLock key value).defaults = s.defaults := by
  rcases lock_cases s key value with hs | ⟨-, hs⟩
  · rw [hs]
  · rw [hs, notifyIfChanged_defaults]

theorem attemptLock_user (s : Store) (key : String) (value : Value) :
    (s.attemptLock key value).user = s.user := by
  rcases lock_cases s key value with hs | ⟨-, hs⟩
  · rw [hs]
  · rw [hs, notifyIfChanged_user]

/-- A lock is never taken off again. -/
theorem isManaged_attemptLock {s : Store} {k : String} (h : s.isManaged k = true) (key : String)
    (value : Value) : (s.attemptLock key value).isManaged k = true := by
  rcases lock_cases s key value with hs | ⟨-, hs⟩
  · rw [hs]
    exact h
  · rw [hs, isManaged, notifyIfChanged_managed, KeyTable.contains, KeyTable.get?_insert]
    by_cases hk : k = key
    · simp [hk]
    · rw [if_neg hk]
      exact h

theorem told_attemptLock (s : Store) (key : String) (value : Value) :
    ∃ told, Told s (s.attemptLock key value) told := by
  rcases lock_cases s key value with hs | ⟨-, hs⟩
  · rw [hs]
    exact ⟨none, .refl s⟩
  · rw [hs]
    refine told_notifyIfChanged rfl (fun k hk => ?_) fun hnone => ?_
    · simp [get?, KeyTable.get?_insert, hk]
    · simp [get?, KeyTable.get?_insert] at hnone

theorem announced_attemptLock (s : Store) (key : String) (value : Value) (o : Nat) :
    Announced s (s.attemptLock key value) o := by
  obtain ⟨told, htold⟩ := told_attemptLock s key value
  exact htold.announced o

/-! ### Taking the changes -/

theorem drain_defaults (s : Store) (o : Nat) : (s.drain o).1.defaults = s.defaults := by
  rw [drain]
  split <;> rfl

theorem drain_managed (s : Store) (o : Nat) : (s.drain o).1.managed = s.managed := by
  rw [drain]
  split <;> rfl

theorem drain_user (s : Store) (o : Nat) : (s.drain o).1.user = s.user := by
  rw [drain]
  split <;> rfl

theorem get?_drain (s : Store) (o : Nat) (k : String) : (s.drain o).1.get? k = s.get? k := by
  rw [get?, drain_managed, drain_user, drain_defaults, get?]

theorem drain_snd (s : Store) (o : Nat) : (s.drain o).2 = s.pending? o := by
  rw [drain]
  split <;> simp_all

theorem lt_length_of_pending? {s : Store} {o : Nat} (h : (s.pending? o).isSome = true) :
    o < s.observers.length := by
  rcases Nat.lt_or_ge o s.observers.length with hlt | hge
  · exact hlt
  · rw [pending?, List.getElem?_eq_none hge] at h
    exact absurd h (by simp)

/-- Who is subscribed is quiet after taking the changes. -/
theorem quiet_drain {s : Store} {o : Nat} (h : (s.pending? o).isSome = true) :
    (s.drain o).1.Quiet o := by
  have hlt := lt_length_of_pending? h
  obtain ⟨pending, hp⟩ := Option.isSome_iff_exists.1 h
  rw [drain, hp, Quiet, pending?]
  simp [hlt]

/-! ### Observers coming and going -/

theorem pending?_drain_of_ne (s : Store) {o o' : Nat} (h : o' ≠ o) :
    (s.drain o').1.pending? o = s.pending? o := by
  rw [drain]
  split
  · rfl
  · simp [pending?, List.getElem?_set_ne h]

theorem pending?_drop_of_ne (s : Store) {o o' : Nat} (h : o' ≠ o) :
    (s.drop o').pending? o = s.pending? o := by
  simp [drop, pending?, List.getElem?_set_ne h]

theorem pending?_observe {s : Store} {o : Nat} (h : (s.pending? o).isSome = true) :
    s.observe.1.pending? o = s.pending? o := by
  simp [observe, pending?, List.getElem?_append_left (lt_length_of_pending? h)]

/-- A new observer is quiet. -/
theorem quiet_observe (s : Store) : s.observe.1.Quiet s.observe.2 := by
  simp [observe, Quiet, pending?]

end Store
end Preference
end FontPreferences
