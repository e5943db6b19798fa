import FontPreferences.Proofs.Policy.Locks
import FontPreferences.Proofs.Preference.Calls

/-
What applying a policy does, and what it does not depend on.

* `Fits s key value`: the value could be set at the key, lock or no lock; `foldl_applyEntry_snd`: the
  entries that fit are counted, and the others skipped;
* `Enforces p s s' count`: `s'` is `s` with the entries of the policy that fit locked in, and nothing
  else; `enforces_apply`: this is what applying the policy comes to;
* `lockNews s l`, `pending?_attemptLocks`: what the observers are told of locks on distinct keys;
* `loadUserFile_under`: a load does not see policy or observers, so it comes to the same before and
  after;
* `attemptLock_of_locked`: a lock that is there already changes nothing and tells nobody, so a policy
  can be applied again;
* `apply_enforces`: all of it.

The entries of a policy have distinct keys.  So a lock never meets the lock of another entry, and their
order does not matter.
-/
namespace FontPreferences
namespace Preference
namespace Store

variable {s t : Store} {key : String} {value : Value}

/-- Whether a value fits a key: the key is registered, with a default of the kind of the value. -/
def Fits (s : Store) (key : String) (value : Value) : Prop :=
  (s.default? key).map Value.kind = some value.kind

instance (s : Store) (key : String) (value : Value) : Decidable (s.Fits key value) :=
  inferInstanceAs (Decidable (_ = _))

theorem fits_iff : s.Fits key value ↔ s.fault? key value = none := by
  rw [fault?_eq_none_iff, Fits, Option.map_eq_some_iff]

theorem fits_congr (h : t.defaults = s.defaults) : t.Fits key value ↔ s.Fits key value := by
  rw [fits_iff, fits_iff, fault?_congr h]

/-! ### One lock -/

/-- A lock that is there already changes nothing, and nobody is told. -/
theorem attemptLock_of_locked (h : s.managed.get? key = some value) :
    s.attemptLock key value = s := by
  rcases lock_cases s key value with hs | ⟨-, hs⟩
  · exact hs
  · have htable : s.managed.insert key value = s.managed := by
      refine KeyTable.ext fun k => ?_
      rw [KeyTable.get?_insert]
      by_cases hk : k = key
      · rw [if_pos hk, hk, h]
      · rw [if_neg hk]
    rw [hs, htable, notifyIfChanged, get?_of_managed h]
    exact if_pos rfl

theorem get?_attemptLock_of_ne {k : String} (hk : k ≠ key) (value : Value) :
    (s.attemptLock key value).get? k = s.get? k := by
  refine get?_congr ?_ ?_ ?_
  · rw [attemptLock_defaults]
  · rw [attemptLock_user]
  · rw [managed_attemptLock, if_neg fun h => hk h.1]

/-- What the observers are told of locks on entries with distinct keys. -/
def lockNews (s : Store) (l : List (String × Value)) : List Change :=
  (l.filter fun e => s.Fits e.1 e.2 ∧ s.get? e.1 ≠ some e.2).map fun e => ⟨e.1, e.2, "policy"⟩

theorem lockNews_cons (s : Store) (e : String × Value) (l : List (String × Value)) :
    s.lockNews (e :: l) = s.lockNews [e] ++ s.lockNews l := by
  rw [lockNews, lockNews, lockNews, ← List.map_append, ← List.filter_append, List.singleton_append]

theorem pending?_attemptLock (s : Store) (e : String × Value) (o : Nat) :
    (s.attemptLock e.1 e.2).pending? o = (s.pending? o).map (· ++ s.lockNews [e]) := by
  by_cases hfits : s.Fits e.1 e.2
  · have hvalue : Store.get? { s with managed := s.managed.insert e.1 e.2 } e.1 = some e.2 :=
      get?_of_managed (by rw [KeyTable.get?_insert, if_pos rfl])
    rw [attemptLock, setManaged, fits_iff.1 hfits]
    dsimp only
    rw [notifyIfChanged, hvalue]
    dsimp only
    by_cases hsame : s.get? e.1 = some e.2
    · have hnews : s.lockNews [e] = [] := by simp [lockNews, hsame]
      rw [if_pos hsame, hnews]
      simp [pending?]
    · have hnews : s.lockNews [e] = [⟨e.1, e.2, "policy"⟩] := by simp [lockNews, hfits, hsame]
      rw [if_neg hsame, hnews]
      exact pending?_notify ..
  · have hnews : s.lockNews [e] = [] := by simp [lockNews, hfits]
    rcases lock_cases s e.1 e.2 with hrefused | ⟨hfault, -⟩
    · rw [hrefused, hnews]
      simp
    · exact absurd (fits_iff.2 hfault) hfits

/-- **What the observers are told of locks on entries with distinct keys**, in the order of the
entries. -/
theorem pending?_attemptLocks (s : Store) {l : List (String × Value)} (h : KeyTable.Distinct l)
    (o : Nat) : (s.attemptLocks l).pending? o = (s.pending? o).map (· ++ s.lockNews l) := by
  induction l generalizing s with
  | nil => simp [attemptLocks, edited, lockNews]
  | cons e l ih =>
    obtain ⟨hhead, hrest⟩ := List.pairwise_cons.1 h
    -- no later entry has the key that has just been locked
    have hnews : (s.attemptLock e.1 e.2).lockNews l = s.lockNews l := by
      rw [lockNews, lockNews]
      refine congrArg _ (List.filter_congr fun e' he' => ?_)
      rw [get?_attemptLock_of_ne (hhead e' he').symm]
      simp only [fits_congr (attemptLock_defaults s e.1 e.2)]
    rw [attemptLocks_cons, ih _ hrest, hnews, pending?_attemptLock, lockNews_cons s e l,
      Option.map_map]
    congr 1
    funext pending
    exact List.append_assoc ..

/-! ### Locks hold -/

/-- No edit takes a lock off. -/
theorem isManaged_edit (h : s.isManaged key = true) (e : Edit) :
    (s.edit e).isManaged key = true := by
  have hsame : ∀ t : Store, t.managed = s.managed → t.isManaged key = true := by
    intro t ht
    rw [isManaged, ht]
    exact h
  cases e with
  | set k value origin => exact hsame _ (attempt_managed ..)
  | clear k => exact hsame _ (attemptClear_managed ..)
  | lock k value => exact isManaged_attemptLock h k value
  | load file =>
    simp only [Store.edit]
    cases hload : s.loadUserFile file with
    | error e => exact h
    | ok loaded => exact hsame _ (loadUserFile_managed hload)
  | observe => exact h
  | drain observer => exact hsame _ (drain_managed ..)
  | drop observer => exact h

theorem isManaged_edited (h : s.isManaged key = true) (edits : List Edit) :
    (s.edited edits).isManaged key = true :=
  List.foldlRecOn (motive := fun t => t.isManaged key = true) edits edit h
    fun _ ht e _ => isManaged_edit ht e

/-- A locked key refuses every value of the user's, for the kind or for the lock. -/
theorem set_of_isManaged (hfits : s.Fits key value) (h : s.isManaged key = true) (other : Value)
    (origin : String) : s.set key other origin = .error
      (if other.kind = value.kind then .managed key else .kindMismatch key value.kind) := by
  obtain ⟨d, hdefault, hkind⟩ := fault?_eq_none_iff.1 (fits_iff.1 hfits)
  rw [set_eq_error_iff, ← hkind]
  by_cases hother : other.kind = d.kind
  · rw [if_pos hother]
    exact .managed hdefault hother h
  · rw [if_neg hother]
    exact .mistyped hdefault hother

/-! ### Loading a file under a policy -/

/-- The values of `s`, under the policy of `t` and with its observers. -/
def under (s t : Store) : Store :=
  { s with managed := t.managed, observers := t.observers }

theorem loadEntry_under (loaded : Store × Nat) (t : Store) (entry : String × Json) :
    loadEntry (loaded.1.under t, loaded.2) entry
      = ((loadEntry loaded entry).1.under t, (loadEntry loaded entry).2) := by
  have husable : (loaded.1.under t).usable? entry.1 entry.2 = loaded.1.usable? entry.1 entry.2 :=
    rfl
  rw [loadEntry, loadEntry, husable]
  cases loaded.1.usable? entry.1 entry.2 <;> rfl

theorem foldl_loadEntry_under (entries : List (String × Json)) (loaded : Store × Nat) (t : Store) :
    entries.foldl loadEntry (loaded.1.under t, loaded.2)
      = ((entries.foldl loadEntry loaded).1.under t, (entries.foldl loadEntry loaded).2) := by
  induction entries generalizing loaded with
  | nil => rfl
  | cons entry entries ih => rw [List.foldl_cons, loadEntry_under, ih, List.foldl_cons]

/-- **A load sees neither policy nor observers.** -/
theorem loadUserFile_under (s t : Store) (file : FileContent) : (s.under t).loadUserFile file
    = (s.loadUserFile file).map fun loaded => (loaded.1.under t, loaded.2) := by
  rcases file.holds_or_unloadable with ⟨members, hholds⟩ | ⟨e, hunloadable⟩
  · rw [loadUserFile_of_holds hholds, loadUserFile_of_holds hholds]
    exact congrArg Except.ok (foldl_loadEntry_under _ (s, 0) t)
  · rw [loadUserFile_of_unloadable hunloadable, loadUserFile_of_unloadable hunloadable]
    rfl

theorem edit_load_under (s t : Store) (file : FileContent) :
    (s.under t).edit (.load file) = (s.edit (.load file)).under t := by
  rw [edit, edit, loadUserFile_under]
  cases s.loadUserFile file <;> rfl

/-- Stores with the same defaults and user values differ in policy and observers alone. -/
theorem eq_under (hdefaults : t.defaults = s.defaults) (huser : t.user = s.user) : t = s.under t := by
  rw [under, ← hdefaults, ← huser]

theorem edit_load_managed (s : Store) (file : FileContent) :
    (s.edit (.load file)).managed = s.managed := by
  simp only [edit]
  cases hload : s.loadUserFile file with
  | error e => rfl
  | ok loaded => exact loadUserFile_managed hload

/-! ### One lock after another -/

theorem attemptLocks_defaults (s : Store) (l : List (String × Value)) :
    (s.attemptLocks l).defaults = s.defaults :=
  edited_defaults s _

/-- Locks that are there already change nothing, and nobody is told. -/
theorem attemptLocks_of_locked {l : List (String × Value)}
    (h : ∀ e ∈ l, s.Fits e.1 e.2 → s.managed.get? e.1 = some e.2) : s.attemptLocks l = s := by
  induction l with
  | nil => rfl
  | cons e l ih =>
    have hfirst : s.attemptLock e.1 e.2 = s := by
      rcases lock_cases s e.1 e.2 with hrefused | ⟨hfault, -⟩
      · exact hrefused
      · exact attemptLock_of_locked (h e List.mem_cons_self (fits_iff.2 hfault))
    rw [attemptLocks_cons, hfirst]
    exact ih fun e' he' => h e' (List.mem_cons_of_mem _ he')

/-- The order of locks on distinct keys makes no difference to the layers. -/
theorem sameLayers_attemptLocks {l l' : List (String × Value)} (h : KeyTable.Distinct l)
    (hperm : l.Perm l') : (s.attemptLocks l).SameLayers (s.attemptLocks l') := by
  refine ⟨?_, ?_, KeyTable.ext fun key => ?_⟩
  · rw [attemptLocks_defaults, attemptLocks_defaults]
  · rw [attemptLocks_user, attemptLocks_user]
  · rw [managed_attemptLocks s h, managed_attemptLocks s (h.perm hperm),
      KeyTable.find?_perm h hperm]

end Store
end Preference

namespace Policy

open Preference (Store)

variable {p : Policy} {s : Store}

theorem applyEntry_snd (applied : Store × Nat) (entry : String × Preference.Value) :
    (applyEntry applied entry).2
      = applied.2 + if applied.1.Fits entry.1 entry.2 then 1 else 0 := by
  rw [applyEntry, Store.setManaged]
  cases hfault : applied.1.fault? entry.1 entry.2 with
  | none => simp [Store.fits_iff, hfault]
  | some error => simp [Store.fits_iff, hfault]

/-- Of the entries that are applied, those that fit are counted. -/
theorem foldl_applyEntry_snd (entries : List (String × Preference.Value)) (applied : Store × Nat) :
    (entries.foldl applyEntry applied).2
      = applied.2 + (entries.filter fun e => applied.1.Fits e.1 e.2).length := by
  induction entries generalizing applied with
  | nil => rfl
  | cons e entries ih =>
    have hfits : ∀ key value, (applyEntry applied e).1.Fits key value ↔
        applied.1.Fits key value := by
      intro key value
      rw [applyEntry_fst]
      exact Store.fits_congr (Store.attemptLock_defaults ..)
    rw [List.foldl_cons, ih, applyEntry_snd, List.filter_cons]
    simp only [hfits, decide_eq_true_eq]
    split
    · rw [List.length_cons, Nat.add_assoc, Nat.add_comm 1]
    · rw [Nat.add_zero]

theorem apply_snd (p : Policy) (s : Store) :
    (p.apply s).2 = (p.managed.entries.filter fun e => s.Fits e.1 e.2).length :=
  (foldl_applyEntry_snd p.managed.entries (s, 0)).trans (Nat.zero_add _)

/-- `s'` is `s` with the entries of the policy that fit locked in, `count` of them, and nothing else
changed. -/
structure Enforces (p : Policy) (s s' : Store) (count : Nat) : Prop where
  defaults : s'.defaults = s.defaults
  user : s'.user = s.user
  counted : count = (p.managed.entries.filter fun e => s.Fits e.1 e.2).length
  locked : ∀ key value, p.managed.get? key = some value → s.Fits key value →
    s'.managed.get? key = some value ∧ s'.get? key = some value ∧ s'.source? key = some .policy
  kept : ∀ key, (∀ value, p.managed.get? key = some value → ¬s.Fits key value) →
    s'.managed.get? key = s.managed.get? key
  /-- What is locked stays locked, whatever happens to the store. -/
  refuses : ∀ key value, p.managed.get? key = some value → s.Fits key value →
    ∀ edits other origin, (s'.edited edits).set key other origin = .error
      (if other.kind = value.kind then .managed key else .kindMismatch key value.kind)

theorem managed_apply_of_fits {key : String} {value : Preference.Value}
    (h : p.managed.get? key = some value) (hfits : s.Fits key value) :
    (p.apply s).1.managed.get? key = some value := by
  rw [managed_apply, lock?, h, Option.filter_some, Store.fits_iff.1 hfits]
  rfl

theorem enforces_apply (p : Policy) (s : Store) : p.Enforces s (p.apply s).1 (p.apply s).2 := by
  have hdefaults : (p.apply s).1.defaults = s.defaults := by
    rw [apply_fst]
    exact Store.attemptLocks_defaults ..
  refine
    { defaults := hdefaults
      user := by rw [apply_fst]; exact Store.attemptLocks_user ..
      counted := apply_snd p s
      locked := fun key value h hfits => ?_
      kept := fun key h => ?_
      refuses := fun key value h hfits edits other origin => ?_ }
  · have hmanaged := managed_apply_of_fits h hfits
    exact ⟨hmanaged, Store.get?_of_managed hmanaged, Store.source?_of_managed hmanaged⟩
  · have hnone : p.lock? s key = none := by
      rw [lock?, Option.filter_eq_none_iff]
      intro value hvalue hfault
      exact h value hvalue (Store.fits_iff.2 (Option.isNone_iff_eq_none.1 hfault))
    rw [managed_apply, hnone, Option.none_or]
  · have hmanaged : (p.apply s).1.isManaged key = true := by
      rw [Store.isManaged, KeyTable.contains, managed_apply_of_fits h hfits]
      rfl
    have hstill : ((p.apply s).1.edited edits).Fits key value :=
      (Store.fits_congr ((Store.edited_defaults ..).trans hdefaults)).2 hfits
    exact Store.set_of_isManaged hstill (Store.isManaged_edited hmanaged edits) other origin

/-- A policy that has been applied changes nothing when it is applied again, and nobody is told. -/
theorem apply_apply (p : Policy) (s : Store) :
    p.apply (p.apply s).1 = ((p.apply s).1, (p.apply s).2) := by
  have henforces := enforces_apply p s
  have hfits : ∀ key value, (p.apply s).1.Fits key value ↔ s.Fits key value :=
    fun key value => Store.fits_congr henforces.defaults
  have hlocked : ∀ e ∈ p.managed.entries, (p.apply s).1.Fits e.1 e.2 →
      (p.apply s).1.managed.get? e.1 = some e.2 := by
    intro e he hfit
    exact managed_apply_of_fits (KeyTable.get?_of_mem_entries he) ((hfits _ _).1 hfit)
  refine Prod.ext ?_ ?_
  · rw [apply_fst p (p.apply s).1, Store.attemptLocks_of_locked hlocked]
  · rw [apply_snd, apply_snd]
    simp only [hfits]

/-- Whether a file is loaded before or after, the layers and the number of locks are the same. -/
theorem apply_edit_load (p : Policy) (s : Store) (file : FileContent) :
    (p.apply (s.edit (.load file))).1.SameLayers ((p.apply s).1.edit (.load file)) ∧
      (p.apply (s.edit (.load file))).2 = (p.apply s).2 ∧
      ((p.apply s).1.loadUserFile file).map Prod.snd = (s.loadUserFile file).map Prod.snd := by
  have henforces := enforces_apply p s
  have hunder : (p.apply s).1 = s.under (p.apply s).1 :=
    Store.eq_under henforces.defaults henforces.user
  have hdefaults : (s.edit (.load file)).defaults = s.defaults := Store.edit_defaults ..
  have hmanaged : (s.edit (.load file)).managed = s.managed := Store.edit_load_managed s file
  refine ⟨?_, ?_, ?_⟩
  · rw [hunder, Store.edit_load_under, apply_fst, apply_fst]
    refine ⟨Store.attemptLocks_defaults .., Store.attemptLocks_user .., ?_⟩
    exact Store.attemptLocks_managed_congr hdefaults hmanaged _
  · rw [apply_snd, apply_snd]
    simp only [Store.fits_congr hdefaults]
  · rw [hunder, Store.loadUserFile_under]
    cases s.loadUserFile file <;> rfl

/-- **Applying a policy skips what does not fit and loses nothing that does.**  Over every store:

* afterwards the layer of policy is that of before, under exactly the entries whose key is registered
  with a default of their kind; their number is the answer, and the other layers are as before; each of
  these keys has the value of the policy, from policy, and refuses every value of the user's from then
  on;
* the entries in any other order make the same policy, and locked one after another in that order they
  make the same layers and the same number, and tell the observers the same changes in their order;
* so does a load, of any file, before or after, and the load takes as many entries or fails alike;
* the policy applied again changes nothing at all, so nobody is told of anything. -/
theorem apply_enforces (p : Policy) (s : Store) :
    let s' := (p.apply s).1
    let count := (p.apply s).2
    p.Enforces s s' count ∧
    (∀ l : List (String × Preference.Value), l.Perm p.managed.entries →
      let t := (l.foldl applyEntry (s, 0)).1
      Policy.mk (KeyTable.ofList l) = p ∧ t.SameLayers s' ∧
        (l.foldl applyEntry (s, 0)).2 = count ∧
        (∀ o, t.pending? o = (s.pending? o).map (· ++ s.lockNews l)) ∧
        (s.lockNews l).Perm (s.lockNews p.managed.entries)) ∧
    (∀ file : FileContent,
      (p.apply (s.edit (.load file))).1.SameLayers (s'.edit (.load file)) ∧
        (p.apply (s.edit (.load file))).2 = count ∧
        (s'.loadUserFile file).map Prod.snd = (s.loadUserFile file).map Prod.snd) ∧
    p.apply s' = (s', count) := by
  intro s' count
  refine ⟨enforces_apply p s, fun l hperm => ?_, apply_edit_load p s, apply_apply p s⟩
  have hdistinct : KeyTable.Distinct l := p.managed.distinct_entries.perm hperm.symm
  have hlocks : (l.foldl applyEntry (s, 0)).1 = s.attemptLocks l := foldl_applyEntry_fst l (s, 0)
  refine ⟨?_, ?_, ?_, fun o => ?_, ?_⟩
  · rw [KeyTable.ofList_perm hdistinct hperm, KeyTable.ofList_entries]
  · show (l.foldl applyEntry (s, 0)).1.SameLayers (p.apply s).1
    rw [hlocks, apply_fst]
    exact Store.sameLayers_attemptLocks hdistinct hperm
  · show (l.foldl applyEntry (s, 0)).2 = (p.apply s).2
    rw [foldl_applyEntry_snd, apply_snd, Nat.zero_add]
    exact (hperm.filter _).length_eq
  · show (l.foldl applyEntry (s, 0)).1.pending? o = _
    rw [hlocks]
    exact Store.pending?_attemptLocks s hdistinct o
  · exact (hperm.filter _).map _

open Preference in
/-- Of a text for a size, a size and a key that nobody has registered, the size alone is locked. -/
example :
    let p : Policy := ⟨KeyTable.ofList [(fontSizeKey, .text "large"), (fixedFontSizeKey, .integer 20),
      ("no.such.key", .integer 1)]⟩
    let (s, count) := p.apply .withFontDefaults
    count = 1 ∧ s.isManaged fontSizeKey = false ∧ s.getInteger? fixedFontSizeKey = some 20 := by
  decide +kernel

end Policy
end FontPreferences
