import FontPreferences.Policy
import FontPreferences.Proofs.Preference.Loading

/-
What a policy locks.

* `HoldsPolicy`: the policy that a file holds, and `load_eq_ok_iff`: it is the one that is loaded;
* `foldl_applyEntry_fst`: applying a policy is locking its entries one after another;
* `managed_apply`: afterwards a key is locked to the value of the policy, if this could be set at the
  key, and as it was before otherwise (`lock?`).

A policy is a table, so no entry is in the way of another one.
-/
namespace FontPreferences

/-- The policy that a file holds; a missing file holds the one that forces nothing. -/
inductive FileContent.HoldsPolicy : FileContent → Policy → Prop where
  | missing : HoldsPolicy .missing .empty
  | table {text : String} {p : Policy} (h : (Toml.read? text).bind Policy.ofToml? = some p) :
      HoldsPolicy (.ofText text) p

namespace Policy

open Preference (Store)

/-- The entries of a policy file; none if it cannot be loaded. -/
def entriesOf (file : FileContent) : List (String × Preference.Value) :=
  match load file with
  | .ok p => p.managed.entries
  | .error _ => []

theorem applyEntry_fst (applied : Store × Nat) (entry : String × Preference.Value) :
    (applyEntry applied entry).1 = applied.1.attemptLock entry.1 entry.2 := by
  rw [applyEntry, Store.attemptLock]
  cases applied.1.setManaged entry.1 entry.2 <;> rfl

theorem foldl_applyEntry_fst (entries : List (String × Preference.Value)) (applied : Store × Nat) :
    (entries.foldl applyEntry applied).1 = applied.1.attemptLocks entries := by
  induction entries generalizing applied with
  | nil => rfl
  | cons e entries ih => rw [List.foldl_cons, ih, applyEntry_fst, Store.attemptLocks_cons]

theorem apply_fst (p : Policy) (s : Store) : (p.apply s).1 = s.attemptLocks p.managed.entries :=
  foldl_applyEntry_fst p.managed.entries (s, 0)

/-- The value that a policy locks a key of a store to: the one it lists, if it could be set there. -/
def lock? (p : Policy) (s : Store) (key : String) : Option Preference.Value :=
  (p.managed.get? key).filter fun value => (s.fault? key value).isNone

end Policy

namespace Preference
namespace Store

/-- A lock concerns its own key alone, and that only if the value could be set there. -/
theorem managed_attemptLock (s : Store) (key : String) (value : Value) (k : String) :
    (s.attemptLock key value).managed.get? k
      = if k = key ∧ s.fault? key value = none then some value else s.managed.get? k := by
  rw [attemptLock, setManaged]
  cases hfault : s.fault? key value with
  | some e => simp
  | none => simp [notifyIfChanged_managed, KeyTable.get?_insert]

/-- Locks on entries with distinct keys: each key has the lock of its entry, if this could be set, and
the one from before otherwise. -/
theorem managed_attemptLocks (s : Store) {l : List (String × Value)} (h : KeyTable.Distinct l)
    (key : String) :
    (s.attemptLocks l).managed.get? key
      = ((KeyTable.find? key l).filter fun value => (s.fault? key value).isNone).or
        (s.managed.get? key) := by
  induction l generalizing s with
  | nil => rfl
  | cons e l ih =>
    obtain ⟨hhead, hrest⟩ := List.pairwise_cons.1 h
    have hfault : ∀ value, (s.attemptLock e.1 e.2).fault? key value = s.fault? key value := fun value =>
      fault?_congr (attemptLock_defaults s e.1 e.2) key value
    rw [attemptLocks_cons, ih _ hrest, managed_attemptLock, KeyTable.find?]
    simp only [hfault]
    by_cases hkey : e.1 = key
    · -- no later entry has the key
      subst hkey
      rw [KeyTable.find?_eq_none_of_ne hhead, if_pos rfl, Option.filter_some]
      cases s.fault? e.1 e.2 <;> simp
    · rw [if_neg hkey, if_neg fun hk => hkey hk.1.symm]

end Store
end Preference

namespace Policy

open Preference (Store)

/-- **What applying a policy makes of the layer of policy**: the locks it has for keys of the store,
over those from before. -/
theorem managed_apply (p : Policy) (s : Store) (key : String) :
    (p.apply s).1.managed.get? key = (p.lock? s key).or (s.managed.get? key) := by
  rw [apply_fst]
  exact Store.managed_attemptLocks s p.managed.distinct_entries key

/-- **Which files hold a policy.** -/
theorem load_eq_ok_iff {file : FileContent} {p : Policy} :
    load file = .ok p ↔ file.HoldsPolicy p := by
  constructor
  · intro h
    cases file with
    | missing =>
      cases h
      exact .missing
    | directory | unreachable => exact absurd h (by simp [load, readTomlFile, FileContent.read])
    | bytes data =>
      cases htext : String.fromUTF8? data with
      | none => exact absurd h (by simp [load, readTomlFile, FileContent.read, htext])
      | some text =>
        rw [FileContent.eq_ofText_of_fromUTF8? htext] at h ⊢
        rw [load, readTomlFile, FileContent.read_ofText] at h
        refine .table ?_
        cases hread : (Toml.read? text).bind ofToml? with
        | none => simp [hread] at h
        | some q => simpa [hread] using h
  · rintro (_ | hread)
    · rfl
    · simp [load, readTomlFile, FileContent.read_ofText, hread]

end Policy
end FontPreferences
