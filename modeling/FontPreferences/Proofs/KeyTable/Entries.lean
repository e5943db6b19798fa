import FontPreferences.KeyTable
import Mathlib.Data.List.Induction

/-
A table and its entries.

* `find?_of_mem`, `mem_of_find?`: look-up finds exactly the entries, if no two have the same key, and
  then in any order (`find?_perm`, `ofList_perm`);
* `entries_ofList`, `ofList_entries`: entries in the order of their keys are those of their table, and
  a table is the table of its own entries;
* `get?_ofList`: of several entries with a key, the last one is in the table.
-/
namespace FontPreferences

namespace KeyTable

variable {α β : Type}

theorem place_of_forall_lt {key : String} (value : α) {l : List (String × α)}
    (h : ∀ e ∈ l, e.1 < key) : place key value l = l ++ [(key, value)] := by
  induction l with
  | nil => rfl
  | cons head rest ih =>
    have hhead : head.1 < key := h head List.mem_cons_self
    have hnot : ¬key < head.1 := fun hlt => String.lt_irrefl key (String.lt_trans hlt hhead)
    have hne : head.1 ≠ key := fun he => String.lt_irrefl key (he ▸ hhead)
    rw [place, if_neg hnot, if_neg hne, ih fun e he => h e (List.mem_cons_of_mem _ he),
      List.cons_append]

/-- Entries in the order of their keys are the entries of their table. -/
theorem entries_ofList {l : List (String × α)} (h : l.Pairwise fun a b => a.1 < b.1) :
    (ofList l).entries = l := by
  -- from the end, where each entry is put behind all those before it
  induction l using List.reverseRecOn with
  | nil => rfl
  | append_singleton l e ih =>
    obtain ⟨hl, -, hlast⟩ := List.pairwise_append.1 h
    have hplace : (ofList (l ++ [e])).entries = place e.1 e.2 (ofList l).entries := by
      rw [ofList, List.foldl_append]
      rfl
    rw [hplace, ih hl, place_of_forall_lt e.2 fun a ha => hlast a ha e List.mem_cons_self]

/-- A table is the table of its entries. -/
theorem ofList_entries (t : KeyTable α) : ofList t.entries = t :=
  ext fun k => by rw [get?, entries_ofList t.ascending, get?]

/-- Entries of which no two have the same key. -/
def Distinct (l : List (String × α)) : Prop :=
  l.Pairwise fun a b => a.1 ≠ b.1

theorem distinct_entries (t : KeyTable α) : Distinct t.entries := by
  refine t.ascending.imp fun {a b} hlt heq => ?_
  rw [heq] at hlt
  exact String.lt_irrefl _ hlt

/-- The order of entries says nothing about whether their keys are distinct. -/
theorem Distinct.perm {l l' : List (String × α)} (h : Distinct l) (hperm : l.Perm l') :
    Distinct l' :=
  hperm.pairwise h fun hne => hne.symm

theorem find?_eq_none_of_ne {key : String} {l : List (String × α)} (h : ∀ e ∈ l, key ≠ e.1) :
    find? key l = none := by
  induction l with
  | nil => rfl
  | cons head rest ih =>
    rw [find?, if_neg (h head List.mem_cons_self).symm]
    exact ih fun e he => h e (List.mem_cons_of_mem _ he)

theorem find?_of_mem {l : List (String × α)} (h : Distinct l) {e : String × α} (he : e ∈ l) :
    find? e.1 l = some e.2 := by
  induction l with
  | nil => exact absurd he List.not_mem_nil
  | cons head rest ih =>
    obtain ⟨hhead, hrest⟩ := List.pairwise_cons.1 h
    rcases List.mem_cons.1 he with rfl | hmem
    · rw [find?, if_pos rfl]
    · rw [find?, if_neg (hhead e hmem), ih hrest hmem]

theorem get?_of_mem_entries {t : KeyTable α} {e : String × α} (h : e ∈ t.entries) :
    t.get? e.1 = some e.2 :=
  find?_of_mem t.distinct_entries h

theorem entries_ofList_map (t : KeyTable α) (f : α → β) :
    (ofList (t.entries.map fun e => (e.1, f e.2))).entries
      = t.entries.map fun e => (e.1, f e.2) :=
  entries_ofList (List.pairwise_map.2 t.ascending)

theorem mem_of_find? {l : List (String × α)} {key : String} {value : α}
    (h : find? key l = some value) : (key, value) ∈ l := by
  induction l with
  | nil => exact absurd h (by simp [find?])
  | cons entry l ih =>
    rw [find?] at h
    split at h
    · next heq =>
      cases heq
      cases h
      exact List.mem_cons_self
    · exact List.mem_cons_of_mem _ (ih h)

/-- If no two entries have the same key, look-up does not depend on their order. -/
theorem find?_perm {l l' : List (String × α)} (h : Distinct l) (hperm : l.Perm l') (key : String) :
    find? key l = find? key l' := by
  cases hvalue : find? key l with
  | some value =>
    have hmem : (key, value) ∈ l' := hperm.mem_iff.1 (mem_of_find? hvalue)
    exact (find?_of_mem (h.perm hperm) hmem).symm
  | none =>
    cases hvalue' : find? key l' with
    | none => rfl
    | some value =>
      have hmem : (key, value) ∈ l := hperm.mem_iff.2 (mem_of_find? hvalue')
      rw [find?_of_mem h hmem] at hvalue
      exact absurd hvalue (by simp)

theorem lookup_eq_find? (l : List (String × α)) (key : String) : l.lookup key = find? key l := by
  induction l with
  | nil => rfl
  | cons head rest ih =>
    rw [List.lookup_cons, find?, ih]
    by_cases hkey : head.1 = key
    · rw [if_pos hkey, beq_iff_eq.2 hkey.symm]
    · rw [if_neg hkey, beq_eq_false_iff_ne.2 (Ne.symm hkey)]

/-- The last of the entries with a key is the one that their table has. -/
theorem get?_ofList (l : List (String × α)) (key : String) :
    (ofList l).get? key = l.reverse.lookup key := by
  -- from the end, where an entry replaces those with its key
  induction l using List.reverseRecOn with
  | nil => rfl
  | append_singleton l e ih =>
    have hinsert : ofList (l ++ [e]) = (ofList l).insert e.1 e.2 := List.foldl_append
    rw [hinsert, get?_insert, ih, List.reverse_append, List.reverse_singleton, List.singleton_append,
      List.lookup_cons]
    by_cases hkey : key = e.1
    · rw [if_pos hkey, beq_iff_eq.2 hkey]
    · rw [if_neg hkey, beq_eq_false_iff_ne.2 hkey]

/-- If no two entries have the same key, the table of them does not depend on their order. -/
theorem ofList_perm {l l' : List (String × α)} (h : Distinct l) (hperm : l.Perm l') :
    ofList l = ofList l' := by
  refine ext fun key => ?_
  have hreverse : l.reverse.Perm l'.reverse :=
    (l.reverse_perm.trans hperm).trans l'.reverse_perm.symm
  rw [get?_ofList, get?_ofList, lookup_eq_find?, lookup_eq_find?]
  exact find?_perm (h.perm l.reverse_perm.symm) hreverse key

end KeyTable

end FontPreferences
