/-
Finite tables keyed by text, in ascending order of the keys.

* `get?_insert` and `get?_erase` describe the two updates through look-up;
* `ext` says that look-up is the whole of a table: two tables that answer alike are equal, because
  the order of their entries is fixed.

Keys compare by code points.
-/
namespace FontPreferences

/-- A finite table: entries with strictly ascending keys. -/
structure KeyTable (α : Type) where
  entries : List (String × α)
  ascending : entries.Pairwise fun a b => a.1 < b.1
deriving DecidableEq, Repr

namespace KeyTable

variable {α : Type}

/-- The table without entries. -/
def empty : KeyTable α :=
  ⟨[], .nil⟩

instance : Inhabited (KeyTable α) := ⟨empty⟩
instance : EmptyCollection (KeyTable α) := ⟨empty⟩

/-- The value of the entry for a key in a list of entries. -/
def find? (key : String) : List (String × α) → Option α
  | [] => none
  | (k, v) :: rest => if k = key then some v else find? key rest

/-- Puts an entry in its place in an ascending list, over any entry with its key. -/
def place (key : String) (value : α) : List (String × α) → List (String × α)
  | [] => [(key, value)]
  | (k, v) :: rest =>
    if key < k then (key, value) :: (k, v) :: rest
    else if k = key then (key, value) :: rest
    else (k, v) :: place key value rest

theorem mem_place {key : String} {value : α} {l : List (String × α)} {e : String × α}
    (h : e ∈ place key value l) : e = (key, value) ∨ e ∈ l := by
  induction l with
  | nil => simpa [place] using h
  | cons head rest ih =>
    simp only [place] at h
    split at h
    · simpa using h
    · split at h
      · rcases List.mem_cons.1 h with h | h
        · exact .inl h
        · exact .inr (List.mem_cons_of_mem _ h)
      · rcases List.mem_cons.1 h with h | h
        · exact .inr (h ▸ List.mem_cons_self)
        · rcases ih h with h | h
          · exact .inl h
          · exact .inr (List.mem_cons_of_mem _ h)

theorem lt_of_not_lt_of_ne {a b : String} (h : ¬a < b) (hne : b ≠ a) : b < a := by
  rcases Decidable.em (b < a) with hb | hb
  · exact hb
  · exact absurd (String.le_antisymm (String.not_lt.1 h) (String.not_lt.1 hb)) hne

theorem pairwise_place (key : String) (value : α) {l : List (String × α)}
    (h : l.Pairwise fun a b => a.1 < b.1) :
    (place key value l).Pairwise fun a b => a.1 < b.1 := by
  induction l with
  | nil => simp [place]
  | cons head rest ih =>
    have hr := List.pairwise_cons.1 h
    simp only [place]
    split
    · next hlt =>
      refine List.pairwise_cons.2 ⟨fun e he => ?_, h⟩
      rcases List.mem_cons.1 he with rfl | he
      · exact hlt
      · exact String.lt_trans hlt (hr.1 e he)
    · next hlt =>
      split
      · next heq => exact List.pairwise_cons.2 ⟨fun e he => heq ▸ hr.1 e he, hr.2⟩
      · next hne =>
        refine List.pairwise_cons.2 ⟨fun e he => ?_, ih hr.2⟩
        rcases mem_place he with rfl | he
        · exact lt_of_not_lt_of_ne hlt hne
        · exact hr.1 e he

/-- The value for a key. -/
def get? (t : KeyTable α) (key : String) : Option α :=
  find? key t.entries

/-- Whether the key has an entry. -/
def contains (t : KeyTable α) (key : String) : Bool :=
  (t.get? key).isSome

/-- The keys in ascending order. -/
def keys (t : KeyTable α) : List String :=
  t.entries.map (·.1)

/-- The table with the entry set. -/
def insert (t : KeyTable α) (key : String) (value : α) : KeyTable α :=
  ⟨place key value t.entries, pairwise_place key value t.ascending⟩

/-- The table without an entry for the key. -/
def erase (t : KeyTable α) (key : String) : KeyTable α :=
  ⟨t.entries.filter (·.1 ≠ key), t.ascending.filter _⟩

/-- The table of a list of entries; a later entry replaces an earlier one with its key. -/
def ofList (l : List (String × α)) : KeyTable α :=
  l.foldl (fun t e => t.insert e.1 e.2) empty

theorem find?_place (key : String) (value : α) (l : List (String × α)) (k : String) :
    find? k (place key value l) = if k = key then some value else find? k l := by
  induction l with
  | nil =>
    rcases Decidable.em (k = key) with h | h
    · simp [place, find?, h]
    · simp [place, find?, h, Ne.symm h]
  | cons head rest ih =>
    simp only [place]
    rcases Decidable.em (k = key) with rfl | h
    · split
      · simp [find?]
      · split
        · simp [find?]
        · next hne => simp [find?, hne, ih]
    · split
      · simp [find?, Ne.symm h]
      · split
        · next heq => simp [find?, heq, Ne.symm h]
        · simp [find?, ih, h]

@[simp] theorem get?_empty (key : String) : (empty : KeyTable α).get? key = none := rfl

theorem get?_insert (t : KeyTable α) (key : String) (value : α) (k : String) :
    (t.insert key value).get? k = if k = key then some value else t.get? k :=
  find?_place key value t.entries k

theorem get?_erase (t : KeyTable α) (key k : String) :
    (t.erase key).get? k = if k = key then none else t.get? k := by
  simp only [get?, erase]
  induction t.entries with
  | nil => simp [find?]
  | cons head rest ih =>
    rcases Decidable.em (head.1 = key) with hh | hh
    · rcases Decidable.em (k = key) with hk | hk
      · simpa [List.filter_cons, find?, hh, hk] using ih
      · simpa [List.filter_cons, find?, hh, hk, Ne.symm hk] using ih
    · rcases Decidable.em (k = key) with hk | hk
      · simpa [List.filter_cons, find?, hh, hk] using ih
      · have hr : find? k (rest.filter (·.1 ≠ key)) = find? k rest := by rw [ih, if_neg hk]
        simp only [ne_eq, decide_not] at hr
        simp [find?, hh, hk, hr]

theorem find?_eq_none_of_lt {key : String} {l : List (String × α)}
    (h : ∀ e ∈ l, key < e.1) : find? key l = none := by
  induction l with
  | nil => rfl
  | cons head rest ih =>
    have hne : head.1 ≠ key := fun he =>
      String.lt_irrefl key (he ▸ h head List.mem_cons_self)
    simpa [find?, hne] using ih fun e he => h e (List.mem_cons_of_mem _ he)

theorem entries_eq_of_find? {l l' : List (String × α)}
    (hl : l.Pairwise fun a b => a.1 < b.1) (hl' : l'.Pairwise fun a b => a.1 < b.1)
    (h : ∀ k, find? k l = find? k l') : l = l' := by
  induction l generalizing l' with
  | nil =>
    cases l' with
    | nil => rfl
    | cons b tail => simpa [find?] using h b.1
  | cons a rest ih =>
    have ha := List.pairwise_cons.1 hl
    cases l' with
    | nil => simpa [find?] using h a.1
    | cons b tail =>
      have hb := List.pairwise_cons.1 hl'
      have hkey : a.1 = b.1 := by
        rcases Decidable.em (a.1 < b.1) with hlt | hge
        · have hnone : find? a.1 (b :: tail) = none := find?_eq_none_of_lt fun e he => by
            rcases List.mem_cons.1 he with rfl | he
            · exact hlt
            · exact String.lt_trans hlt (hb.1 e he)
          rw [← h a.1] at hnone
          simp [find?] at hnone
        · rcases Decidable.em (b.1 = a.1) with heq | hne
          · exact heq.symm
          · have hlt := lt_of_not_lt_of_ne hge hne
            have hnone : find? b.1 (a :: rest) = none := find?_eq_none_of_lt fun e he => by
              rcases List.mem_cons.1 he with rfl | he
              · exact hlt
              · exact String.lt_trans hlt (ha.1 e he)
            rw [h b.1] at hnone
            simp [find?] at hnone
      have hval : a.2 = b.2 := by simpa [find?, hkey] using h a.1
      have hab : a = b := Prod.ext hkey hval
      subst hab
      congr 1
      refine ih ha.2 hb.2 fun k => ?_
      rcases Decidable.em (a.1 = k) with rfl | hk
      · rw [find?_eq_none_of_lt ha.1, find?_eq_none_of_lt hb.1]
      · simpa [find?, hk] using h k

/-- Look-up determines a table. -/
theorem ext {t t' : KeyTable α} (h : ∀ k, t.get? k = t'.get? k) : t = t' := by
  have := entries_eq_of_find? t.ascending t'.ascending h
  cases t; cases t'; simp_all

end KeyTable
end FontPreferences
