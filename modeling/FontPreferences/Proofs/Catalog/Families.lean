import FontPreferences.Catalog
import FontPreferences.Proofs.KeyTable.Entries
import Mathlib.Data.List.DropRight

/-
What a catalog offers.

* `folded name`: the name in lower case, without blanks around it; two spellings are of one family if
  they agree folded;
* `firstSpelling? names key`: the spelling that comes first, of the family with a folded name;
  `get?_spellings`: the table that a catalog collects is this function;
* `Deduplicates names choices`: each family among the names is offered once, in its first spelling,
  and the families stand in the order of their folded names;
* `families_deduplicated`: a catalog offers that or, of blank names, nothing; the order in which the
  names come decides on spellings alone; and what is offered is a catalog that offers itself.
-/
namespace FontPreferences

/-! ### Trimming and lower-casing -/

namespace Text

/-- What is left of a list that was trimmed at its start and then at its end starts as before. -/
theorem dropWhile_rdropWhile_dropWhile {α : Type} (p : α → Bool) (l : List α) :
    ((l.dropWhile p).rdropWhile p).dropWhile p = (l.dropWhile p).rdropWhile p := by
  rw [List.dropWhile_eq_self_iff]
  intro hpos
  have hfront := List.rdropWhile_prefix p (l.dropWhile p)
  have hlong : 0 < (l.dropWhile p).length := hpos.trans_le hfront.length_le
  rw [hfront.getElem hpos]
  exact List.dropWhile_get_zero_not p l hlong

theorem trim_trim (s : String) : trim (trim s) = trim s := by
  have htrim : ∀ t, trim t = String.ofList ((t.toList.dropWhile isBlank).rdropWhile isBlank) :=
    fun _ => rfl
  rw [htrim, htrim s, String.toList_ofList, dropWhile_rdropWhile_dropWhile, List.rdropWhile_idempotent]

/-- Lower-casing makes at least one character of each. -/
theorem lowerFrom_eq_nil_iff {before cs : List Char} : lowerFrom before cs = [] ↔ cs = [] := by
  cases cs with
  | nil => simp [lowerFrom]
  | cons c rest =>
    simp only [lowerFrom, reduceCtorEq, iff_false]
    split_ifs <;> simp

theorem lowerCase_eq_empty_iff {s : String} : lowerCase s = "" ↔ s = "" := by
  rw [lowerCase, ← String.toList_inj, String.toList_ofList, String.toList_empty, lowerFrom_eq_nil_iff,
    ← String.toList_inj, String.toList_empty]

end Text

namespace Catalog

/-! ### The loop over the names -/

/-- A name in lower case, without the blanks around it. -/
def folded (name : String) : String :=
  Text.lowerCase (Text.trim name)

theorem folded_eq_empty_iff {name : String} : folded name = "" ↔ Text.trim name = "" :=
  Text.lowerCase_eq_empty_iff

/-- The first spelling of the family with a folded name. -/
def firstSpelling? (names : List String) (key : String) : Option String :=
  (names.find? fun name => Text.trim name ≠ "" ∧ folded name = key).map Text.trim

theorem firstSpelling?_cons (name : String) (names : List String) (key : String) :
    firstSpelling? (name :: names) key = if Text.trim name ≠ "" ∧ folded name = key
      then some (Text.trim name) else firstSpelling? names key := by
  rw [firstSpelling?, List.find?_cons]
  by_cases h : Text.trim name ≠ "" ∧ folded name = key
  · rw [decide_eq_true h, if_pos h]
    rfl
  · rw [decide_eq_false h, if_neg h]
    rfl

theorem collect_eq (found : KeyTable String) (name : String) : collect found name =
    if (Text.trim name).isEmpty || (found.get? (folded name)).isSome then found
    else found.insert (folded name) (Text.trim name) := rfl

theorem get?_collect (found : KeyTable String) (name key : String) :
    (collect found name).get? key = (found.get? key).or
      (if Text.trim name ≠ "" ∧ folded name = key then some (Text.trim name) else none) := by
  rw [collect_eq]
  by_cases hblank : Text.trim name = ""
  · simp [hblank]
  · by_cases hkey : folded name = key
    · subst hkey
      -- a family that is known keeps its spelling
      cases hknown : found.get? (folded name) with
      | some spelling => simp [hknown]
      | none => simp [hblank, KeyTable.get?_insert]
    · have hother : ¬(Text.trim name ≠ "" ∧ folded name = key) := fun h => hkey h.2
      rw [if_neg hother, Option.or_none]
      split
      · rfl
      · rw [KeyTable.get?_insert, if_neg (Ne.symm hkey)]

/-- **The loop leaves what was found, and adds the first spelling of every other family.** -/
theorem get?_foldl_collect (names : List String) (found : KeyTable String) (key : String) :
    (names.foldl collect found).get? key = (found.get? key).or (firstSpelling? names key) := by
  induction names generalizing found with
  | nil => exact Option.or_none.symm
  | cons name names ih =>
    rw [List.foldl_cons, ih, get?_collect, firstSpelling?_cons, Option.or_assoc]
    split <;> simp

theorem get?_spellings (c : Catalog) (key : String) :
    c.spellings.get? key = firstSpelling? c.names key :=
  get?_foldl_collect c.names .empty key

/-! ### The families -/

/-- A spelling of a family, as the first one among some names. -/
structure IsFirst (names : List String) (key spelling : String) : Prop where
  not_blank : spelling ≠ ""
  trimmed : Text.trim spelling = spelling
  folded_eq : Text.lowerCase spelling = key
  /-- A name with this spelling, and none of the family before it. -/
  first : ∃ before name after, names = before ++ name :: after ∧ Text.trim name = spelling ∧
    ∀ earlier ∈ before, folded earlier ≠ key

theorem firstSpelling?_eq_some {names : List String} {key spelling : String}
    (h : firstSpelling? names key = some spelling) : IsFirst names key spelling := by
  rw [firstSpelling?, Option.map_eq_some_iff] at h
  obtain ⟨name, hfind, rfl⟩ := h
  obtain ⟨hname, before, after, rfl, hbefore⟩ := List.find?_eq_some_iff_append.1 hfind
  obtain ⟨hblank, hkey⟩ := of_decide_eq_true hname
  refine ⟨hblank, Text.trim_trim name, hkey, before, name, after, rfl, rfl, ?_⟩
  intro earlier hmem heq
  -- a blank name is of no family that has a spelling
  have hearlier : Text.trim earlier ≠ "" := fun hnone =>
    hblank (folded_eq_empty_iff.1 ((hkey.trans heq.symm).trans (folded_eq_empty_iff.2 hnone)))
  have hrejected := hbefore earlier hmem
  rw [decide_eq_true ⟨hearlier, heq⟩] at hrejected
  exact absurd hrejected (by simp)

theorem isSome_firstSpelling?_iff {names : List String} {key : String} :
    (firstSpelling? names key).isSome = true ↔
      ∃ name ∈ names, Text.trim name ≠ "" ∧ folded name = key := by
  rw [firstSpelling?, Option.isSome_map, List.find?_isSome]
  simp only [decide_eq_true_eq]

variable (c : Catalog)

theorem isFirst_of_mem_entries {c : Catalog} {e : String × String} (h : e ∈ c.spellings.entries) :
    IsFirst c.names e.1 e.2 := by
  refine firstSpelling?_eq_some ?_
  rw [← get?_spellings]
  exact KeyTable.get?_of_mem_entries h

theorem mem_keys_spellings_iff {key : String} : key ∈ c.spellings.keys ↔
    ∃ name ∈ c.names, Text.trim name ≠ "" ∧ folded name = key := by
  rw [← isSome_firstSpelling?_iff, ← get?_spellings]
  constructor
  · intro h
    obtain ⟨e, he, rfl⟩ := List.mem_map.1 h
    rw [KeyTable.get?_of_mem_entries he]
    rfl
  · intro h
    obtain ⟨spelling, hspelling⟩ := Option.isSome_iff_exists.1 h
    exact List.mem_map_of_mem (f := Prod.fst) (KeyTable.mem_of_find? hspelling)

theorem pairwise_keys_spellings : c.spellings.keys.Pairwise (· < ·) :=
  List.pairwise_map.2 c.spellings.ascending

theorem keys_spellings_eq_nil_iff : c.spellings.keys = [] ↔ ∀ name ∈ c.names, Text.trim name = "" := by
  rw [List.eq_nil_iff_forall_not_mem]
  simp only [mem_keys_spellings_iff]
  constructor
  · intro h name hmem
    by_contra hblank
    exact h (folded name) ⟨name, hmem, hblank, rfl⟩
  · rintro h key ⟨name, hmem, hblank, -⟩
    exact hblank (h name hmem)

/-- The choices that the collected spellings make. -/
def offers : List Choice :=
  c.spellings.entries.map fun e => ⟨e.2, e.2⟩

theorem families_eq : c.families =
    if c.spellings.keys = [] then .error .noFonts else .ok c.offers := by
  rw [families, offers, KeyTable.keys]
  cases c.spellings.entries <;> rfl

/-- The folded names of choices. -/
def foldedNames (choices : List Choice) : List String :=
  choices.map fun choice => Text.lowerCase choice.value

theorem foldedNames_offers : foldedNames c.offers = c.spellings.keys := by
  rw [foldedNames, offers, List.map_map, KeyTable.keys]
  exact List.map_congr_left fun e he => (isFirst_of_mem_entries he).folded_eq

/-- Each family among the names is offered once, in its first spelling, and the families stand in the
order of their folded names. -/
structure Deduplicates (names : List String) (choices : List Choice) : Prop where
  ascending : (foldedNames choices).Pairwise (· < ·)
  complete : ∀ key, key ∈ foldedNames choices ↔
    ∃ name ∈ names, Text.trim name ≠ "" ∧ folded name = key
  first : ∀ choice ∈ choices, choice.label = choice.value ∧
    IsFirst names (Text.lowerCase choice.value) choice.value

theorem deduplicates_offers : Deduplicates c.names c.offers := by
  refine ⟨?_, fun key => ?_, fun choice hmem => ?_⟩
  · rw [foldedNames_offers]
    exact c.pairwise_keys_spellings
  · rw [foldedNames_offers]
    exact c.mem_keys_spellings_iff
  · obtain ⟨e, he, rfl⟩ := List.mem_map.1 hmem
    have hfirst := isFirst_of_mem_entries he
    refine ⟨rfl, ?_⟩
    dsimp only
    rw [hfirst.folded_eq]
    exact hfirst

/-- No two choices have the same value. -/
theorem Deduplicates.nodup {names : List String} {choices : List Choice}
    (h : Deduplicates names choices) : (choices.map (·.value)).Nodup := by
  have hfolded : (foldedNames choices).Nodup := h.ascending.imp String.ne_of_lt
  have hmap : foldedNames choices = (choices.map (·.value)).map Text.lowerCase := by
    rw [List.map_map]
    rfl
  rw [hmap] at hfolded
  exact List.Pairwise.of_map Text.lowerCase (fun _ _ hne heq => hne (congrArg _ heq)) hfolded

/-! ### Catalogs of what was offered, and of the same names in another order -/

/-- Spellings that are trimmed already are their own first spellings. -/
theorem firstSpelling?_map_snd {entries : List (String × String)}
    (h : ∀ e ∈ entries, e.2 ≠ "" ∧ Text.trim e.2 = e.2 ∧ Text.lowerCase e.2 = e.1) (key : String) :
    firstSpelling? (entries.map (·.2)) key = KeyTable.find? key entries := by
  induction entries with
  | nil => rfl
  | cons e rest ih =>
    obtain ⟨hblank, htrim, hkey⟩ := h e List.mem_cons_self
    rw [List.map_cons, firstSpelling?_cons, ih fun e' he' => h e' (List.mem_cons_of_mem _ he'), folded,
      htrim, hkey, KeyTable.find?]
    simp only [hblank, ne_eq, not_false_eq_true, true_and]

theorem spellings_offers : spellings ⟨c.offers.map (·.value)⟩ = c.spellings := by
  have hvalues : c.offers.map (·.value) = c.spellings.entries.map (·.2) := List.map_map
  refine KeyTable.ext fun key => ?_
  rw [get?_spellings, hvalues]
  refine firstSpelling?_map_snd (fun e he => ?_) key
  have hfirst := isFirst_of_mem_entries he
  exact ⟨hfirst.not_blank, hfirst.trimmed, hfirst.folded_eq⟩

theorem families_congr {c c' : Catalog} (h : c'.spellings = c.spellings) :
    c'.families = c.families := by
  rw [families, h, families]

theorem map_foldedNames_families : c.families.map foldedNames =
    if c.spellings.keys = [] then .error .noFonts else .ok c.spellings.keys := by
  rw [families_eq, apply_ite (Except.map foldedNames)]
  simp only [Except.map, foldedNames_offers]

/-- The families do not depend on the order of the names. -/
theorem keys_spellings_of_perm {names names' : List String} (h : names.Perm names') :
    (spellings ⟨names'⟩).keys = (spellings ⟨names⟩).keys := by
  have hnodup : ∀ c : Catalog, c.spellings.keys.Nodup := fun c =>
    c.pairwise_keys_spellings.imp String.ne_of_lt
  refine List.Perm.eq_of_pairwise (fun a b _ _ hab hba => absurd hba (String.lt_asymm hab))
    (pairwise_keys_spellings _) (pairwise_keys_spellings _) ?_
  refine (List.perm_ext_iff_of_nodup (hnodup _) (hnodup _)).2 fun key => ?_
  rw [mem_keys_spellings_iff, mem_keys_spellings_iff]
  simp only [h.mem_iff]

/-- **What a catalog offers**, over any list of names.

* It fails exactly if every name is blank.
* Else it offers each family among the names once, in its first spelling and in the order of the
  folded names, so that no value is offered twice; and the catalog of the values offers the same.
* The order in which the names come changes spellings only: the folded names are the same, in the same
  order. -/
theorem families_deduplicated (names : List String) :
    (families ⟨names⟩ = .error .noFonts ↔ ∀ name ∈ names, Text.trim name = "") ∧
    ((∃ name ∈ names, Text.trim name ≠ "") → ∃ choices, families ⟨names⟩ = .ok choices ∧
      Deduplicates names choices ∧ (choices.map (·.value)).Nodup ∧
      families ⟨choices.map (·.value)⟩ = .ok choices) ∧
    ∀ names', names.Perm names' →
      (families ⟨names'⟩).map foldedNames = (families ⟨names⟩).map foldedNames := by
  refine ⟨?_, fun ⟨name, hmem, hblank⟩ => ?_, fun names' hperm => ?_⟩
  · rw [families_eq, ← keys_spellings_eq_nil_iff ⟨names⟩]
    simp
  · have hsome : (spellings ⟨names⟩).keys ≠ [] := fun hnil =>
      hblank ((keys_spellings_eq_nil_iff ⟨names⟩).1 hnil name hmem)
    have hfamilies : families ⟨names⟩ = .ok (offers ⟨names⟩) := by rw [families_eq, if_neg hsome]
    have hoffers := deduplicates_offers ⟨names⟩
    refine ⟨_, hfamilies, hoffers, hoffers.nodup, ?_⟩
    rw [← hfamilies]
    exact families_congr (spellings_offers ⟨names⟩)
  · rw [map_foldedNames_families, map_foldedNames_families, keys_spellings_of_perm hperm]

/-- Two families in two spellings each, one of them with a sigma at its end, and a blank name: the
first spellings are offered, and from the end of the list the other ones under the same names. -/
theorem families_deduplicated_greek :
    let names := ["Verdana", " arial", "ΟΔΟΣ", "  ", "Arial", "οδος"]
    families ⟨names⟩ = .ok [⟨"arial", "arial"⟩, ⟨"Verdana", "Verdana"⟩, ⟨"ΟΔΟΣ", "ΟΔΟΣ"⟩] ∧
    families ⟨["arial", "Verdana", "ΟΔΟΣ"]⟩ = families ⟨names⟩ ∧
    (families ⟨names.reverse⟩).map foldedNames = .ok ["arial", "verdana", "οδος"] := by
  intro names
  obtain ⟨-, hoffers, hperm⟩ := families_deduplicated names
  obtain ⟨choices, hchoices, -, -, hagain⟩ := hoffers ⟨"Verdana", by decide, by decide +kernel⟩
  have hfamilies : families ⟨names⟩
      = .ok [⟨"arial", "arial"⟩, ⟨"Verdana", "Verdana"⟩, ⟨"ΟΔΟΣ", "ΟΔΟΣ"⟩] := by
    decide +kernel +zetaReduce
  cases hchoices.symm.trans hfamilies
  refine ⟨hfamilies, hagain.trans hchoices.symm, ?_⟩
  rw [hperm _ names.reverse_perm.symm, hfamilies]
  decide +kernel

end Catalog
end FontPreferences
