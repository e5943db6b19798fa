import FontPreferences.Proofs.Page.Operations
import FontPreferences.Proofs.Preference.Layers

/-
What a pick from a list stores.

* `select_writes`: a pick that is taken attempts the writes of `Page.pickWrites`, and a refused one
  none;
* `getText?_pickWrites`: the value of the choice is the effective one of the list's preference then,
  unless policy locks it;
* `getText?_pickWrites_sansSerif`: for the serif list, of the sans-serif preference too.
-/
namespace FontPreferences
namespace Page

open Preference (Store)

theorem select_writes {p : Page} {c : Controls} (h : p.controls? = some c) (id : ListId)
    (index : Nat) : (p.select id index).writes
      = (((c.list id).select index).2.map (·.value)).toList.flatMap (pickWrites id) := by
  rw [select, h]

/-- A text that the store accepts is the effective one. -/
theorem getText?_attempt {s : Store} {key : String} (text : String)
    (hfault : s.fault? key (.text text) = none) (hfree : s.isManaged key = false) :
    (s.attempt key (.text text) Write.origin).getText? key = some text := by
  rw [Store.getText?, Store.get?_attempt_self hfault hfree]
  rfl

variable {s : Store} (hover : s.OverFontDefaults)
include hover

theorem getText?_pickWrites {id : ListId} (hfree : s.isManaged id.preferenceKey = false)
    (value : String) :
    (Write.attemptAll s (pickWrites id value)).getText? id.preferenceKey = some value := by
  have hfirst := getText?_attempt value (Store.fault?_list hover id value) hfree
  cases id with
  | serifFamily =>
    -- the second write is to another key
    have hother : ListId.serifFamily.preferenceKey ≠ Preference.sansSerifFamilyKey := by decide
    have hget := Store.get?_attempt_of_ne
      (s := s.attempt ListId.serifFamily.preferenceKey (.text value) Write.origin) hother
      (.text value) Write.origin
    rw [Store.getText?] at hfirst
    rw [← hget] at hfirst
    exact hfirst
  | fixedFamily | encoding => exact hfirst

theorem getText?_pickWrites_sansSerif
    (hfree : s.isManaged Preference.sansSerifFamilyKey = false) (value : String) :
    (Write.attemptAll s (pickWrites .serifFamily value)).getText? Preference.sansSerifFamilyKey
      = some value := by
  -- the first write leaves policy alone, and the store over its defaults
  have hsecond : ∀ t : Store, t.OverFontDefaults → t.managed = s.managed →
      (t.attempt Preference.sansSerifFamilyKey (.text value) Write.origin).getText?
        Preference.sansSerifFamilyKey = some value := by
    intro t ht hmanaged
    refine getText?_attempt value (Store.fault?_sansSerif ht value) ?_
    rw [Store.isManaged, hmanaged]
    exact hfree
  exact hsecond (s.attempt ListId.serifFamily.preferenceKey (.text value) Write.origin)
    (Store.overFontDefaults_edit hover (.set ..)) (Store.attempt_managed ..)

end Page
end FontPreferences
