import FontPreferences.Proofs.App.Locking
import FontPreferences.Proofs.SelectionList.WellFormed

/-
The lists of an app over a run.

* `Core.Listed k c`: the lists `c` of the app are well-formed, those that policy manages are bound to
  preferences that the store refuses to change, and once font lists have been applied policy is the
  only reason for a list to be disabled;
* `listed_step`: every event keeps this, a lock included;
* `listed_run`: so it holds in every state that an app reaches.

Font lists are applied by a direct answer and by every answer that waits, so that the invariant is
first shown for one answer and then folded over those that wait.
-/
namespace FontPreferences

namespace Core

/-- Once font lists have been applied, policy alone disables a list of `c`. -/
def Enables (k : Core) (c : Controls) : Prop :=
  k.fontsLoaded.isSome = true → ∀ id, (c.list id).managed = false → (c.list id).disabled = false

/-- The lists of `c` are such as the app can have. -/
structure Listed (k : Core) (c : Controls) : Prop where
  wellFormed : c.WellFormed
  enabled : k.Enables c
  policy : ∀ id, (c.list id).managed = true → k.store.isManaged id.preferenceKey = true

/-- A list that has been filled and that policy leaves free can be used. -/
theorem Listed.usable {k : Core} {c : Controls} (h : k.Listed c)
    (hloaded : k.fontsLoaded.isSome = true) {id : ListId}
    (hunlocked : k.store.isManaged id.preferenceKey = false) :
    (c.list id).managed = false ∧ (c.list id).disabled = false := by
  have hfree : (c.list id).managed = false := by
    refine Bool.eq_false_iff.2 fun hmanaged => ?_
    exact absurd (hunlocked.symm.trans (h.policy id hmanaged)) (by simp)
  exact ⟨hfree, h.enabled hloaded id hfree⟩

end Core

namespace App

variable {a : App} {c : Controls}

/-! ### Well-formed lists -/

theorem wellFormed_received (h : c.WellFormed) (r : WorkerResponse) :
    (c.received r).WellFormed := by
  cases r with
  | fonts families encodings selected => exact h.filled families encodings selected
  | failure message context => exact h

theorem wellFormed_after (h : c.WellFormed) (a : App) (m : Move) : (c.after a m).WellFormed := by
  cases m with
  | nudge id step => exact h.putSlider id _
  | slide id position => exact h.putSlider id _
  | pick id index => exact h.putList id ((h id).select index)
  | drainPreferences =>
    rw [Controls.after]
    split
    · exact h
    · exact h.synced _
  | drainWorker =>
    exact foldl_received_induction (motive := Controls.WellFormed) a.responses h
      fun _ r hc => wellFormed_received hc r
  | stay | appear | write | clear => exact h

theorem wellFormed_onEvent (h : c.WellFormed) (a : App) (e : Event) :
    (c.onEvent a e).WellFormed := by
  cases e with
  | act x => exact wellFormed_after h a _
  | receive r => exact wellFormed_received h r
  | respond | lock => exact h

/-! ### Enabled lists -/

/-- Only the answers that wait can bring font lists to the page in a move. -/
theorem fontsLoaded_move (a : App) {m : Move} (hm : m ≠ .drainWorker) :
    (a.move m).fontsLoaded = a.fontsLoaded := by
  cases m with
  | appear =>
    obtain ⟨requests, heq⟩ := showPanel_fonts a
    rw [move, heq]
  | drainPreferences =>
    obtain ⟨page, heq⟩ := drainPreferences_eq a
    rw [move, heq]
  | drainWorker => exact absurd rfl hm
  | stay | nudge | slide | pick | write | clear => rfl

/-- An answer with font lists enables every free list, and a failure changes none. -/
theorem enables_receive (h : a.core.Enables c) (r : WorkerResponse) :
    (a.receive r).core.Enables (c.received r) := by
  cases r with
  | fonts families encodings selected =>
    intro _ id hfree
    rw [managed_received] at hfree
    rw [Controls.received, Controls.list_filled, SelectionList.populate, hfree, Bool.false_and]
  | failure message context => exact h

theorem enables_foldl_receive (responses : List WorkerResponse) {a : App} {c : Controls}
    (h : a.core.Enables c) :
    (responses.foldl receive a).core.Enables (responses.foldl Controls.received c) := by
  induction responses generalizing a c with
  | nil => exact h
  | cons r responses ih => exact ih (enables_receive h r)

theorem enables_move (h : a.core.Enables c) (m : Move) :
    (a.move m).core.Enables (c.after a m) := by
  by_cases hm : m = .drainWorker
  · subst hm
    exact enables_foldl_receive a.responses (a := { a with responses := [] }) h
  · intro hloaded id hfree
    have hsame := reselected_after c a hm id
    change (a.move m).fontsLoaded.isSome = true at hloaded
    rw [fontsLoaded_move a hm] at hloaded
    rw [hsame.managed] at hfree
    rw [hsame.disabled]
    exact h hloaded id hfree

theorem enables_step (h : a.core.Enables c) (e : Event) :
    (a.step e).core.Enables (c.onEvent a e) := by
  cases e with
  | act x =>
    rw [step, core_act]
    exact enables_move h (a.moveOf x)
  | receive r => exact enables_receive h r
  | respond | lock => exact h

/-! ### Runs -/

theorem listed_step (h : a.core.Listed c) (e : Event) : (a.step e).core.Listed (c.onEvent a e) := by
  refine ⟨wellFormed_onEvent h.wellFormed a e, enables_step h.enabled e, fun id hmanaged => ?_⟩
  rw [managed_list_onEvent] at hmanaged
  exact isManaged_step a e (h.policy id hmanaged)

theorem listed_new (store : Preference.Store) (strings : LocalizedStrings) :
    (new store strings).core.Listed (newControls store strings) := by
  refine ⟨(Controls.wellFormed_startControls _ _).synced _, fun hloaded => ?_,
    fun id hmanaged => ?_⟩
  · exact absurd hloaded (by simp [core, new])
  · rw [managed_list_newControls] at hmanaged
    exact hmanaged

/-- **In every run the app has the lists that it can have.** -/
theorem listed_run (store : Preference.Store) (strings : LocalizedStrings) (events : List Event) :
    ∃ c, ((new store strings).run events).core.Sound c ∧
      ((new store strings).run events).core.Listed c :=
  run_induction (motive := fun b => ∃ c, b.core.Sound c ∧ b.core.Listed c)
    ⟨_, sound_new store strings, listed_new store strings⟩
    fun _ ⟨_, hsound, hlisted⟩ e _ => ⟨_, sound_step hsound e, listed_step hlisted e⟩

end App
end FontPreferences
