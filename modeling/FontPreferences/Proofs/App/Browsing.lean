import FontPreferences.Proofs.App.Lists
import FontPreferences.Proofs.Page.Picking

/-
Walking through a list.

A step of the list with the focus goes to the page as an index, from there to the store as a value,
and with the next drain back into the list as the index of that value.

* `Stroke` is a step or a drain, `App.browse` a run of them, and `Stroke.place` where a stroke is to
  lead from a place among `n` choices: one place on and back, as far as there are choices;
* `StandsAt a id l j`: the list `id` of the app is `l` with choice `j` selected, and the value of that
  choice is stored; `Browses` is that with what a stroke needs beside it;
* `adjust_of_end`, `adjust_of_picks`: a step does nothing at an end, and elsewhere picks the choice
  that it leads to;
* `Browses.standsAt_drain`: a drain finds the same choice again, because no other one has its value;
* `Browses.step`, `Browses.browse`: a stroke leads from standing at a choice to standing at its
  place, and so does a run of strokes;
* `browse_walks`: so it is in every state that an app reaches.
-/
namespace FontPreferences

open Preference (Store)

/-- A step of the list with the focus, or a drain of the changes of the preferences. -/
inductive Stroke where
  | adjust (step : Step)
  | drain
deriving DecidableEq

namespace Stroke

def event : Stroke → Event
  | .adjust step => .act (.adjust step)
  | .drain => .act .drainPreferences

/-- How far a stroke is to lead. -/
def offset : Stroke → Int
  | .adjust .increase => 1
  | .adjust .decrease => -1
  | .drain => 0

/-- Where a stroke is to lead from a place among `n` choices. -/
def place (n i : Nat) (x : Stroke) : Nat :=
  (max 0 (min ((n : Int) - 1) (i + x.offset))).toNat

theorem place_lt {n i : Nat} (h : i < n) (x : Stroke) : x.place n i < n := by
  rw [place]
  omega

theorem place_drain {n i : Nat} (h : i < n) : drain.place n i = i := by
  simp only [place, offset]
  omega

end Stroke

namespace SelectionList

/-- With distinct values, the choice found by a value is the very one that has it. -/
theorem indexOf?_of_nodup {choices : List Choice} (h : (choices.map (·.value)).Nodup) {i : Nat}
    {choice : Choice} (hchoice : choices[i]? = some choice) :
    indexOf? choices choice.value = some i := by
  obtain ⟨hi, rfl⟩ := List.getElem?_eq_some_iff.1 hchoice
  rw [indexOf?, List.findIdx?_eq_some_iff_getElem]
  refine ⟨hi, beq_self_eq_true _, fun k hk => ?_⟩
  have hne := List.pairwise_iff_getElem.1 h k i (by simpa using hk.trans hi) (by simpa using hi) hk
  simpa using hne

end SelectionList

namespace App

/-- The app after a run of strokes. -/
def browse (a : App) (strokes : List Stroke) : App :=
  a.run (strokes.map (·.event))

/-- The list `id` of the app is `l` with choice `j` selected, and the value of that choice is
stored. -/
structure StandsAt (a : App) (id : ListId) (l : SelectionList) (j : Nat) : Prop where
  inRange : j < l.choices.length
  list : a.page.list? id = some { l with selected := some j }
  stored : a.store.getText? id.preferenceKey = l.choices[j]?.map (·.value)

/-- For the serif list, the value of choice `j` is stored as the sans-serif family too, unless policy
locks that. -/
def SansSerifAt (a : App) (id : ListId) (l : SelectionList) (j : Nat) : Prop :=
  id = .serifFamily → a.store.isManaged Preference.sansSerifFamilyKey = false →
    a.store.getText? Preference.sansSerifFamilyKey = l.choices[j]?.map (·.value)

variable {a : App} {c : Controls} {id : ListId} {l : SelectionList}

/-! ### The focus -/

theorem adjust_eq_adjustList (h : a.focus.kind = .list id) (s : Step) :
    a.adjust s = a.adjustList id s := by
  rw [adjust, h]

theorem focus_adjustList (a : App) (id : ListId) (s : Step) :
    (a.adjustList id s).focus = a.focus := by
  rw [adjustList]
  split
  · rfl
  · split
    · rfl
    · split
      · rfl
      · dsimp only
        split
        · rfl
        · split <;> rfl

theorem focus_drainPreferences (a : App) : a.drainPreferences.1.focus = a.focus := by
  obtain ⟨page, heq⟩ := drainPreferences_eq a
  rw [heq]

/-- A stroke leaves the focus where it is. -/
theorem focus_stroke (h : a.focus.kind = .list id) (x : Stroke) :
    (a.step x.event).focus = a.focus := by
  cases x with
  | adjust s =>
    show (a.adjust s).focus = a.focus
    rw [adjust_eq_adjustList h]
    exact focus_adjustList a id s
  | drain => exact focus_drainPreferences a

/-! ### One step -/

section adjust

variable (hfocus : a.focus.kind = .list id) (hlist : a.page.list? id = some l)
  (hfree : l.managed = false) (henabled : l.disabled = false) {s : Step}
include hfocus hlist hfree henabled

/-- At an end of the list a step does nothing at all. -/
theorem adjust_of_end (hend : l.selected = some (stepIndex l s)) : a.adjust s = a := by
  rw [adjust_eq_adjustList hfocus, adjustList, hlist]
  simp [hfree, henabled, ← hend]

/-- Elsewhere a step picks the choice that it leads to. -/
theorem adjust_of_picks (hsound : a.core.Sound c) (hmoves : l.selected ≠ some (stepIndex l s))
    {choice : Choice} (hchoice : l.choices[stepIndex l s]? = some choice) :
    (a.adjust s).page.list? id = some { l with selected := some (stepIndex l s) } ∧
      (a.adjust s).store = Write.attemptAll a.store (Page.pickWrites id choice.value) := by
  have hmove : a.adjustMove s = .pick id (stepIndex l s) := by
    rw [adjustMove, hfocus]
    dsimp only
    rw [hlist]
    simp [hfree, henabled, hmoves]
  have hcore := core_adjust a s
  rw [hmove] at hcore
  have hcontrols : a.page.controls? = some c := hsound.controls
  have hl : c.list id = l := Page.list_eq_of_list? hcontrols hlist
  have hselect : l.select (stepIndex l s)
      = ({ l with selected := some (stepIndex l s) }, some choice) := by
    simp [SelectionList.select, henabled, hchoice]
  constructor
  · have hpage : (a.adjust s).page = (a.page.select id (stepIndex l s)).page :=
      congrArg Core.page hcore
    have hafter := Page.withControls_controls? hcontrols
      (c.putList id ((c.list id).select (stepIndex l s)).1)
    rw [hpage, select_page hcontrols, Page.list?_eq hafter, Controls.list_putList, if_pos rfl, hl,
      hselect]
  · have hstore : (a.adjust s).store
        = Write.attemptAll a.store (a.page.select id (stepIndex l s)).writes :=
      congrArg Core.store hcore
    rw [hstore, Page.select_writes hcontrols, hl, hselect]
    simp

/-- A step that moves the selection stores the choice that it leads to. -/
theorem standsAt_of_picks (hsound : a.core.Sound c) (hover : a.store.OverFontDefaults)
    (hunlocked : a.store.isManaged id.preferenceKey = false)
    (hmoves : l.selected ≠ some (stepIndex l s)) (hlt : stepIndex l s < l.choices.length) :
    (a.adjust s).StandsAt id l (stepIndex l s) ∧ (a.adjust s).SansSerifAt id l (stepIndex l s) := by
  have hchoice := List.getElem?_eq_getElem hlt
  obtain ⟨hafter, hstore⟩ := adjust_of_picks hfocus hlist hfree henabled hsound hmoves hchoice
  refine ⟨⟨hlt, hafter, ?_⟩, fun hserif hsans => ?_⟩
  · rw [hstore, hchoice]
    exact Page.getText?_pickWrites hover hunlocked _
  · have hpolicy : (a.adjust s).store.managed = a.store.managed := managed_act a (.adjust s)
    rw [Store.isManaged, hpolicy] at hsans
    subst hserif
    rw [hstore, hchoice]
    exact Page.getText?_pickWrites_sansSerif hover hsans _

end adjust

/-! ### Runs of strokes -/

/-- Standing at a choice, with what a stroke needs and keeps beside that. -/
structure Browses (a : App) (id : ListId) (l : SelectionList) (j : Nat) : Prop
    extends a.StandsAt id l j where
  focus : a.focus.kind = .list id
  sound : ∃ c, a.core.Sound c
  prepared : a.store.OverFontDefaults
  unlocked : a.store.isManaged id.preferenceKey = false

section browse

variable (hfree : l.managed = false) (henabled : l.disabled = false)
  (hdistinct : (l.choices.map (·.value)).Nodup) {j : Nat}

/-- The index that a step of the app leads to is the place of the stroke. -/
theorem stepIndex_eq_place (h : j < l.choices.length) (s : Step) :
    stepIndex { l with selected := some j } s = (Stroke.adjust s).place l.choices.length j := by
  cases s <;> simp only [stepIndex, Stroke.place, Stroke.offset] <;> omega

include henabled hdistinct in
/-- A drain finds the choice that is stored again. -/
theorem Browses.standsAt_drain (h : a.Browses id l j) :
    a.drainPreferences.1.StandsAt id l j := by
  obtain ⟨c, hsound⟩ := h.sound
  have hcontrols : a.page.controls? = some c := hsound.controls
  have hstored : a.drainPreferences.1.store.getText? id.preferenceKey
      = a.store.getText? id.preferenceKey := by
    rw [drainPreferences_store]
    exact Store.getText?_congr (Store.get?_drain _ _) _
  refine ⟨h.inRange, ?_, hstored.trans h.stored⟩
  by_cases hquiet : a.store.Quiet a.observer
  · rw [drainPreferences_of_quiet hquiet]
    exact h.list
  · rw [drainPreferences_of_not_quiet hsound.subscribed hquiet] at hstored ⊢
    have hl : c.list id = { l with selected := some j } := Page.list_eq_of_list? hcontrols h.list
    have hchoice := List.getElem?_eq_getElem h.inRange
    have hvalue := hstored.trans h.stored
    rw [hchoice] at hvalue
    -- the list is enabled, so that it selects by the stored value, and no other choice has that
    have hsynced := Page.syncList_eq (l := { l with selected := some j })
      (fun hdisabled => absurd (henabled.symm.trans hdisabled) (by simp)) hvalue
    rw [Page.list?_eq (Page.resync_controls? hcontrols _), Controls.list_synced, hl]
    rw [hsynced, SelectionList.selectValue, SelectionList.indexOf?_of_nodup hdistinct hchoice]

include hfree henabled

theorem Browses.adjust_of_end (h : a.Browses id l j) {s : Step}
    (hend : (Stroke.adjust s).place l.choices.length j = j) : a.adjust s = a := by
  refine App.adjust_of_end h.focus h.list hfree henabled ?_
  rw [stepIndex_eq_place h.inRange, hend]

theorem Browses.standsAt_of_moves (h : a.Browses id l j) {s : Step}
    (hmoves : (Stroke.adjust s).place l.choices.length j ≠ j) :
    (a.adjust s).StandsAt id l ((Stroke.adjust s).place l.choices.length j) ∧
      (a.adjust s).SansSerifAt id l ((Stroke.adjust s).place l.choices.length j) := by
  obtain ⟨c, hsound⟩ := h.sound
  have hlt := Stroke.place_lt h.inRange (.adjust s)
  rw [← stepIndex_eq_place h.inRange s] at hmoves hlt ⊢
  obtain ⟨hstands, hsans⟩ := standsAt_of_picks h.focus h.list hfree henabled hsound h.prepared
    h.unlocked (fun heq => hmoves (Option.some_inj.1 heq).symm) hlt
  exact ⟨⟨hstands.inRange, hstands.list, hstands.stored⟩, hsans⟩

include hdistinct

/-- **A stroke leads from standing at a choice to standing at its place.** -/
theorem Browses.step (h : a.Browses id l j) (x : Stroke) :
    (a.step x.event).Browses id l (x.place l.choices.length j) := by
  have hstands : (a.step x.event).StandsAt id l (x.place l.choices.length j) := by
    cases x with
    | adjust s =>
      show (a.adjust s).StandsAt id l _
      by_cases hend : (Stroke.adjust s).place l.choices.length j = j
      · rw [h.adjust_of_end hfree henabled hend, hend]
        exact h.toStandsAt
      · exact (h.standsAt_of_moves hfree henabled hend).1
    | drain =>
      rw [Stroke.place_drain h.inRange]
      exact h.standsAt_drain henabled hdistinct
  obtain ⟨c, hsound⟩ := h.sound
  have hpolicy : (a.step x.event).store.managed = a.store.managed :=
    managed_step a (by cases x <;> simp [Stroke.event])
  refine ⟨hstands, ?_, ⟨_, sound_step hsound x.event⟩, overFontDefaults_step h.prepared x.event, ?_⟩
  · rw [focus_stroke h.focus]
    exact h.focus
  · rw [Store.isManaged, hpolicy]
    exact h.unlocked

theorem Browses.browse (h : a.Browses id l j) (strokes : List Stroke) :
    (a.browse strokes).Browses id l
      (strokes.foldl (fun i x => x.place l.choices.length i) j) := by
  induction strokes generalizing a j with
  | nil => exact h
  | cons x strokes ih => exact ih (h.step hfree henabled hdistinct x)

end browse

/-- **Navigation walks the choices one by one.**  Take a state of a run over a prepared store in which
font lists have been applied, the focus is on a list whose values are distinct, and policy leaves its
preference free.  If the list stands at the stored choice, every sequence of steps and drains leads
it from place to place, one on or back at each step as far as there are choices; what it stands at is
stored, as the sans-serif family too after a step of the serif list that moved; a step at an end does
nothing, and a drain moves nothing.  If nothing is selected, a step in either direction leads to the
first choice. -/
theorem browse_walks (edits : List Store.Edit) (strings : LocalizedStrings) (events : List Event)
    (id : ListId) (l : SelectionList) :
    let a := (new (Store.withFontDefaults.edited edits) strings).run events
    a.focus.kind = .list id → a.fontsLoaded.isSome = true →
    a.store.isManaged id.preferenceKey = false → (l.choices.map (·.value)).Nodup →
    (∀ i, a.StandsAt id l i → ∀ strokes : List Stroke,
      let b := a.browse strokes
      let j := strokes.foldl (fun k x => x.place l.choices.length k) i
      b.StandsAt id l j ∧ b.drainPreferences.1.StandsAt id l j ∧ ∀ s,
        let j' := (Stroke.adjust s).place l.choices.length j
        (j' = j → b.adjust s = b) ∧
        (j' ≠ j → (b.adjust s).StandsAt id l j' ∧ (b.adjust s).SansSerifAt id l j')) ∧
    (a.page.list? id = some l → l.selected = none → l.choices ≠ [] → ∀ s,
      (a.adjust s).StandsAt id l 0 ∧ (a.adjust s).SansSerifAt id l 0) := by
  intro a hfocus hloaded hunlocked hdistinct
  obtain ⟨c, hsound, hlisted⟩ := listed_run (Store.withFontDefaults.edited edits) strings events
  have hover : a.store.OverFontDefaults := overFontDefaults_run
    (Store.overFontDefaults_edit (Store.overFontDefaults_edited edits) .observe) events
  have hcontrols : a.page.controls? = some c := hsound.controls
  obtain ⟨hfree, henabled⟩ := hlisted.usable hloaded hunlocked
  refine ⟨fun i hstands strokes => ?_, fun hl hnone hchoices s => ?_⟩
  · have hl : c.list id = { l with selected := some i } :=
      Page.list_eq_of_list? hcontrols hstands.list
    have hfree : l.managed = false := by rwa [hl] at hfree
    have henabled : l.disabled = false := by rwa [hl] at henabled
    have hstart : a.Browses id l i := ⟨hstands, hfocus, ⟨c, hsound⟩, hover, hunlocked⟩
    have hend := hstart.browse hfree henabled hdistinct strokes
    exact ⟨hend.toStandsAt, hend.standsAt_drain henabled hdistinct, fun s =>
      ⟨hend.adjust_of_end hfree henabled, hend.standsAt_of_moves hfree henabled⟩⟩
  · have hsame : c.list id = l := Page.list_eq_of_list? hcontrols hl
    rw [hsame] at hfree henabled
    have hindex : stepIndex l s = 0 := by simp [stepIndex, hnone]
    have hpicks := standsAt_of_picks hfocus hl hfree henabled hsound hover hunlocked
      (s := s) (by simp [hnone]) (by rw [hindex]; exact List.length_pos_iff.2 hchoices)
    rw [hindex] at hpicks
    exact hpicks

open Preference in
/-- From the second of three families to the last, where a step stays, and back; and from a family
that the font lists do not offer to the first. -/
theorem browse_walks_families :
    let families : List Choice :=
      [⟨"Arial", "Arial"⟩, ⟨"Georgia", "Georgia"⟩, ⟨"Verdana", "Verdana"⟩]
    let l : SelectionList := ⟨families, none, false, false⟩
    let filled (wanted : String) := (new (Store.withFontDefaults.edited
      [.set serifFamilyKey (.text "Georgia") ""]) default).run
        [.receive (.fonts families [] [wanted, "", ""])]
    let a := (filled "Georgia").browse
      [.adjust .increase, .drain, .adjust .increase, .adjust .decrease]
    (a.StandsAt .serifFamily l 1 ∧ (a.adjust .increase).SansSerifAt .serifFamily l 2) ∧
      ((filled "Helvetica").adjust .decrease).StandsAt .serifFamily l 0 := by
  intro families l filled a
  -- as one evaluation of the states that the strokes start from
  have hchecks : (∀ wanted ∈ ["Georgia", "Helvetica"], (filled wanted).fontsLoaded.isSome = true ∧
      (filled wanted).store.isManaged serifFamilyKey = false) ∧
      (filled "Georgia").page.list? .serifFamily = some { l with selected := some 1 } ∧
      (filled "Georgia").store.getText? serifFamilyKey = some "Georgia" ∧
      (filled "Helvetica").page.list? .serifFamily = some l := by
    decide +kernel
  obtain ⟨hready, hgeorgia, hstored, hhelvetica⟩ := hchecks
  have hwalks := fun wanted (hwanted : wanted ∈ ["Georgia", "Helvetica"]) =>
    browse_walks [.set serifFamilyKey (.text "Georgia") ""] default
      [.receive (.fonts families [] [wanted, "", ""])] .serifFamily l rfl (hready wanted hwanted).1
      (hready wanted hwanted).2 (by decide)
  obtain ⟨hwalk, -⟩ := hwalks "Georgia" (by decide)
  obtain ⟨-, hnone⟩ := hwalks "Helvetica" (by decide)
  have hplace : [Stroke.adjust .increase, .drain, .adjust .increase, .adjust .decrease].foldl
      (fun k x => x.place l.choices.length k) 1 = 1 := by decide
  obtain ⟨hend, -, hnext⟩ := hwalk 1 ⟨by decide, hgeorgia, hstored⟩
    [.adjust .increase, .drain, .adjust .increase, .adjust .decrease]
  rw [hplace] at hend hnext
  obtain ⟨-, hsans⟩ := (hnext .increase).2 (by decide)
  obtain ⟨hfirst, -⟩ := hnone hhelvetica rfl (by decide) .decrease
  exact ⟨⟨hend, hsans⟩, hfirst⟩

end App
end FontPreferences
