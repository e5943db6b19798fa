import FontPreferences.Proofs.App.Run

/-
What a page writes.

A `PageEvent` is anything that can happen to a page, in any order: operations of the user and of the
program around it, before or after the controls are built, and changes of the store behind it.

* `Built p`: whatever controls the page has, its sliders are those that the page builds;
* `built_outcome`, `built_run`: every event keeps this, so it holds in every state of a page;
* `outcome_writes`: an event writes its keys (`PageEvent.keys`), in order, exactly if it changed the
  value of its control, and nothing otherwise;
* `mem_of_isMotion`: the value is a permitted one if the control is a slider;
* `drainPreferences_twice`: reading the store again makes no change that waits to be read;
* `page_writes`: all of it, in every state.
-/
namespace FontPreferences

open Preference (Store Value)

/-- Something that happens to a page. -/
inductive PageEvent where
  | setUp
  | appear
  | receive (fonts encodings : List Choice) (selected : List String)
  | resync
  | refresh
  /-- A sample is updated from outside. -/
  | render (id : SliderId) (size : Int32) (family : Option String)
  | input (id : SliderId) (position : Nat)
  | nudge (id : SliderId) (step : Step)
  | pick (id : ListId) (index : Nat)
  /-- The store becomes another one behind the page. -/
  | outside (store : Store)

namespace PageEvent

/-- The keys that an event writes if it changes its control, in order. -/
def keys : PageEvent → List String
  | .input id _ | .nudge id _ =>
    (if id = .minimumSize then [Preference.minimumLogicalFontSizeKey] else []) ++ [id.preferenceKey]
  | .pick id _ =>
    id.preferenceKey :: (if id = .serifFamily then [Preference.sansSerifFamilyKey] else [])
  | .setUp | .appear | .receive .. | .resync | .refresh | .render .. | .outside _ => []

/-- Whether an event moves a slider. -/
inductive IsMotion (id : SliderId) : PageEvent → Prop where
  | input (position : Nat) : IsMotion id (.input id position)
  | nudge (step : Step) : IsMotion id (.nudge id step)

end PageEvent

/-- An outcome with the value of its control in another form. -/
def PageOutcome.map {α β : Type} (o : PageOutcome α) (f : α → β) : PageOutcome β :=
  ⟨o.page, o.changed.map f, o.writes⟩

/-- A page over its store. -/
structure Mounted where
  page : Page
  store : Store

namespace Mounted

/-- A page before its controls are built, over a store. -/
def new (strings : LocalizedStrings) (store : Store) : Mounted :=
  ⟨.new strings, store⟩

/-- What an event does to the page, with the writes that it attempts. -/
def outcome (m : Mounted) : PageEvent → PageOutcome Value
  | .setUp => ⟨m.page.setUp m.store, none, []⟩
  | .appear => ⟨m.page.appear.1, none, []⟩
  | .receive fonts encodings selected => ⟨m.page.receiveFonts fonts encodings selected, none, []⟩
  | .resync => ⟨m.page.resync m.store, none, []⟩
  | .refresh => ⟨m.page.refreshSamples m.store, none, []⟩
  | .render id size family => ⟨m.page.renderSample id size family, none, []⟩
  | .input id position => (m.page.input id position).map .integer
  | .nudge id step => (m.page.nudge id step).map .integer
  | .pick id index => (m.page.select id index).map .text
  | .outside _ => ⟨m.page, none, []⟩

/-- A page and its store after an event. -/
def step (m : Mounted) (e : PageEvent) : Mounted :=
  let o := m.outcome e
  match e with
  | .outside store => ⟨o.page, store⟩
  | _ => ⟨o.page, Write.attemptAll m.store o.writes⟩

/-- A page and its store after a run of events. -/
def run (m : Mounted) (events : List PageEvent) : Mounted :=
  events.foldl step m

end Mounted

namespace Page

variable {p : Page} {c : Controls}

/-- The sliders of a page are those that it builds, if it has any. -/
def Built (p : Page) : Prop :=
  ∀ c, p.controls? = some c → ∀ id, (c.slider id).BuiltFor id

theorem built_new (strings : LocalizedStrings) : (new strings).Built :=
  fun _ h => absurd h (by simp [new, controls?])

theorem Built.of_controls? {q : Page} (h : p.Built) (hq : q.controls? = p.controls?) : q.Built :=
  fun c hc => h c (hq ▸ hc)

theorem built_of_controls? (hc : p.controls? = some c) (h : ∀ id, (c.slider id).BuiltFor id) :
    p.Built := by
  intro c' hc'
  rw [hc, Option.some_inj] at hc'
  exact hc' ▸ h

/-! ### Every operation keeps the sliders -/

theorem built_setUp (h : p.Built) (store : Store) : (p.setUp store).Built := by
  rw [setUp]
  split
  · exact h
  · refine built_of_controls? (c := p.startControls store) rfl fun id => ?_
    rw [slider_startControls]
    exact builtFor_buildSlider store id

theorem built_receiveFonts (h : p.Built) (fonts encodings : List Choice) (selected : List String) :
    (p.receiveFonts fonts encodings selected).Built := by
  cases hc : p.controls? with
  | none =>
    rw [receiveFonts, hc]
    exact h
  | some c =>
    rw [receiveFonts_eq hc]
    refine built_of_controls? (withControls_controls? hc _) fun id => ?_
    rw [Controls.slider_filled]
    exact h c hc id

theorem built_resync (h : p.Built) (store : Store) : (p.resync store).Built := by
  cases hc : p.controls? with
  | none =>
    rw [resync, hc]
    exact h
  | some c =>
    refine built_of_controls? (resync_controls? hc store) fun id => ?_
    rw [Controls.slider_synced]
    exact builtFor_syncSlider (h c hc id) store

theorem refreshSamples_controls? (p : Page) (store : Store) :
    (p.refreshSamples store).controls? = p.controls? := by
  rw [refreshSamples]
  split <;> rfl

theorem built_takeMotion (h : p.Built) (hc : p.controls? = some c) {id : SliderId} {m : Motion}
    (hm : (c.slider id).Moves m) : (p.takeMotion c id m).page.Built := by
  refine built_of_controls? (takeMotion_controls? hc (h c hc id) hm) fun id' => ?_
  rw [Controls.slider_putSlider]
  split
  · next heq =>
    subst heq
    exact (h c hc id').moves hm
  · exact h c hc id'

theorem built_select (h : p.Built) (id : ListId) (index : Nat) : (p.select id index).page.Built := by
  rw [select]
  split
  · exact h
  · next c hc =>
    refine built_of_controls? (withControls_controls? hc _) fun id' => ?_
    rw [Controls.slider_putList]
    exact h c hc id'

end Page

namespace Mounted

variable {m : Mounted}

theorem built_outcome (h : m.page.Built) (e : PageEvent) : (m.outcome e).page.Built := by
  cases e with
  | setUp => exact Page.built_setUp h m.store
  | appear => exact h.of_controls? (Page.appear_controls? m.page)
  | receive fonts encodings selected => exact Page.built_receiveFonts h fonts encodings selected
  | resync => exact Page.built_resync h m.store
  | refresh => exact h.of_controls? (Page.refreshSamples_controls? m.page m.store)
  | render id size family => exact h.of_controls? rfl
  | input id position =>
    show (m.page.input id position).page.Built
    rw [Page.input]
    split
    · exact h
    · next c hc => exact Page.built_takeMotion h hc (Slider.moves_input _ position)
  | nudge id step =>
    show (m.page.nudge id step).page.Built
    rw [Page.nudge]
    split
    · exact h
    · next c hc => exact Page.built_takeMotion h hc (Slider.moves_nudge _ step)
  | pick id index => exact Page.built_select h id index
  | outside store => exact h

theorem step_page (m : Mounted) (e : PageEvent) : (m.step e).page = (m.outcome e).page := by
  cases e <;> rfl

/-- **In every state of a page its sliders are those that it builds.** -/
theorem built_run (strings : LocalizedStrings) (store : Store) (events : List PageEvent) :
    ((new strings store).run events).page.Built := by
  have hnew : (new strings store).page.Built := Page.built_new strings
  refine List.foldlRecOn (motive := fun m => m.page.Built) events step hnew fun m hm e _ => ?_
  rw [step_page]
  exact built_outcome hm e

/-! ### What is written -/

/-- The writes of a new value to keys, one after the other; none without a new value. -/
def writesTo (keys : List String) (changed : Option Value) : List Write :=
  changed.toList.flatMap fun value => keys.map fun key => ⟨key, value⟩

theorem takeMotion_writes_eq {p : Page} (h : p.Built) {c : Controls} (hc : p.controls? = some c)
    {id : SliderId} {motion : Motion} (hm : (c.slider id).Moves motion) :
    (p.takeMotion c id motion).writes
      = writesTo ((if id = .minimumSize then [Preference.minimumLogicalFontSizeKey] else [])
        ++ [id.preferenceKey]) (motion.changed.map .integer) := by
  rw [Page.takeMotion_writes p c (h c hc id) hm]
  cases motion.changed with
  | none => rfl
  | some value => cases id <;> rfl

/-- **An event writes its keys exactly if it changes its control.** -/
theorem outcome_writes (h : m.page.Built) (e : PageEvent) :
    (m.outcome e).writes = writesTo e.keys (m.outcome e).changed := by
  cases e with
  | input id position =>
    show (m.page.input id position).writes = writesTo _ ((m.page.input id position).changed.map _)
    rw [Page.input]
    split
    · rfl
    · next c hc => exact takeMotion_writes_eq h hc (Slider.moves_input _ position)
  | nudge id step =>
    show (m.page.nudge id step).writes = writesTo _ ((m.page.nudge id step).changed.map _)
    rw [Page.nudge]
    split
    · rfl
    · next c hc => exact takeMotion_writes_eq h hc (Slider.moves_nudge _ step)
  | pick id index =>
    show (m.page.select id index).writes = writesTo _ ((m.page.select id index).changed.map _)
    rw [Page.select]
    split
    · rfl
    · next c hc =>
      obtain ⟨l, picked⟩ := (c.list id).select index
      cases picked with
      | none => rfl
      | some choice => cases id <;> rfl
  | setUp | appear | receive | resync | refresh | render | outside => rfl

/-- A slider of the page announces permitted values only. -/
theorem mem_of_moves {s : Slider} {id : SliderId} (h : s.BuiltFor id) {motion : Motion}
    (hm : s.Moves motion) {n : Int32} (hn : motion.changed = some n) : n ∈ id.valueMap.values := by
  have hvalue : motion.slider.value = n := by
    rw [hm.value_eq, hn]
    rfl
  exact hvalue ▸ (h.moves hm).mem

theorem mem_of_isMotion (h : m.page.Built) {e : PageEvent} {id : SliderId} (he : e.IsMotion id)
    {value : Value} (hvalue : (m.outcome e).changed = some value) :
    ∃ n ∈ id.valueMap.values, value = .integer n := by
  cases he with
  | input position =>
    obtain ⟨n, hn, rfl⟩ := Option.map_eq_some_iff.1 hvalue
    rw [Page.input] at hn
    split at hn
    · exact absurd hn (by simp)
    · next c hc => exact ⟨n, mem_of_moves (h c hc id) (Slider.moves_input _ position) hn, rfl⟩
  | nudge step =>
    obtain ⟨n, hn, rfl⟩ := Option.map_eq_some_iff.1 hvalue
    rw [Page.nudge] at hn
    split at hn
    · exact absurd hn (by simp)
    · next c hc => exact ⟨n, mem_of_moves (h c hc id) (Slider.moves_nudge _ step) hn, rfl⟩

/-- An event does to the store what its writes do, all of them without a tag. -/
theorem step_store (m : Mounted) {e : PageEvent} (he : ∀ store, e ≠ .outside store) :
    (m.step e).store
      = m.store.edited ((m.outcome e).writes.map fun w => .set w.key w.value "") := by
  have hwrites := Write.attemptAll_eq_edited m.store (m.outcome e).writes
  cases e with
  | outside store => exact absurd rfl (he store)
  | setUp | appear | receive | resync | refresh | render | input | nudge | pick => exact hwrites

end Mounted

/-! ### Reading the store again -/

theorem Preference.Store.waiting_drain (s : Store) (o : Nat) :
    ((s.drain o).1.pending? o).getD [] = [] := by
  cases hpending : s.pending? o with
  | none => simp [drain, hpending]
  | some pending =>
    have hquiet : (s.drain o).1.pending? o = some [] := quiet_drain (by rw [hpending]; rfl)
    rw [hquiet]
    rfl

namespace App

theorem drainPreferences_snd (a : App) :
    a.drainPreferences.2 = ((a.store.pending? a.observer).getD []).length := by
  rw [← Preference.Store.drain_snd]
  rfl

/-- Bringing the page in line makes no change that would have to be taken again. -/
theorem drainPreferences_twice (a : App) : a.drainPreferences.1.drainPreferences.2 = 0 := by
  have hobserver : a.drainPreferences.1.observer = a.observer := move_observer a .drainPreferences
  rw [drainPreferences_snd, hobserver, drainPreferences_store, Preference.Store.waiting_drain]
  rfl

theorem drainPreferences_sameLayers (a : App) : a.drainPreferences.1.store.SameLayers a.store := by
  rw [drainPreferences_store]
  exact ⟨Preference.Store.drain_defaults .., Preference.Store.drain_user ..,
    Preference.Store.drain_managed ..⟩

end App

/-- **The page writes exactly what the user changed.**  In every state of a page, an event of the user
that gives its control a new value attempts to write it to the keys of the event, once each and in
order, and nothing else is ever written; sliders write permitted values only, and no write has a tag.
In particular reading the store again writes nothing, so directly after it nothing waits to be read. -/
theorem page_writes (strings : LocalizedStrings) (store : Store) (events : List PageEvent)
    (e : PageEvent) :
    let m := (Mounted.new strings store).run events
    let o := m.outcome e
    o.writes = Mounted.writesTo e.keys o.changed ∧
    (∀ id value, e.IsMotion id → o.changed = some value →
      ∃ n ∈ id.valueMap.values, value = .integer n) ∧
    ((∀ store, e ≠ .outside store) →
      (m.step e).store = m.store.edited (o.writes.map fun w => .set w.key w.value "")) ∧
    ∀ a : App, a.drainPreferences.1.store.SameLayers a.store ∧
      a.drainPreferences.1.drainPreferences.2 = 0 := by
  intro m o
  have hbuilt : m.page.Built := Mounted.built_run strings store events
  exact ⟨Mounted.outcome_writes hbuilt e, fun id value he => Mounted.mem_of_isMotion hbuilt he,
    Mounted.step_store m, fun a => ⟨App.drainPreferences_sameLayers a, App.drainPreferences_twice a⟩⟩

/-- A step of the minimum slider goes to the logical minimum too, and first. -/
theorem minimum_step_writes_both :
    let m := (Mounted.new default .withFontDefaults).run [.setUp, .appear]
    (m.outcome (.nudge .minimumSize .increase)).writes
      = [⟨Preference.minimumLogicalFontSizeKey, .integer 10⟩,
        ⟨Preference.minimumFontSizeKey, .integer 10⟩] ∧
      (m.outcome .resync).writes = [] := by
  intro m
  have hchanged : (m.outcome (.nudge .minimumSize .increase)).changed = some (.integer 10) := by
    decide +kernel +zetaReduce
  obtain ⟨hstep, -⟩ :=
    page_writes default .withFontDefaults [.setUp, .appear] (.nudge .minimumSize .increase)
  obtain ⟨hresync, -⟩ := page_writes default .withFontDefaults [.setUp, .appear] .resync
  refine ⟨hstep.trans ?_, hresync⟩
  rw [hchanged]
  rfl

end FontPreferences
