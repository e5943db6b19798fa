import FontPreferences.Proofs.App.Action
import FontPreferences.Proofs.Preference.Layers
import Mathlib.Data.List.Induction

/-
Runs of an app, and what each move of one does.

* `Event` is all that can happen to an app, `run` what a list of events makes of it, and `Met` says
  of a run what one of its events met;
* `showPanel_fonts`, `drainPreferences_eq` and `drainWorker_induction` are all that the frame lemmas
  about the three moves that are not local need to know of them;
* `store_move`: apart from taking the changes, a move does to the store what some user edits do, so
  it announces what it does (`announced_move`) and leaves policy alone (`managed_move`), and so does
  a run without a lock (`managed_run`);
* `controls_move`: the controls after a move are those that `Controls.after` computes;
* `sound_step`: the controls stay those that the page builds, and the app goes on to hear of the
  changes of its store.
-/
namespace FontPreferences

/-- Something that happens to an app. -/
inductive Event where
  | act (action : Action)
  /-- An answer of a worker comes in, and waits. -/
  | respond (response : WorkerResponse)
  /-- An answer of a worker is handled at once. -/
  | receive (response : WorkerResponse)
  /-- Policy locks a preference. -/
  | lock (key : String) (value : Preference.Value)
deriving DecidableEq

namespace App

/-- The app after an event. -/
def step (a : App) : Event → App
  | .act action => a.act action
  | .respond response => { a with responses := a.responses ++ [response] }
  | .receive response => a.receive response
  | .lock key value => { a with store := a.store.attemptLock key value }

/-- The app after a run of events. -/
def run (a : App) (events : List Event) : App :=
  events.foldl step a

theorem run_append (a : App) (pre post : List Event) : a.run (pre ++ post) = (a.run pre).run post :=
  List.foldl_append

/-- What holds at the start and is kept by each event of a run holds at its end. -/
theorem run_induction {motive : App → Prop} {a : App} {events : List Event} (start : motive a)
    (next : ∀ b, motive b → ∀ e ∈ events, motive (b.step e)) : motive (a.run events) :=
  List.foldlRecOn events step start next

end App

/-! ### Histories -/

section Met

variable {σ ε : Type} {run : List ε → σ} {P : σ → ε → Prop}

/-- Somewhere in the run of `events`, an event met a state as `P` says. -/
def Met (run : List ε → σ) (P : σ → ε → Prop) (events : List ε) : Prop :=
  ∃ pre e post, events = pre ++ e :: post ∧ P (run pre) e

theorem not_met_nil : ¬Met run P [] := by
  rintro ⟨pre, e, post, heq, -⟩
  exact absurd heq (by simp)

/-- A history has met what it had met before its last event, and what that event meets. -/
theorem met_append_singleton (events : List ε) (e : ε) :
    Met run P (events ++ [e]) ↔ Met run P events ∨ P (run events) e := by
  constructor
  · -- the event met is the last one if nothing came after it
    rintro ⟨pre, e', post, heq, hmet⟩
    cases post using List.reverseRecOn with
    | nil =>
      obtain ⟨rfl, hlast⟩ := List.append_inj' heq rfl
      rw [List.singleton_inj.1 hlast]
      exact .inr hmet
    | append_singleton post last =>
      rw [← List.cons_append, ← List.append_assoc] at heq
      exact .inl ⟨pre, e', post, (List.append_inj' heq rfl).1, hmet⟩
  · rintro (⟨pre, e', post, rfl, hmet⟩ | hmet)
    · exact ⟨pre, e', post ++ [e], by simp, hmet⟩
    · exact ⟨events, e, [], rfl, hmet⟩

theorem Met.append {events : List ε} (h : Met run P events) (rest : List ε) :
    Met run P (events ++ rest) := by
  obtain ⟨pre, e, post, rfl, hmet⟩ := h
  exact ⟨pre, e, post ++ rest, by simp, hmet⟩

end Met

/-! ### The store after a move -/

namespace Preference
namespace Store

/-- An edit that the user could make while the program runs. -/
inductive Edit.IsUser : Edit → Prop where
  | set (key : String) (value : Value) (origin : String) : IsUser (.set key value origin)
  | clear (key : String) : IsUser (.clear key)

theorem announced_edited {edits : List Edit} (h : ∀ e ∈ edits, e.IsUser) (s : Store) (o : Nat) :
    Announced s (s.edited edits) o := by
  induction edits generalizing s with
  | nil => exact .refl s o
  | cons e edits ih =>
    refine Announced.trans ?_ (ih (fun e' he' => h e' (List.mem_cons_of_mem _ he')) (s.edit e))
    cases h e List.mem_cons_self with
    | set key value origin => exact announced_attempt s key value origin o
    | clear key => exact announced_attemptClear s key o

theorem managed_edited {edits : List Edit} (h : ∀ e ∈ edits, e.IsUser) (s : Store) :
    (s.edited edits).managed = s.managed := by
  induction edits generalizing s with
  | nil => rfl
  | cons e edits ih =>
    refine (ih (fun e' he' => h e' (List.mem_cons_of_mem _ he')) (s.edit e)).trans ?_
    cases h e List.mem_cons_self with
    | set key value origin => exact attempt_managed s key value origin
    | clear key => exact attemptClear_managed s key

end Store
end Preference

theorem Write.attemptAll_eq_edited (store : Preference.Store) (writes : List Write) :
    attemptAll store writes
      = store.edited (writes.map fun w => .set w.key w.value Write.origin) := by
  rw [attemptAll, Preference.Store.edited, List.foldl_map]
  rfl

namespace App

/-- What the page writes are user edits that drop no value. -/
theorem attemptAll_edits (store : Preference.Store) (writes : List Write) :
    ∃ edits : List Preference.Store.Edit, (∀ e ∈ edits, e.IsUser) ∧
      (∀ key, .clear key ∉ edits) ∧ Write.attemptAll store writes = store.edited edits := by
  refine ⟨_, fun e he => ?_, by simp, Write.attemptAll_eq_edited store writes⟩
  obtain ⟨w, -, rfl⟩ := List.mem_map.1 he
  exact .set w.key w.value Write.origin

/-! ### What the moves to and from the channels leave alone -/

/-- Showing the page sends at most a request. -/
theorem showPanel_fonts (a : App) : ∃ requests, a.showPanel .fonts
    = { a with panel := .fonts, page := a.page.appear.1, requests := requests } := by
  simp only [showPanel, requestFonts, if_true]
  split
  · split
    · exact ⟨_, rfl⟩
    · exact ⟨_, rfl⟩
  · exact ⟨_, rfl⟩

/-- Showing the Fonts panel sends a request if the page has its controls and has not been shown, and
somebody listens. -/
theorem requests_showPanel_fonts (a : App) : (a.showPanel .fonts).requests = a.requests ++
    if a.page.isInitialized = true ∧ a.page.hasShown = false ∧ a.workerAlive = true
    then [⟨selectedValues a.store⟩] else [] := by
  simp only [showPanel, if_true]
  rw [Page.appear_asks]
  cases a.page.isInitialized with
  | false => simp
  | true =>
    cases a.page.hasShown with
    | true => simp
    | false => cases a.workerAlive <;> simp [requestFonts]

/-- Taking the changes brings at most the page in line. -/
theorem drainPreferences_eq (a : App) : ∃ page, a.drainPreferences.1
    = { a with store := (a.store.drain a.observer).1, page := page } := by
  rw [drainPreferences]
  dsimp only
  split
  · exact ⟨_, rfl⟩
  · exact ⟨_, rfl⟩

/-- What holds before the waiting answers are handled, and after each of them, holds at the end. -/
theorem drainWorker_induction {motive : App → Prop} (a : App)
    (start : motive { a with responses := [] })
    (next : ∀ b response, motive b → motive (b.receive response)) : motive a.drainWorker :=
  List.foldlRecOn a.responses receive start fun b hb response _ => next b response hb

theorem drainWorker_store (a : App) : a.drainWorker.store = a.store :=
  drainWorker_induction (motive := fun b => b.store = a.store) a rfl fun b response hb => by
    cases response <;> exact hb

theorem drainPreferences_store (a : App) :
    a.drainPreferences.1.store = (a.store.drain a.observer).1 := by
  obtain ⟨page, heq⟩ := drainPreferences_eq a
  rw [heq]

/-- Apart from taking the changes, a move does to the store what some user edits do; they drop a
value only if that is what the move is about. -/
theorem store_move (a : App) {m : Move} (hm : m ≠ .drainPreferences) :
    ∃ edits : List Preference.Store.Edit, (∀ e ∈ edits, e.IsUser) ∧
      (∀ key, .clear key ∈ edits → m = .clear key) ∧
      (a.move m).store = a.store.edited edits := by
  have hwrites : ∀ writes : List Write, ∃ edits : List Preference.Store.Edit,
      (∀ e ∈ edits, e.IsUser) ∧ (∀ key, .clear key ∈ edits → m = .clear key) ∧
        Write.attemptAll a.store writes = a.store.edited edits := by
    intro writes
    obtain ⟨edits, huser, hclear, heq⟩ := attemptAll_edits a.store writes
    exact ⟨edits, huser, fun key hmem => absurd hmem (hclear key), heq⟩
  cases m with
  | stay => exact ⟨[], by simp, by simp, rfl⟩
  | appear =>
    obtain ⟨requests, heq⟩ := showPanel_fonts a
    refine ⟨[], by simp, by simp, ?_⟩
    rw [move, heq]
    rfl
  | nudge | slide | pick => exact hwrites _
  | write key value origin =>
    exact ⟨[.set key value origin], by simpa using .set key value origin, by simp, rfl⟩
  | clear key =>
    exact ⟨[.clear key], by simpa using .clear key, by simp, rfl⟩
  | drainPreferences => exact absurd rfl hm
  | drainWorker => exact ⟨[], by simp, by simp, drainWorker_store a⟩

theorem announced_move (a : App) {m : Move} (hm : m ≠ .drainPreferences) (o : Nat) :
    a.store.Announced (a.move m).store o := by
  obtain ⟨edits, huser, -, hstore⟩ := store_move a hm
  rw [hstore]
  exact Preference.Store.announced_edited huser a.store o

/-- No move touches policy. -/
theorem managed_move (a : App) (m : Move) : (a.move m).store.managed = a.store.managed := by
  by_cases hm : m = .drainPreferences
  · subst hm
    show a.drainPreferences.1.store.managed = a.store.managed
    rw [drainPreferences_store, Preference.Store.drain_managed]
  · obtain ⟨edits, huser, -, hstore⟩ := store_move a hm
    rw [hstore]
    exact Preference.Store.managed_edited huser a.store

/-- No move touches the defaults. -/
theorem defaults_move (a : App) (m : Move) : (a.move m).store.defaults = a.store.defaults := by
  by_cases hm : m = .drainPreferences
  · subst hm
    show a.drainPreferences.1.store.defaults = a.store.defaults
    rw [drainPreferences_store, Preference.Store.drain_defaults]
  · obtain ⟨edits, -, -, hstore⟩ := store_move a hm
    rw [hstore]
    exact Preference.Store.edited_defaults a.store edits

theorem store_act (a : App) (x : Action) : (a.act x).store = (a.move (a.moveOf x)).store :=
  congrArg Core.store (core_act a x)

theorem managed_act (a : App) (x : Action) : (a.act x).store.managed = a.store.managed := by
  rw [store_act, managed_move]

theorem overFontDefaults_move {a : App} (h : a.store.OverFontDefaults) (m : Move) :
    (a.move m).store.OverFontDefaults := by
  by_cases hm : m = .drainPreferences
  · subst hm
    show a.drainPreferences.1.store.OverFontDefaults
    rw [drainPreferences_store]
    exact Preference.Store.overFontDefaults_edit h (.drain a.observer)
  · obtain ⟨edits, -, -, hstore⟩ := store_move a hm
    rw [hstore]
    exact Preference.Store.OverFontDefaults.edited h edits

theorem overFontDefaults_act {a : App} (h : a.store.OverFontDefaults) (x : Action) :
    (a.act x).store.OverFontDefaults := by
  rw [store_act]
  exact overFontDefaults_move h _

end App

/-! ### The controls after a move -/

/-- The controls after an answer of the worker. -/
def Controls.received (c : Controls) : WorkerResponse → Controls
  | .fonts families encodings selected => c.filled families encodings selected
  | .failure _ _ => c

/-- The controls after a move of an app that has the controls `c`. -/
def Controls.after (c : Controls) (a : App) : Move → Controls
  | .nudge id step => c.putSlider id ((c.slider id).nudge step).slider
  | .slide id position => c.putSlider id ((c.slider id).input position).slider
  | .pick id index => c.putList id ((c.list id).select index).1
  | .drainPreferences =>
    if a.store.Quiet a.observer then c else c.synced (a.store.drain a.observer).1
  | .drainWorker => a.responses.foldl Controls.received c
  | .stay | .appear | .write .. | .clear _ => c

/-- The controls after an event. -/
def Controls.onEvent (c : Controls) (a : App) : Event → Controls
  | .act x => c.after a (a.moveOf x)
  | .receive r => c.received r
  | .respond _ | .lock _ _ => c

namespace Core

/-- The controls of the app are `c`, as the page builds them, and the app hears of the changes of
its store. -/
structure Sound (k : Core) (c : Controls) : Prop where
  controls : k.page.controls? = some c
  built : ∀ id, (c.slider id).BuiltFor id
  subscribed : (k.store.pending? k.observer).isSome = true

end Core

namespace App

variable {a : App} {c : Controls}

theorem slider_received (c : Controls) (r : WorkerResponse) (id : SliderId) :
    (c.received r).slider id = c.slider id := by
  cases r with
  | fonts families encodings selected => exact Controls.slider_filled ..
  | failure message context => rfl

/-- What every answer keeps of the controls, all the answers that wait keep of them. -/
theorem foldl_received_induction {motive : Controls → Prop} (responses : List WorkerResponse)
    {c : Controls} (start : motive c) (next : ∀ c' r, motive c' → motive (c'.received r)) :
    motive (responses.foldl Controls.received c) :=
  List.foldlRecOn responses Controls.received start fun c' hc' r _ => next c' r hc'

theorem slider_foldl_received (responses : List WorkerResponse) (c : Controls) (id : SliderId) :
    (responses.foldl Controls.received c).slider id = c.slider id :=
  foldl_received_induction (motive := fun c' => c'.slider id = c.slider id) responses rfl
    fun c' r hc' => (slider_received c' r id).trans hc'

theorem receive_controls? (h : a.page.controls? = some c) (r : WorkerResponse) :
    (a.receive r).page.controls? = some (c.received r) := by
  cases r with
  | fonts families encodings selected =>
    show (a.page.receiveFonts families encodings selected).controls? = _
    rw [Page.receiveFonts_eq h]
    exact Page.withControls_controls? h _
  | failure message context => exact h

theorem foldl_receive_controls? (responses : List WorkerResponse) {a : App} {c : Controls}
    (h : a.page.controls? = some c) :
    (responses.foldl receive a).page.controls? = some (responses.foldl Controls.received c) := by
  induction responses generalizing a c with
  | nil => exact h
  | cons r responses ih => exact ih (receive_controls? h r)

/-- Taking the changes does nothing else if there are none. -/
theorem drainPreferences_of_quiet (h : a.store.Quiet a.observer) :
    a.drainPreferences.1 = { a with store := (a.store.drain a.observer).1 } := by
  have htaken : (a.store.drain a.observer).2 = some [] := by
    rw [Preference.Store.drain_snd]
    exact h
  simp [drainPreferences, htaken]

/-- Taking changes brings the page in line with the store. -/
theorem drainPreferences_of_not_quiet (hsubscribed : (a.store.pending? a.observer).isSome = true)
    (h : ¬a.store.Quiet a.observer) : a.drainPreferences.1 = { a with
      store := (a.store.drain a.observer).1
      page := a.page.resync (a.store.drain a.observer).1 } := by
  obtain ⟨pending, hpending⟩ := Option.isSome_iff_exists.1 hsubscribed
  have hne : pending ≠ [] := by
    intro hnil
    rw [hnil] at hpending
    exact h hpending
  have htaken : (a.store.drain a.observer).2 = some pending := by
    rw [Preference.Store.drain_snd]
    exact hpending
  simp [drainPreferences, htaken, hne]

/-- A motion of a slider, as an app takes it into its page. -/
theorem nudge_eq (h : a.page.controls? = some c) (id : SliderId) (step : Step) :
    a.page.nudge id step = a.page.takeMotion c id ((c.slider id).nudge step) := by
  rw [Page.nudge, h]

theorem input_eq (h : a.page.controls? = some c) (id : SliderId) (position : Nat) :
    a.page.input id position = a.page.takeMotion c id ((c.slider id).input position) := by
  rw [Page.input, h]

theorem select_page (h : a.page.controls? = some c) (id : ListId) (index : Nat) :
    (a.page.select id index).page
      = a.page.withControls (c.putList id ((c.list id).select index).1) := by
  rw [Page.select, h]

theorem showPanel_page (a : App) : (a.showPanel .fonts).page = a.page.appear.1 := by
  obtain ⟨requests, heq⟩ := showPanel_fonts a
  rw [heq]

/-- **The controls after a move.** -/
theorem controls_move (h : a.core.Sound c) (m : Move) :
    (a.move m).page.controls? = some (c.after a m) := by
  have hc := h.controls
  cases m with
  | stay => exact hc
  | appear =>
    show (a.showPanel .fonts).page.controls? = some c
    rw [showPanel_page, Page.appear_controls?]
    exact hc
  | nudge id step =>
    show (a.page.nudge id step).page.controls? = _
    rw [nudge_eq hc]
    exact Page.takeMotion_controls? hc (h.built id) (Slider.moves_nudge _ step)
  | slide id position =>
    show (a.page.input id position).page.controls? = _
    rw [input_eq hc]
    exact Page.takeMotion_controls? hc (h.built id) (Slider.moves_input _ position)
  | pick id index =>
    show (a.page.select id index).page.controls? = _
    rw [select_page hc]
    exact Page.withControls_controls? hc _
  | write key value origin => exact hc
  | clear key => exact hc
  | drainPreferences =>
    show a.drainPreferences.1.page.controls? = some (ite _ _ _)
    by_cases hquiet : a.store.Quiet a.observer
    · rw [if_pos hquiet, drainPreferences_of_quiet hquiet]
      exact hc
    · rw [if_neg hquiet, drainPreferences_of_not_quiet h.subscribed hquiet]
      exact Page.resync_controls? hc _
  | drainWorker => exact foldl_receive_controls? a.responses hc

/-! ### The locks and the lists after a move -/

theorem disabled_putSlider {id : SliderId} {m : Motion} (hm : (c.slider id).Moves m)
    (id' : SliderId) :
    ((c.putSlider id m.slider).slider id').disabled = (c.slider id').disabled := by
  rw [Controls.slider_putSlider]
  split
  · next heq =>
    rw [heq]
    exact hm.disabled_eq
  · rfl

theorem disabled_slider_after {m : Move} (hm : m ≠ .drainPreferences)
    (id : SliderId) : ((c.after a m).slider id).disabled = (c.slider id).disabled := by
  cases m with
  | nudge id' step => exact disabled_putSlider (Slider.moves_nudge _ step) id
  | slide id' position => exact disabled_putSlider (Slider.moves_input _ position) id
  | pick id' index => rw [Controls.after, Controls.slider_putList]
  | drainPreferences => exact absurd rfl hm
  | drainWorker => rw [Controls.after, slider_foldl_received]
  | stay | appear | write | clear => rfl

theorem reselected_after (c : Controls) (a : App) {m : Move} (hm : m ≠ .drainWorker) (id : ListId) :
    (c.list id).Reselected ((c.after a m).list id) := by
  cases m with
  | nudge id' step | slide id' position =>
    rw [Controls.after, Controls.list_putSlider]
    exact .refl _
  | pick id' index =>
    rw [Controls.after, Controls.list_putList]
    split
    · next heq =>
      rw [heq]
      exact SelectionList.reselected_select ..
    · exact .refl _
  | drainPreferences =>
    rw [Controls.after]
    split
    · exact .refl _
    · rw [Controls.list_synced]
      exact SelectionList.reselected_syncList ..
  | drainWorker => exact absurd rfl hm
  | stay | appear | write | clear => exact .refl _

/-- An answer leaves to policy what policy manages. -/
theorem managed_received (c : Controls) (r : WorkerResponse) (id : ListId) :
    ((c.received r).list id).managed = (c.list id).managed := by
  cases r with
  | fonts families encodings selected => rw [Controls.received, Controls.list_filled]; rfl
  | failure message context => rfl

theorem disabled_received (c : Controls) (r : WorkerResponse) {id : ListId}
    (h : (c.list id).managed = true) :
    ((c.received r).list id).disabled = (c.list id).disabled := by
  cases r with
  | fonts families encodings selected =>
    rw [Controls.received, Controls.list_filled, SelectionList.populate, h, Bool.true_and]
  | failure message context => rfl

theorem managed_foldl_received (responses : List WorkerResponse) (c : Controls) (id : ListId) :
    ((responses.foldl Controls.received c).list id).managed = (c.list id).managed :=
  foldl_received_induction (motive := fun c' => (c'.list id).managed = (c.list id).managed)
    responses rfl fun c' r hc' => (managed_received c' r id).trans hc'

theorem disabled_foldl_received (responses : List WorkerResponse) {c : Controls} {id : ListId}
    (h : (c.list id).managed = true) :
    ((responses.foldl Controls.received c).list id).disabled = (c.list id).disabled := by
  have hboth : ((responses.foldl Controls.received c).list id).managed = true ∧
      ((responses.foldl Controls.received c).list id).disabled = (c.list id).disabled := by
    refine foldl_received_induction (motive := fun c' => (c'.list id).managed = true ∧
      (c'.list id).disabled = (c.list id).disabled) responses ⟨h, rfl⟩ ?_
    rintro c' r ⟨hmanaged, hdisabled⟩
    exact ⟨(managed_received c' r id).trans hmanaged,
      (disabled_received c' r hmanaged).trans hdisabled⟩
  exact hboth.2

theorem managed_list_after (c : Controls) (a : App) (m : Move) (id : ListId) :
    ((c.after a m).list id).managed = (c.list id).managed := by
  by_cases hm : m = .drainWorker
  · rw [hm, Controls.after]
    exact managed_foldl_received a.responses c id
  · exact (reselected_after c a hm id).managed

theorem disabled_list_after (a : App) (m : Move) {c : Controls} {id : ListId}
    (h : (c.list id).managed = true) : ((c.after a m).list id).disabled = (c.list id).disabled := by
  by_cases hm : m = .drainWorker
  · rw [hm, Controls.after]
    exact disabled_foldl_received a.responses h
  · exact (reselected_after c a hm id).disabled

/-! ### Soundness -/

theorem receive_observer (a : App) (r : WorkerResponse) : (a.receive r).observer = a.observer := by
  cases r <;> rfl

theorem receive_store (a : App) (r : WorkerResponse) : (a.receive r).store = a.store := by
  cases r <;> rfl

theorem move_observer (a : App) (m : Move) : (a.move m).observer = a.observer := by
  cases m with
  | appear =>
    obtain ⟨requests, heq⟩ := showPanel_fonts a
    rw [move, heq]
  | drainPreferences =>
    obtain ⟨page, heq⟩ := drainPreferences_eq a
    rw [move, heq]
  | drainWorker =>
    exact drainWorker_induction (motive := fun b => b.observer = a.observer) a rfl
      fun b r hb => (receive_observer b r).trans hb
  | stay | nudge | slide | pick | write | clear => rfl

theorem observer_act (a : App) (x : Action) : (a.act x).observer = a.observer :=
  (congrArg Core.observer (core_act a x)).trans (move_observer a _)

theorem builtFor_after (h : a.core.Sound c) (m : Move) (id : SliderId) :
    ((c.after a m).slider id).BuiltFor id := by
  -- a slider that is put in place of another has moved there from where that one stood
  have hput : ∀ {id' : SliderId} {m : Motion}, (c.slider id').Moves m →
      ((c.putSlider id' m.slider).slider id).BuiltFor id := by
    intro id' m hm
    rw [Controls.slider_putSlider]
    by_cases heq : id = id'
    · subst heq
      rw [if_pos rfl]
      exact (h.built id).moves hm
    · rw [if_neg heq]
      exact h.built id
  cases m with
  | nudge id' step => exact hput (Slider.moves_nudge _ step)
  | slide id' position => exact hput (Slider.moves_input _ position)
  | pick id' index =>
    rw [Controls.after, Controls.slider_putList]
    exact h.built id
  | drainPreferences =>
    rw [Controls.after]
    split
    · exact h.built id
    · rw [Controls.slider_synced]
      exact Page.builtFor_syncSlider (h.built id) _
  | drainWorker =>
    rw [Controls.after, slider_foldl_received]
    exact h.built id
  | stay | appear | write | clear => exact h.built id

theorem subscribed_move (h : (a.store.pending? a.observer).isSome = true) (m : Move) :
    ((a.move m).store.pending? (a.move m).observer).isSome = true := by
  rw [move_observer]
  by_cases hm : m = .drainPreferences
  · subst hm
    show (a.drainPreferences.1.store.pending? a.observer).isSome = true
    rw [drainPreferences_store, Preference.Store.quiet_drain h]
    rfl
  · rw [(announced_move a hm a.observer).isSome]
    exact h

theorem sound_move (h : a.core.Sound c) (m : Move) : (a.move m).core.Sound (c.after a m) :=
  ⟨controls_move h m, builtFor_after h m, subscribed_move h.subscribed m⟩

theorem sound_act (h : a.core.Sound c) (x : Action) :
    (a.act x).core.Sound (c.after a (a.moveOf x)) := by
  rw [core_act]
  exact sound_move h _

/-- **The controls after an event.** -/
theorem sound_step (h : a.core.Sound c) (e : Event) : (a.step e).core.Sound (c.onEvent a e) := by
  cases e with
  | act x => exact sound_act h x
  | respond r => exact ⟨h.controls, h.built, h.subscribed⟩
  | receive r =>
    refine ⟨receive_controls? h.controls r, fun id => ?_, ?_⟩
    · show ((c.received r).slider id).BuiltFor id
      rw [slider_received]
      exact h.built id
    · show ((a.receive r).store.pending? (a.receive r).observer).isSome = true
      rw [receive_store, receive_observer]
      exact h.subscribed
  | lock key value =>
    refine ⟨h.controls, h.built, ?_⟩
    exact (Preference.Store.announced_attemptLock a.store key value a.observer).isSome.trans
      h.subscribed

/-- The controls of a new app. -/
def newControls (store : Preference.Store) (strings : LocalizedStrings) : Controls :=
  ((Page.new strings).startControls store.observe.1).synced store.observe.1

section newControls

variable (store : Preference.Store) (strings : LocalizedStrings)

theorem disabled_slider_newControls (id : SliderId) :
    ((newControls store strings).slider id).disabled = store.isManaged id.preferenceKey := by
  rw [newControls, Controls.slider_synced, Page.syncSlider_disabled]
  rfl

theorem reselected_newControls (id : ListId) :
    ((Page.new strings).buildList store.observe.1 id).Reselected
      ((newControls store strings).list id) := by
  rw [newControls, Controls.list_synced, Page.list_startControls]
  exact SelectionList.reselected_syncList ..

theorem managed_list_newControls (id : ListId) :
    ((newControls store strings).list id).managed = store.isManaged id.preferenceKey :=
  (reselected_newControls store strings id).managed

/-- A list is disabled until it is filled, managed or not. -/
theorem disabled_list_newControls (id : ListId) :
    ((newControls store strings).list id).disabled = true :=
  (reselected_newControls store strings id).disabled.trans (Page.buildList_disabled ..)

end newControls

theorem sound_new (store : Preference.Store) (strings : LocalizedStrings) :
    (new store strings).core.Sound (newControls store strings) := by
  refine ⟨Page.resync_controls? (Page.setUp_new_controls? strings _) _, fun id => ?_, ?_⟩
  · rw [newControls, Controls.slider_synced, Page.slider_startControls]
    exact Page.builtFor_syncSlider (Page.builtFor_buildSlider _ id) _
  · show (store.observe.1.pending? store.observe.2).isSome = true
    rw [Preference.Store.quiet_observe]
    rfl

/-! ### The store over a run -/

theorem new_store (store : Preference.Store) (strings : LocalizedStrings) :
    (new store strings).store = store.observe.1 := rfl

theorem overFontDefaults_step (h : a.store.OverFontDefaults) (e : Event) :
    (a.step e).store.OverFontDefaults := by
  cases e with
  | act x => exact overFontDefaults_act h x
  | respond r => exact h
  | receive r =>
    rw [step, receive_store]
    exact h
  | lock key value => exact Preference.Store.overFontDefaults_edit h (.lock key value)

theorem overFontDefaults_run (h : a.store.OverFontDefaults) (events : List Event) :
    (a.run events).store.OverFontDefaults :=
  run_induction (motive := fun b => b.store.OverFontDefaults) h fun _ hb e _ =>
    overFontDefaults_step hb e

theorem defaults_step (a : App) (e : Event) :
    (a.step e).store.defaults = a.store.defaults := by
  cases e with
  | act x =>
    rw [step, store_act]
    exact defaults_move a _
  | respond r => rfl
  | receive r => exact congrArg (·.defaults) (receive_store a r)
  | lock key value => exact Preference.Store.attemptLock_defaults a.store key value

theorem managed_step (a : App) {e : Event} (he : ∀ key value, e ≠ .lock key value) :
    (a.step e).store.managed = a.store.managed := by
  cases e with
  | act x => exact managed_act a x
  | respond r => rfl
  | receive r => exact congrArg (·.managed) (receive_store a r)
  | lock key value => exact absurd rfl (he key value)

/-- Without a lock on the way, policy is the same in every state. -/
theorem managed_run (a : App) {events : List Event} (h : ∀ key value, .lock key value ∉ events) :
    (a.run events).store.managed = a.store.managed := by
  refine run_induction (motive := fun b => b.store.managed = a.store.managed) rfl ?_
  intro b hb e he
  have hstep := managed_step b fun key value heq => h key value (heq ▸ he)
  exact hstep.trans hb

end App
end FontPreferences
