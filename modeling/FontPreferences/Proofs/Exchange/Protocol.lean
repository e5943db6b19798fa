import FontPreferences.Proofs.App.Run

/-
The app, the worker and the two channels between them.

An `Exchange` is the state of all four, with a record of what has gone through the channels.  Its
events come in any order: the user and the program act on the app, the worker makes a step, the
program sends `Shutdown` or lets go of its end of the channel, the app goes away.

* a channel to the worker is closed when nobody holds an end of it, which the worker learns when
  the channel is empty;
* once the worker has stopped, what is sent to it is lost;
* `requests_move`, `responses_move` and `hasShown_move` say which moves of the app the channels take
  part in, and `sends_eq` what an action sends.
-/
namespace FontPreferences

/-- An app and its worker, the channels between them, and what has gone through these. -/
structure Exchange where
  app : App
  /-- The commands that the worker has not taken. -/
  commands : List WorkerCommand
  /-- Whether the worker has not stopped. -/
  working : Bool
  /-- Whether the program still holds its own end of the channel to the worker. -/
  held : Bool
  /-- Whether the app is still there, with its ends of both channels. -/
  present : Bool
  /-- The requests sent, whether or not the worker had stopped. -/
  sent : List FetchRequest
  /-- The requests sent before the worker had stopped. -/
  accepted : List FetchRequest
  /-- The requests that the worker has taken. -/
  taken : List FetchRequest
  /-- The answers sent. -/
  answered : List WorkerResponse
  /-- The answers applied. -/
  applied : List WorkerResponse

/-- What an action sends to the worker, whether or not there is one to take it. -/
def App.sends (a : App) (x : Action) : List FetchRequest :=
  ({ a with workerAlive := true, requests := [] }.act x).requests

namespace Exchange

/-- A step of one of the parties. -/
inductive Event where
  | act (action : Action)
  | work
  | shutdown
  | hangUp
  | leave
deriving DecidableEq

/-- A new app, with a worker that waits. -/
def start (store : Preference.Store) (strings : LocalizedStrings) : Exchange where
  app := .new store strings
  commands := []
  working := true
  held := true
  present := true
  sent := []
  accepted := []
  taken := []
  answered := []
  applied := []

/-- An action on the app, with what it sends and what it takes in. -/
def act (x : Exchange) (action : Action) : Exchange :=
  if x.present then
    { x with
      app := { x.app.act action with requests := [] }
      commands := x.commands ++ (x.app.act action).requests.map .fetch
      sent := x.sent ++ x.app.sends action
      accepted := x.accepted ++ (x.app.act action).requests
      applied := x.applied ++ if action = .drainWorker then x.app.responses else [] }
  else x

/-- The worker stops, and what it has not taken is lost. -/
def stop (x : Exchange) : Exchange :=
  { x with
    app := { x.app with workerAlive := false }
    commands := []
    working := false }

/-- A step of the worker. -/
def work (catalog : Catalog) (x : Exchange) : Exchange :=
  if x.working then
    match x.commands with
    | [] => if x.held || x.present then x else x.stop
    | .shutdown :: _ => x.stop
    | .fetch request :: rest =>
      let x := { x with commands := rest, taken := x.taken ++ [request] }
      let response := Worker.answer catalog request
      if x.present then
        { x with
          app := { x.app with responses := x.app.responses ++ [response] }
          answered := x.answered ++ [response] }
      else x.stop
  else x

/-- The state after an event, with a worker over a fixed catalog. -/
def step (catalog : Catalog) (x : Exchange) : Event → Exchange
  | .act action => x.act action
  | .work => x.work catalog
  | .shutdown =>
    if x.held && x.working then { x with commands := x.commands ++ [.shutdown] } else x
  | .hangUp => { x with held := false }
  | .leave => { x with present := false }

/-- The state after a run of events. -/
def run (catalog : Catalog) (x : Exchange) (events : List Event) : Exchange :=
  events.foldl (step catalog) x

theorem run_append (catalog : Catalog) (x : Exchange) (pre post : List Event) :
    x.run catalog (pre ++ post) = (x.run catalog pre).run catalog post :=
  List.foldl_append

end Exchange

namespace Exchange

/-- What a step of the worker or of the program leaves alone. -/
structure Aside (x y : Exchange) : Prop where
  sent : y.sent = x.sent
  accepted : y.accepted = x.accepted
  applied : y.applied = x.applied
  page : y.app.page = x.app.page
  store : y.app.store = x.app.store
  observer : y.app.observer = x.app.observer

theorem aside_step (catalog : Catalog) (x : Exchange) {e : Event} (h : ∀ action, e ≠ .act action) :
    x.Aside (x.step catalog e) := by
  cases e with
  | act action => exact absurd rfl (h action)
  | work =>
    rw [step, work]
    split
    · split
      · split <;> exact ⟨rfl, rfl, rfl, rfl, rfl, rfl⟩
      · exact ⟨rfl, rfl, rfl, rfl, rfl, rfl⟩
      · dsimp only
        split <;> exact ⟨rfl, rfl, rfl, rfl, rfl, rfl⟩
    · exact ⟨rfl, rfl, rfl, rfl, rfl, rfl⟩
  | shutdown =>
    rw [step]
    split <;> exact ⟨rfl, rfl, rfl, rfl, rfl, rfl⟩
  | hangUp => exact ⟨rfl, rfl, rfl, rfl, rfl, rfl⟩
  | leave => exact ⟨rfl, rfl, rfl, rfl, rfl, rfl⟩

/-- An event is an action on an app that is there, leaves the app and what went through the channels
from it and to it alone, or comes too late. -/
theorem step_cases (catalog : Catalog) (x : Exchange) (e : Event) :
    (∃ action, e = .act action ∧ x.present = true) ∨
      (∀ action, e = .act action → x.present = false) ∧ x.Aside (x.step catalog e) := by
  by_cases hact : ∃ action, e = .act action
  · obtain ⟨action, rfl⟩ := hact
    cases hpresent : x.present with
    | true => exact .inl ⟨action, rfl, rfl⟩
    | false =>
      -- nothing acts on an app that has gone
      refine .inr ⟨fun _ _ => rfl, ?_⟩
      rw [step, act, hpresent]
      exact ⟨rfl, rfl, rfl, rfl, rfl, rfl⟩
  · have hother : ∀ action, e ≠ .act action := fun action heq => hact ⟨action, heq⟩
    exact .inr ⟨fun action heq => absurd heq (hother action), aside_step catalog x hother⟩

end Exchange

/-! ### The moves that use the channels -/

namespace App

theorem receive_requests (a : App) (r : WorkerResponse) : (a.receive r).requests = a.requests := by
  cases r <;> rfl

theorem receive_responses (a : App) (r : WorkerResponse) :
    (a.receive r).responses = a.responses := by
  cases r <;> rfl

theorem receive_workerAlive (a : App) (r : WorkerResponse) :
    (a.receive r).workerAlive = a.workerAlive := by
  cases r <;> rfl

theorem receive_hasShown (a : App) (r : WorkerResponse) :
    (a.receive r).page.hasShown = a.page.hasShown := by
  cases r with
  | fonts families encodings selected => exact Page.receiveFonts_hasShown ..
  | failure message context => rfl

variable {a : App} {c : Controls}

/-- The one move that sends a request is the first showing of the page. -/
theorem requests_move (h : a.core.Sound c) (m : Move) : (a.move m).requests = a.requests ++
    if m = .appear ∧ a.page.hasShown = false ∧ a.workerAlive = true
    then [⟨selectedValues a.store⟩] else [] := by
  cases m with
  | appear =>
    show (a.showPanel .fonts).requests = _
    -- the page asks the first time only, and what it asks is lost if nobody listens
    have hcontrols : a.page.controls? = some c := h.controls
    have hinitialized : a.page.isInitialized = true := by
      rw [Page.isInitialized, hcontrols]
      rfl
    rw [requests_showPanel_fonts]
    simp only [hinitialized, true_and]
  | drainPreferences =>
    obtain ⟨page, heq⟩ := drainPreferences_eq a
    simp [move, heq]
  | drainWorker =>
    refine (drainWorker_induction (motive := fun b => b.requests = a.requests) a rfl
      fun b r hb => (receive_requests b r).trans hb).trans (by simp)
  | stay | nudge | slide | pick | write | clear => simp [move, takeOutcome]

/-- The one move that takes answers in is the one that takes all of them. -/
theorem responses_move (a : App) (m : Move) :
    (a.move m).responses = if m = .drainWorker then [] else a.responses := by
  cases m with
  | appear =>
    obtain ⟨requests, heq⟩ := showPanel_fonts a
    rw [move, heq]
    rfl
  | drainPreferences =>
    obtain ⟨page, heq⟩ := drainPreferences_eq a
    rw [move, heq]
    rfl
  | drainWorker =>
    exact drainWorker_induction (motive := fun b => b.responses = []) a rfl
      fun b r hb => (receive_responses b r).trans hb
  | stay | nudge | slide | pick | write | clear => rfl

theorem workerAlive_move (a : App) (m : Move) : (a.move m).workerAlive = a.workerAlive := by
  cases m with
  | appear =>
    obtain ⟨requests, heq⟩ := showPanel_fonts a
    rw [move, heq]
  | drainPreferences =>
    obtain ⟨page, heq⟩ := drainPreferences_eq a
    rw [move, heq]
  | drainWorker =>
    exact drainWorker_induction (motive := fun b => b.workerAlive = a.workerAlive) a rfl
      fun b r hb => (receive_workerAlive b r).trans hb
  | stay | nudge | slide | pick | write | clear => rfl

theorem hasShown_move (h : a.core.Sound c) (m : Move) :
    (a.move m).page.hasShown = (decide (m = .appear) || a.page.hasShown) := by
  cases m with
  | appear =>
    show (a.showPanel .fonts).page.hasShown = true
    rw [showPanel_page]
    exact Page.appear_hasShown h.controls
  | nudge id step =>
    show (a.page.nudge id step).page.hasShown = a.page.hasShown
    rw [nudge_eq h.controls]
    exact Page.takeMotion_hasShown a.page c (h.built id) (Slider.moves_nudge _ step)
  | slide id position =>
    show (a.page.input id position).page.hasShown = a.page.hasShown
    rw [input_eq h.controls]
    exact Page.takeMotion_hasShown a.page c (h.built id) (Slider.moves_input _ position)
  | pick id index =>
    show (a.page.select id index).page.hasShown = a.page.hasShown
    rw [select_page h.controls, Page.withControls_hasShown]
  | drainPreferences =>
    show a.drainPreferences.1.page.hasShown = a.page.hasShown
    by_cases hquiet : a.store.Quiet a.observer
    · rw [drainPreferences_of_quiet hquiet]
    · rw [drainPreferences_of_not_quiet h.subscribed hquiet]
      exact Page.resync_hasShown h.controls _
  | drainWorker =>
    exact drainWorker_induction (motive := fun b => b.page.hasShown = a.page.hasShown) a rfl
      fun b r hb => (receive_hasShown b r).trans hb
  | stay | write | clear => rfl

/-! ### The actions that use the channels -/

/-- A request gets through when the page is shown first to a worker that listens, and at no other
time. -/
theorem requests_act (h : a.core.Sound c) (x : Action) : (a.act x).requests = a.requests ++
    if a.shownBy? x = some .fonts ∧ a.page.hasShown = false ∧ a.workerAlive = true
    then [⟨selectedValues a.store⟩] else [] := by
  have hcore : (a.act x).requests = (a.move (a.moveOf x)).requests :=
    congrArg Core.requests (core_act a x)
  rw [hcore, requests_move h]
  simp only [moveOf_eq_appear]

/-- A request is sent when the page is shown first, and at no other time. -/
theorem sends_eq (h : a.core.Sound c) (x : Action) : a.sends x =
    if a.shownBy? x = some .fonts ∧ a.page.hasShown = false
    then [⟨selectedValues a.store⟩] else [] := by
  have hsound : Core.Sound (core { a with workerAlive := true, requests := [] }) c :=
    ⟨h.controls, h.built, h.subscribed⟩
  have hshown : shownBy? { a with workerAlive := true, requests := [] } x = a.shownBy? x := by
    cases x <;> rfl
  rw [sends, requests_act hsound, hshown, List.nil_append]
  simp only [and_true]

/-- What is sent gets through exactly if the worker has not stopped. -/
theorem requests_eq_sends (h : a.core.Sound c) (x : Action) :
    (a.act x).requests = a.requests ++ if a.workerAlive then a.sends x else [] := by
  rw [requests_act h, sends_eq h]
  cases a.workerAlive <;> simp

theorem responses_act (a : App) (x : Action) :
    (a.act x).responses = if x = .drainWorker then [] else a.responses := by
  have hcore : (a.act x).responses = (a.move (a.moveOf x)).responses :=
    congrArg Core.responses (core_act a x)
  rw [hcore, responses_move]
  simp only [moveOf_eq_drainWorker]

theorem workerAlive_act (a : App) (x : Action) : (a.act x).workerAlive = a.workerAlive :=
  (congrArg Core.workerAlive (core_act a x)).trans (workerAlive_move a _)

theorem hasShown_act (h : a.core.Sound c) (x : Action) : (a.act x).page.hasShown
    = (decide (a.shownBy? x = some .fonts) || a.page.hasShown) := by
  have hcore : (a.act x).page.hasShown = (a.move (a.moveOf x)).page.hasShown :=
    congrArg (·.page.hasShown) (core_act a x)
  rw [hcore, hasShown_move h]
  simp only [moveOf_eq_appear]

end App
end FontPreferences
