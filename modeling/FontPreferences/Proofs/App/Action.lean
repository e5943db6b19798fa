import FontPreferences.Key
import FontPreferences.Proofs.Page.Operations

/-
The actions on a running app, and what each amounts to.

An `Action` is anything that the user, or the program around the app, can do to it, short of policy
and of the worker's answers.  Most of what it changes is for the screen alone.  The rest of the app
is its `core`: the page, the store and the channels.

* `Move` lists the few ways in which a core changes, and `App.moveOf` tells which of them an action
  is, in the state it meets;
* `core_act`: an action changes the core exactly as its move does;
* `moveOf_eq_appear`, `moveOf_eq_drainPreferences`, `moveOf_eq_drainWorker`: which actions show the
  page, and which take from a channel;
* `isManaged_of_moveOf_eq_clear`: only from outside can the value of a locked preference be dropped.

So what is to hold of the core after every action need only be shown for the moves.
-/
namespace FontPreferences

/-- Something done to a running app. -/
inductive Action where
  | key (event : KeyEvent)
  | showPanel (panel : Panel)
  | focus (control : Control)
  | cursor (row : Nat)
  | adjust (step : Step)
  /-- Raw motion of a slider. -/
  | slide (id : SliderId) (position : Nat)
  /-- A pick from a list. -/
  | pick (id : ListId) (index : Nat)
  /-- Drops the user's value of the preference under the cursor. -/
  | reset
  /-- A write to the store from outside. -/
  | write (key : String) (value : Preference.Value) (origin : String)
  /-- A user's value dropped from outside. -/
  | clear (key : String)
  | drainPreferences
  | drainWorker
  | restore (state : UiState)
  | report (category : ErrorCategory) (message context : String)
  | quit
deriving DecidableEq

/-- A change of the core of an app. -/
inductive Move where
  | stay
  /-- The Fonts panel is shown. -/
  | appear
  | nudge (id : SliderId) (step : Step)
  | slide (id : SliderId) (position : Nat)
  | pick (id : ListId) (index : Nat)
  | write (key : String) (value : Preference.Value) (origin : String)
  | clear (key : String)
  | drainPreferences
  | drainWorker
deriving DecidableEq

/-- Whether a move neither shows the page nor takes anything from a channel. -/
def Move.IsLocal : Move → Prop
  | .appear | .drainPreferences | .drainWorker => False
  | .stay | .nudge .. | .slide .. | .pick .. | .write .. | .clear _ => True

/-- The part of an app that is not for the screen alone. -/
structure Core where
  page : Page
  store : Preference.Store
  observer : Nat
  requests : List FetchRequest
  workerAlive : Bool
  responses : List WorkerResponse
  fontsLoaded : Option Nat

namespace App

def core (a : App) : Core :=
  ⟨a.page, a.store, a.observer, a.requests, a.workerAlive, a.responses, a.fontsLoaded⟩

/-- The app after an action. -/
def act (a : App) : Action → App
  | .key event => a.handleKey event
  | .showPanel panel => a.showPanel panel
  | .focus control => { a with focus := control }
  | .cursor row => { a with cursor := row }
  | .adjust step => a.adjust step
  | .slide id position => a.takeOutcome (a.page.input id position)
  | .pick id index => a.takeOutcome (a.page.select id index)
  | .reset => a.resetSelected
  | .write key value origin => { a with store := a.store.attempt key value origin }
  | .clear key => { a with store := a.store.attemptClear key }
  | .drainPreferences => a.drainPreferences.1
  | .drainWorker => a.drainWorker
  | .restore state => a.restore state
  | .report category message context => a.pushError category message context
  | .quit => a.quit

/-- The app after a move. -/
def move (a : App) : Move → App
  | .stay => a
  | .appear => a.showPanel .fonts
  | .nudge id step => a.takeOutcome (a.page.nudge id step)
  | .slide id position => a.takeOutcome (a.page.input id position)
  | .pick id index => a.takeOutcome (a.page.select id index)
  | .write key value origin => { a with store := a.store.attempt key value origin }
  | .clear key => { a with store := a.store.attemptClear key }
  | .drainPreferences => a.drainPreferences.1
  | .drainWorker => a.drainWorker

/-! ### The move of an action -/

/-- The panel that a key event shows, if it shows one. -/
def keyPanel? (a : App) (e : KeyEvent) : Option Panel :=
  if e.motion ≠ .press ∨ a.historyOpen = true then none
  else
    match e.code with
    | .char '1' => some .fonts
    | .char '2' => some .preferences
    | .char '3' => some .help
    | .tab => some (if e.shift then a.panel.previous else a.panel.next)
    | .backTab => some a.panel.previous
    | _ => none

/-- The panel that an action shows, if it shows one. -/
def shownBy? (a : App) : Action → Option Panel
  | .key event => a.keyPanel? event
  | .showPanel panel => some panel
  | .restore state => some state.panel
  | _ => none

/-- What showing a panel does to the core. -/
def showMove (panel : Panel) : Move :=
  if panel = .fonts then .appear else .stay

/-- What a step of the control with the focus does to the core. -/
def adjustMove (a : App) (step : Step) : Move :=
  match a.focus.kind with
  | .slider id => if (a.page.slider? id).any (·.disabled) then .stay else .nudge id step
  | .list id =>
    match a.page.list? id with
    | none => .stay
    | some l =>
      if l.managed || l.disabled || l.selected = some (stepIndex l step) then .stay
      else .pick id (stepIndex l step)

/-- What a reset of the preference under the cursor does to the core. -/
def resetMove (a : App) : Move :=
  match a.store.entries[a.cursor]? with
  | none => .stay
  | some entry => if a.store.isManaged entry.key then .stay else .clear entry.key

/-- What a key for the Fonts panel does to the core. -/
def fontsKeyMove (a : App) : KeyCode → Move
  | .char 'h' | .left => a.adjustMove .decrease
  | .char 'l' | .right => a.adjustMove .increase
  | _ => .stay

/-- What a key for the panel shown does to the core. -/
def panelKeyMove (a : App) (code : KeyCode) : Move :=
  match a.panel with
  | .fonts => a.fontsKeyMove code
  | .preferences => if code = .char 'r' then a.resetMove else .stay
  | .help => .stay

/-- What a key event does to the core. -/
def keyMove (a : App) (e : KeyEvent) : Move :=
  match a.keyPanel? e with
  | some panel => showMove panel
  | none => if e.motion ≠ .press ∨ a.historyOpen = true then .stay else a.panelKeyMove e.code

/-- What an action does to the core. -/
def moveOf (a : App) : Action → Move
  | .key event => a.keyMove event
  | .showPanel panel => showMove panel
  | .focus _ => .stay
  | .cursor _ => .stay
  | .adjust step => a.adjustMove step
  | .slide id position => .slide id position
  | .pick id index => .pick id index
  | .reset => a.resetMove
  | .write key value origin => .write key value origin
  | .clear key => .clear key
  | .drainPreferences => .drainPreferences
  | .drainWorker => .drainWorker
  | .restore state => showMove state.panel
  | .report _ _ _ => .stay
  | .quit => .stay

/-! ### An action does to the core what its move does -/

theorem core_showPanel_congr {a b : App} (h : a.core = b.core) (panel : Panel) :
    (a.showPanel panel).core = (b.showPanel panel).core := by
  simp only [core, Core.mk.injEq] at h
  obtain ⟨hpage, hstore, hobserver, hrequests, halive, hresponses, hloaded⟩ := h
  simp only [showPanel, hpage]
  split
  · split
    · simp only [requestFonts, halive]
      split <;> simp [core, *]
    · simp [core, *]
  · simp [core, *]

theorem core_showPanel (a : App) (panel : Panel) :
    (a.showPanel panel).core = (a.move (showMove panel)).core := by
  cases panel <;> rfl

theorem core_adjustSlider (a : App) (id : SliderId) (step : Step) :
    (a.adjustSlider id step).core
      = (a.move (if (a.page.slider? id).any (·.disabled) then .stay else .nudge id step)).core := by
  rw [adjustSlider]
  split
  · rfl
  · dsimp only
    split <;> rfl

theorem core_adjustList (a : App) (id : ListId) (step : Step) :
    (a.adjustList id step).core = (a.move (match a.page.list? id with
      | none => .stay
      | some l =>
        if l.managed || l.disabled || l.selected = some (stepIndex l step) then .stay
        else .pick id (stepIndex l step))).core := by
  rw [adjustList]
  cases a.page.list? id with
  | none => rfl
  | some l =>
    dsimp only
    cases hmanaged : l.managed with
    | true => rfl
    | false =>
      cases hdisabled : l.disabled with
      | true => rfl
      | false =>
        -- at the end of the list there is nothing to pick
        by_cases hstays : l.selected = some (stepIndex l step)
        · simp [hstays, move]
        · simp only [Bool.false_eq_true, if_false, if_neg hstays, Bool.false_or, decide_eq_true_eq]
          split <;> rfl

theorem core_adjust (a : App) (step : Step) :
    (a.adjust step).core = (a.move (a.adjustMove step)).core := by
  rw [adjust, adjustMove]
  cases a.focus.kind with
  | slider id => exact core_adjustSlider a id step
  | list id => exact core_adjustList a id step

theorem core_resetSelected (a : App) : a.resetSelected.core = (a.move a.resetMove).core := by
  rw [resetSelected, resetMove]
  cases a.store.entries[a.cursor]? with
  | none => rfl
  | some entry =>
    dsimp only
    split
    · rfl
    · rw [move, Preference.Store.attemptClear]
      cases a.store.clear entry.key <;> rfl

theorem core_fontsKey (a : App) (code : KeyCode) :
    (a.fontsKey code).core = (a.move (a.fontsKeyMove code)).core := by
  unfold fontsKey
  split
  · rfl
  · rfl
  · rfl
  · rfl
  · exact core_adjust a .decrease
  · exact core_adjust a .decrease
  · exact core_adjust a .increase
  · exact core_adjust a .increase
  -- any other key is ignored by both
  · unfold fontsKeyMove
    split <;> first | rfl | simp_all

theorem core_preferencesKey (a : App) (code : KeyCode) : (a.preferencesKey code).core
    = (a.move (if code = .char 'r' then a.resetMove else .stay)).core := by
  unfold preferencesKey
  split
  · split <;> rfl
  · split <;> rfl
  · rfl
  · rfl
  · exact core_resetSelected a
  · next hr =>
    rw [if_neg (by simpa using hr)]
    rfl

theorem core_panelKey (a : App) (code : KeyCode) :
    (a.panelKey code).core = (a.move (a.panelKeyMove code)).core := by
  rw [panelKey, panelKeyMove]
  cases a.panel with
  | fonts => exact core_fontsKey a code
  | preferences => exact core_preferencesKey a code
  | help => rfl

/-- A key that acts on any panel shows a panel or leaves the core; the others are for the panel. -/
theorem core_globalKey (a : App) (e : KeyEvent) (hpress : e.motion = .press)
    (hclosed : a.historyOpen = false) :
    ((a.globalKey? e).getD (a.panelKey e.code)).core = (a.move (a.keyMove e)).core := by
  have hopen : ¬(e.motion ≠ .press ∨ a.historyOpen = true) := by simp [hpress, hclosed]
  -- a key of the app that shows nothing is no key of a panel
  have hignored : ∀ c, c = 'q' ∨ c = 'c' ∨ c = 'e' → a.panelKeyMove (.char c) = .stay := by
    intro c hc
    rw [panelKeyMove]
    rcases hc with rfl | rfl | rfl <;> cases a.panel <;> rfl
  rw [keyMove, keyPanel?, if_neg hopen, if_neg hopen, globalKey?]
  generalize e.code = code
  split
  · rw [hignored 'q' (by simp)]
    rfl
  · split
    · rw [hignored 'c' (by simp)]
      rfl
    · exact core_panelKey a _
  · exact core_showPanel a .fonts
  · exact core_showPanel a .preferences
  · exact core_showPanel a .help
  · exact core_showPanel a _
  · exact core_showPanel a _
  · rw [hignored 'e' (by simp)]
    rfl
  · split <;> first | exact core_panelKey a _ | simp_all

theorem core_handleKey (a : App) (e : KeyEvent) :
    (a.handleKey e).core = (a.move (a.keyMove e)).core := by
  rw [handleKey]
  by_cases hpress : e.motion = .press
  · rw [if_neg (by simpa using hpress)]
    cases hopen : a.historyOpen with
    | true =>
      -- the open history takes every key
      have hstay : a.keyMove e = .stay := by simp [keyMove, keyPanel?, hopen]
      rw [hstay, if_pos rfl]
      unfold historyKey
      split <;> first | rfl | (split <;> rfl)
    | false => exact core_globalKey a e hpress hopen
  · have hstay : a.keyMove e = .stay := by simp [keyMove, keyPanel?, hpress]
    rw [if_pos hpress, hstay]
    rfl

/-- **An action changes the core of an app exactly as its move does.** -/
theorem core_act (a : App) (x : Action) : (a.act x).core = (a.move (a.moveOf x)).core := by
  cases x with
  | key event => exact core_handleKey a event
  | showPanel panel => exact core_showPanel a panel
  | focus control => rfl
  | cursor row => rfl
  | adjust step => exact core_adjust a step
  | slide id position => rfl
  | pick id index => rfl
  | reset => exact core_resetSelected a
  | write key value origin => rfl
  | clear key => rfl
  | drainPreferences => rfl
  | drainWorker => rfl
  | restore state =>
    rw [act, App.restore, moveOf, ← core_showPanel]
    exact core_showPanel_congr (a := { a with focus := state.focus }) (b := a) rfl state.panel
  | report category message context => rfl
  | quit => rfl

/-! ### Which actions show the page and which take from a channel -/

theorem isLocal_adjustMove (a : App) (step : Step) : (a.adjustMove step).IsLocal := by
  rw [adjustMove]
  split
  · split <;> trivial
  · split
    · trivial
    · split <;> trivial

theorem isLocal_resetMove (a : App) : a.resetMove.IsLocal := by
  rw [resetMove]
  split
  · trivial
  · split <;> trivial

theorem isLocal_panelKeyMove (a : App) (code : KeyCode) : (a.panelKeyMove code).IsLocal := by
  rw [panelKeyMove]
  split
  · unfold fontsKeyMove
    split <;> first | exact isLocal_adjustMove a _ | trivial
  · split
    · exact isLocal_resetMove a
    · trivial
  · trivial

/-- An action that is not one of three kinds has a local move. -/
theorem moveOf_cases (a : App) (x : Action) :
    (∃ panel, a.shownBy? x = some panel ∧ a.moveOf x = showMove panel) ∨
    (x = .drainPreferences ∨ x = .drainWorker) ∨ (a.shownBy? x = none ∧ (a.moveOf x).IsLocal) := by
  cases x with
  | key event =>
    cases hpanel : a.keyPanel? event with
    | some panel => exact .inl ⟨panel, hpanel, by simp [moveOf, keyMove, hpanel]⟩
    | none =>
      refine .inr (.inr ⟨hpanel, ?_⟩)
      simp only [moveOf, keyMove, hpanel]
      split
      · trivial
      · exact isLocal_panelKeyMove a _
  | showPanel panel => exact .inl ⟨panel, rfl, rfl⟩
  | restore state => exact .inl ⟨state.panel, rfl, rfl⟩
  | adjust step => exact .inr (.inr ⟨rfl, isLocal_adjustMove a step⟩)
  | reset => exact .inr (.inr ⟨rfl, isLocal_resetMove a⟩)
  | drainPreferences => exact .inr (.inl (.inl rfl))
  | drainWorker => exact .inr (.inl (.inr rfl))
  | focus | cursor | slide | pick | write | clear | report | quit =>
    exact .inr (.inr ⟨rfl, trivial⟩)

theorem moveOf_eq_appear (a : App) (x : Action) :
    a.moveOf x = .appear ↔ a.shownBy? x = some .fonts := by
  rcases moveOf_cases a x with ⟨panel, hshown, hmove⟩ | (rfl | rfl) | ⟨hshown, hlocal⟩
  · rw [hshown, hmove]
    cases panel <;> simp [showMove]
  · simp [moveOf, shownBy?]
  · simp [moveOf, shownBy?]
  · rw [hshown]
    refine ⟨fun h => ?_, fun h => absurd h (by simp)⟩
    rw [h] at hlocal
    exact hlocal.elim

/-- A move that is not local and does not show the page takes from a channel, and is an action of its
own. -/
theorem drains_of_not_isLocal {a : App} {x : Action} (hlocal : ¬(a.moveOf x).IsLocal)
    (hshows : a.moveOf x ≠ .appear) : x = .drainPreferences ∨ x = .drainWorker := by
  rcases moveOf_cases a x with ⟨panel, -, hmove⟩ | hdrains | ⟨-, hstays⟩
  · rw [hmove] at hlocal hshows
    cases panel with
    | fonts => exact absurd rfl hshows
    | preferences | help => exact absurd trivial hlocal
  · exact hdrains
  · exact absurd hstays hlocal

theorem moveOf_eq_drainPreferences (a : App) (x : Action) :
    a.moveOf x = .drainPreferences ↔ x = .drainPreferences := by
  refine ⟨fun h => ?_, fun h => h ▸ rfl⟩
  rcases drains_of_not_isLocal (a := a) (x := x) (by rw [h]; exact id) (by simp [h]) with rfl | rfl
  · rfl
  · exact absurd h (by simp [moveOf])

theorem moveOf_eq_drainWorker (a : App) (x : Action) :
    a.moveOf x = .drainWorker ↔ x = .drainWorker := by
  refine ⟨fun h => ?_, fun h => h ▸ rfl⟩
  rcases drains_of_not_isLocal (a := a) (x := x) (by rw [h]; exact id) (by simp [h]) with rfl | rfl
  · exact absurd h (by simp [moveOf])
  · rfl

/-! ### Dropping a value -/

/-- A reset spares the preferences that policy locks. -/
theorem isManaged_of_resetMove_eq_clear {a : App} {key : String} (h : a.resetMove = .clear key) :
    a.store.isManaged key = false := by
  rw [resetMove] at h
  split at h
  · exact absurd h (by simp)
  · next entry _ =>
    split at h
    · exact absurd h (by simp)
    · next hmanaged =>
      rw [Move.clear.injEq] at h
      rw [← h]
      exact Bool.eq_false_iff.2 hmanaged

theorem adjustMove_ne_clear (a : App) (step : Step) (key : String) :
    a.adjustMove step ≠ .clear key := by
  rw [adjustMove]
  split
  · split <;> simp
  · split
    · simp
    · split <;> simp

theorem isManaged_of_panelKeyMove_eq_clear {a : App} {code : KeyCode} {key : String}
    (h : a.panelKeyMove code = .clear key) : a.store.isManaged key = false := by
  rw [panelKeyMove] at h
  split at h
  · unfold fontsKeyMove at h
    split at h <;> first | exact absurd h (adjustMove_ne_clear a _ key) | exact absurd h (by simp)
  · split at h
    · exact isManaged_of_resetMove_eq_clear h
    · exact absurd h (by simp)
  · exact absurd h (by simp)

theorem isManaged_of_moveOf_eq_clear {a : App} {x : Action} {key : String} (hx : x ≠ .clear key)
    (h : a.moveOf x = .clear key) : a.store.isManaged key = false := by
  have hshow : ∀ panel, showMove panel ≠ .clear key := by
    intro panel
    rw [showMove]
    split <;> simp
  cases x with
  | key event =>
    rw [moveOf, keyMove] at h
    split at h
    · exact absurd h (hshow _)
    · split at h
      · exact absurd h (by simp)
      · exact isManaged_of_panelKeyMove_eq_clear h
  | showPanel panel => exact absurd h (hshow panel)
  | restore state => exact absurd h (hshow state.panel)
  | adjust step => exact absurd h (adjustMove_ne_clear a step key)
  | reset => exact isManaged_of_resetMove_eq_clear h
  | clear key' =>
    rw [moveOf, Move.clear.injEq] at h
    exact absurd (congrArg Action.clear h) hx
  | focus | cursor | slide | pick | write | drainPreferences | drainWorker | report | quit =>
    exact absurd h (by simp [moveOf])

end App
end FontPreferences
