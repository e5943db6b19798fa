import FontPreferences.Page
import FontPreferences.Panel
import FontPreferences.UiState
import FontPreferences.Worker

/-
The application: the page, the preferences, and everything else that the screen shows.

* the app observes the preferences, and `drainPreferences` brings the page in line with them;
* `showPanel` of the Fonts panel makes the page ask for the font lists, once, through `requests`;
* `receive` applies an answer of the worker, and `drainWorker` applies all that wait;
* `adjust` and `resetSelected` are the changes that keys can make to the preferences;
* `pushError` keeps the latest errors, newest first.

Design note: both channels to the worker are queues in the state.  What stands between the app and
the worker at any moment can then be said of the state alone.
-/
namespace FontPreferences

/-- How serious a status message is. -/
inductive StatusLevel where
  | info
  | warning
  | error
deriving DecidableEq, Repr

/-- What an error is about. -/
inductive ErrorCategory where
  | catalog
  | preferences
  | other
deriving DecidableEq, Repr

namespace ErrorCategory

/-- All categories. -/
def all : List ErrorCategory :=
  [.catalog, .preferences, .other]

/-- The tag shown before an error. -/
def label : ErrorCategory → String
  | .catalog => "FONT"
  | .preferences => "PREF"
  | .other => "ERR"

end ErrorCategory

/-- A time of day. -/
structure ClockTime where
  hour : Nat
  minute : Nat
  second : Nat
deriving DecidableEq, Repr, Inhabited

/-- An error in the history. -/
structure ErrorRecord where
  time : ClockTime
  category : ErrorCategory
  message : String
  context : String
deriving DecidableEq, Repr

/-- The state of the application. -/
structure App where
  panel : Panel
  running : Bool
  page : Page
  focus : Control
  /-- The number of families in the last answer of the worker. -/
  fontsLoaded : Option Nat
  store : Preference.Store
  /-- The app's observer of the store. -/
  observer : Nat
  /-- The row of the Preferences panel that the cursor is on. -/
  cursor : Nat
  /-- The requests sent to the worker and not yet taken by it. -/
  requests : List FetchRequest
  /-- Whether somebody takes the requests. -/
  workerAlive : Bool
  /-- The answers of the worker not yet applied. -/
  responses : List WorkerResponse
  status : Option (String × StatusLevel)
  /-- The latest errors, newest first. -/
  errors : List ErrorRecord
  /-- The first error that the history shows. -/
  errorScroll : Nat
  /-- Whether the error history lies over the panel. -/
  historyOpen : Bool
  /-- The time of day, as last told. -/
  now : ClockTime
deriving DecidableEq, Repr

namespace App

/-- How many errors the history keeps. -/
def historyLimit : Nat := 50

/-- The app over a store, with the page's controls built and no panel shown yet. -/
def new (store : Preference.Store) (strings : LocalizedStrings) : App :=
  let (store, observer) := store.observe
  { panel := .fonts
    running := true
    page := ((Page.new strings).setUp store).resync store
    focus := .serifFamily
    fontsLoaded := none
    store := store
    observer := observer
    cursor := 0
    requests := []
    workerAlive := true
    responses := []
    status := none
    errors := []
    errorScroll := 0
    historyOpen := false
    now := default }

/-- Shows a message. -/
def setStatus (a : App) (message : String) (level : StatusLevel) : App :=
  { a with status := some (message, level) }

/-- The values that the lists are to select: serif family, fixed-width family and encoding. -/
def selectedValues (store : Preference.Store) : List String :=
  [Preference.serifFamilyKey, Preference.fixedFamilyKey, Preference.charsetKey].map fun key =>
    (store.getText? key).getD ""

/-- Asks the worker for the font lists, if somebody takes the request. -/
def requestFonts (a : App) : App :=
  if a.workerAlive then { a with requests := a.requests ++ [⟨selectedValues a.store⟩] } else a

/-- Switches to a panel. -/
def showPanel (a : App) (panel : Panel) : App :=
  let a := { a with panel := panel }
  if panel = .fonts then
    let (page, asks) := a.page.appear
    let a := { a with page := page }
    if asks then a.requestFonts else a
  else a

/-- Takes the outcome of an operation of the user on the page, carrying its writes out. -/
def takeOutcome {α : Type} (a : App) (o : PageOutcome α) : App :=
  { a with page := o.page, store := Write.attemptAll a.store o.writes }

/-- The warning that policy locks something. -/
def warnManaged (a : App) (what : String) : App :=
  a.setStatus (what ++ " is managed by policy") .warning

/-- Steps a slider. -/
def adjustSlider (a : App) (id : SliderId) (step : Step) : App :=
  if (a.page.slider? id).any (·.disabled) then a.warnManaged id.label
  else
    let o := a.page.nudge id step
    let a := a.takeOutcome o
    match o.changed with
    | some value => a.setStatus (id.label ++ ": " ++ toString value.toInt ++ "pt") .info
    | none => a

/-- The index that a step leads to from the selection of a list. -/
def stepIndex (l : SelectionList) (step : Step) : Nat :=
  match l.selected, step with
  | none, _ => 0
  | some i, .increase => min (i + 1) (l.choices.length - 1)
  | some i, .decrease => i - 1

/-- Steps the selection of a list. -/
def adjustList (a : App) (id : ListId) (step : Step) : App :=
  match a.page.list? id with
  | none => a
  | some l =>
    if l.managed then a.warnManaged id.label
    else if l.disabled then a.setStatus "Font list is still loading" .warning
    else
      let index := stepIndex l step
      if l.selected = some index then a
      else
        let o := a.page.select id index
        let a := a.takeOutcome o
        match o.changed with
        | some value => a.setStatus (id.label ++ ": " ++ value) .info
        | none => a

/-- Steps the control with the focus. -/
def adjust (a : App) (step : Step) : App :=
  match a.focus.kind with
  | .slider id => a.adjustSlider id step
  | .list id => a.adjustList id step

/-- Whether policy locks the control with the focus. -/
def focusIsManaged (a : App) : Bool :=
  match a.focus.kind with
  | .slider id => (a.page.slider? id).any (·.disabled)
  | .list id => (a.page.list? id).any (·.managed)

/-- Adds an error to the history and shows it. -/
def pushError (a : App) (category : ErrorCategory) (message context : String) : App :=
  let record : ErrorRecord := ⟨a.now, category, message, context⟩
  { a with errors := (record :: a.errors).take historyLimit }.setStatus message .error

/-- Drops the user's value of the preference under the cursor. -/
def resetSelected (a : App) : App :=
  match a.store.entries[a.cursor]? with
  | none => a
  | some entry =>
    if a.store.isManaged entry.key then a.warnManaged entry.key
    else
      match a.store.clear entry.key with
      | .ok store => { a with store := store }.setStatus ("Reset " ++ entry.key) .info
      | .error e => a.pushError .preferences e.message entry.key

/-- Applies an answer of the worker. -/
def receive (a : App) : WorkerResponse → App
  | .fonts families encodings selected =>
    { a with
      page := a.page.receiveFonts families encodings selected
      fontsLoaded := some families.length }.setStatus
        ("Loaded " ++ toString families.length ++ " font families, " ++ toString encodings.length
          ++ " encodings") .info
  | .failure message context => a.pushError .catalog message context

/-- Applies every answer that waits, in order. -/
def drainWorker (a : App) : App :=
  a.responses.foldl receive { a with responses := [] }

/-- Takes every change of the preferences that waits, and brings the page in line with the store if
there was one.  Answers with the number of changes. -/
def drainPreferences (a : App) : App × Nat :=
  let (store, taken) := a.store.drain a.observer
  let changes := (taken.getD []).length
  let a := { a with store := store }
  (if changes = 0 then a else { a with page := a.page.resync store }, changes)

/-- Lets the worker take every request that waits, and stop after that. -/
def serveRequests (a : App) (catalog : Catalog) : App :=
  { a with
    requests := []
    responses := a.responses ++ Worker.serve catalog (a.requests.map .fetch) }

/-- Ends the program. -/
def quit (a : App) : App :=
  { a with running := false }

/-- Takes up the state of an earlier run.  The Fonts panel counts as shown by it. -/
def restore (a : App) (s : UiState) : App :=
  { a with focus := s.focus }.showPanel s.panel

/-- The state that outlives the program. -/
def uiState (a : App) : UiState :=
  ⟨a.panel, a.focus⟩

end App
end FontPreferences
