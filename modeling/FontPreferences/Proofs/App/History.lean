import FontPreferences.Proofs.App.Steering
import FontPreferences.Screen.Panels

/-
The error history over a run, and the places in it and in the listing.

* `runAt`: a run of events at their times of day;
* `reportsOf a e`, `reportsAt a events`: the errors that an event and a run report, oldest first;
* `Bearings.push`: new errors go before those of the history, and what is beyond the limit is lost;
  `pushed_step`: but for keys, this is all that an event does to the history and to the two places;
* `InRange a reported`: the history holds the latest of the errors reported, and both places exist;
  `InRange.step` and `inRange_runAt`: this is kept by every event, and by every run.

An error that comes in moves those below the open history on by one, and the place in it stays: what is
shown first becomes another error, never none.
-/
namespace FontPreferences

open Preference (Store)

/-- The error that an answer of the worker reports at a time of day, if it does. -/
def WorkerResponse.error? (time : ClockTime) : WorkerResponse → Option ErrorRecord
  | .fonts .. => none
  | .failure message context => some ⟨time, .catalog, message, context⟩

/-! ### New errors -/

namespace Bearings

/-- Bearings after errors, which come in oldest first. -/
def push (b : Bearings) (records : List ErrorRecord) : Bearings :=
  { b with errors := (records.reverse ++ b.errors).take App.historyLimit }

theorem push_nil {b : Bearings} (h : b.errors.length ≤ App.historyLimit) : b.push [] = b := by
  rw [push, List.reverse_nil, List.nil_append, List.take_of_length_le h]

theorem length_push_le (b : Bearings) (records : List ErrorRecord) :
    (b.push records).errors.length ≤ App.historyLimit := by
  rw [push, List.length_take]
  exact Nat.min_le_left _ _

theorem length_le_length_push {b : Bearings} (h : b.errors.length ≤ App.historyLimit)
    (records : List ErrorRecord) : b.errors.length ≤ (b.push records).errors.length := by
  rw [push, List.length_take, List.length_append]
  omega

/-- What is lost at once would be lost later. -/
theorem take_append_take {α : Type} (l m : List α) (n : Nat) :
    (l ++ m.take n).take n = (l ++ m).take n := by
  rw [List.take_append, List.take_append, List.take_take]
  congr 2
  omega

theorem push_push (b : Bearings) (records more : List ErrorRecord) :
    (b.push records).push more = b.push (records ++ more) := by
  simp only [push, take_append_take, List.reverse_append, List.append_assoc]

/-- Some errors have come in, and the places in the history and in the listing are the same. -/
structure Pushed (b b' : Bearings) (records : List ErrorRecord) : Prop where
  errors : b'.errors = (b.push records).errors
  errorScroll : b'.errorScroll = b.errorScroll
  cursor : b'.cursor = b.cursor

end Bearings

namespace App

variable {a : App}

/-- The app after an event at a time of day. -/
def stepAt (a : App) (x : ClockTime × Event) : App :=
  { a with now := x.1 }.step x.2

/-- The app after a run of events at their times of day. -/
def runAt (a : App) (events : List (ClockTime × Event)) : App :=
  events.foldl stepAt a

/-- The errors that an event reports, oldest first. -/
def reportsOf (a : App) : Event → List ErrorRecord
  | .act (.report category message context) => [⟨a.now, category, message, context⟩]
  | .act .drainWorker => a.responses.filterMap (·.error? a.now)
  | .receive response => (response.error? a.now).toList
  | .act _ | .respond _ | .lock .. => []

/-- The errors that a run reports, oldest first. -/
def reportsAt (a : App) : List (ClockTime × Event) → List ErrorRecord
  | [] => []
  | x :: events => { a with now := x.1 }.reportsOf x.2 ++ (a.stepAt x).reportsAt events

theorem bearings_receive (h : a.errors.length ≤ historyLimit) (r : WorkerResponse) :
    (a.receive r).bearings = a.bearings.push (r.error? a.now).toList := by
  cases r with
  | fonts families encodings selected => exact (Bearings.push_nil (b := a.bearings) h).symm
  | failure message context => rfl

theorem receive_now (a : App) (r : WorkerResponse) : (a.receive r).now = a.now := by
  cases r <;> rfl

theorem bearings_foldl_receive (responses : List WorkerResponse) {a : App}
    (h : a.errors.length ≤ historyLimit) : (responses.foldl receive a).bearings
      = a.bearings.push (responses.filterMap (·.error? a.now)) := by
  induction responses generalizing a with
  | nil => exact (Bearings.push_nil (b := a.bearings) h).symm
  | cons r responses ih =>
    have hfirst := bearings_receive h r
    have hlength : (a.receive r).errors.length ≤ historyLimit := by
      have hpush := Bearings.length_push_le a.bearings (r.error? a.now).toList
      rw [← hfirst] at hpush
      exact hpush
    rw [List.foldl_cons, ih hlength, hfirst, Bearings.push_push, receive_now]
    cases herror : r.error? a.now <;> simp [herror]

/-- An event that is no key adds the errors that it reports, and moves neither of the places. -/
theorem pushed_step (h : a.errors.length ≤ historyLimit) {e : Event}
    (hkey : ∀ event, e ≠ .act (.key event)) (hrow : ∀ row, e ≠ .act (.cursor row)) :
    a.bearings.Pushed (a.step e).bearings (a.reportsOf e) := by
  have hquiet : a.bearings.push [] = a.bearings := Bearings.push_nil h
  have hsame : ∀ b : App, b.bearings = a.bearings → a.bearings.Pushed b.bearings [] := by
    intro b hb
    rw [hb]
    exact ⟨by rw [hquiet], rfl, rfl⟩
  have hshow : ∀ panel, a.bearings.Pushed (a.showPanel panel).bearings [] := by
    intro panel
    rw [bearings_showPanel]
    exact ⟨by rw [hquiet], rfl, rfl⟩
  cases e with
  | act x =>
    cases x with
    | key event => exact absurd rfl (hkey event)
    | cursor row => exact absurd rfl (hrow row)
    | showPanel panel => exact hshow panel
    | restore state =>
      have hrestore : (a.restore state).bearings = (a.showPanel state.panel).bearings := by
        rw [App.restore, bearings_showPanel, bearings_showPanel]
        rfl
      rw [step, act, hrestore]
      exact hshow state.panel
    | adjust step => exact hsame _ (bearings_adjust a step)
    | reset => exact hsame _ (bearings_resetSelected a)
    | drainPreferences =>
      obtain ⟨page, heq⟩ := drainPreferences_eq a
      rw [step, act, heq]
      exact hsame _ rfl
    | drainWorker =>
      have hdrain := bearings_foldl_receive a.responses (a := { a with responses := [] }) h
      rw [step, act, drainWorker, hdrain]
      exact ⟨rfl, rfl, rfl⟩
    | report category message context => exact ⟨rfl, rfl, rfl⟩
    | quit =>
      show a.bearings.Pushed a.quit.bearings []
      exact ⟨by rw [hquiet]; rfl, rfl, rfl⟩
    | focus | slide | pick | write | clear => exact hsame _ rfl
  | respond response => exact hsame _ rfl
  | receive response =>
    rw [step, bearings_receive h]
    exact ⟨rfl, rfl, rfl⟩
  | lock key value => exact hsame _ rfl

/-! ### The places -/

/-- The history holds the latest of the errors reported, newest first, and its place and the place in
the listing exist. -/
structure InRange (a : App) (reported : List ErrorRecord) : Prop where
  errors : a.errors = reported.reverse.take historyLimit
  scroll : a.errorScroll = 0 ∨ a.errorScroll < a.errors.length
  cursor : a.cursor < a.store.entries.length

variable {reported : List ErrorRecord}

theorem InRange.length_le (h : a.InRange reported) : a.errors.length ≤ historyLimit := by
  rw [h.errors, List.length_take]
  exact Nat.min_le_left _ _

theorem entries_length_step (a : App) (e : Event) :
    (a.step e).store.entries.length = a.store.entries.length := by
  rw [Store.entries_length, Store.entries_length, defaults_step]

/-- A key moves the places by one at most, and only to where there is one. -/
theorem InRange.key (h : a.InRange reported) (event : KeyEvent) :
    (a.handleKey event).InRange reported := by
  obtain ⟨herrors, hscroll, hcursor⟩ := (steers_handleKey a event).inRange h.scroll h.cursor
  have hrows := entries_length_step a (.act (.key event))
  exact ⟨herrors.trans h.errors, hscroll, hrows ▸ hcursor⟩

theorem InRange.step (h : a.InRange reported) {e : Event} (hrow : ∀ row, e ≠ .act (.cursor row)) :
    (a.step e).InRange (reported ++ a.reportsOf e) := by
  by_cases hkey : ∃ event, e = .act (.key event)
  · obtain ⟨event, rfl⟩ := hkey
    have hnone : a.reportsOf (.act (.key event)) = [] := rfl
    rw [hnone, List.append_nil]
    exact h.key event
  · have hpushed := pushed_step h.length_le (fun event he => hkey ⟨event, he⟩) hrow
    have hgrows := Bearings.length_le_length_push (b := a.bearings) h.length_le (a.reportsOf e)
    rw [← hpushed.errors] at hgrows
    refine ⟨?_, ?_, ?_⟩
    · have herrors : (a.step e).errors = ((a.reportsOf e).reverse ++ a.errors).take historyLimit :=
        hpushed.errors
      rw [herrors, h.errors, Bearings.take_append_take, List.reverse_append]
    · have hscroll : (a.step e).errorScroll = a.errorScroll := hpushed.errorScroll
      rw [hscroll]
      -- the history is no shorter than before
      exact h.scroll.imp_right fun hlt => Nat.lt_of_lt_of_le hlt hgrows
    · have hcursor : (a.step e).cursor = a.cursor := hpushed.cursor
      rw [hcursor, entries_length_step]
      exact h.cursor

theorem inRange_runAt (h : a.InRange reported) {events : List (ClockTime × Event)}
    (hrows : ∀ x ∈ events, ∀ row, x.2 ≠ .act (.cursor row)) :
    (a.runAt events).InRange (reported ++ a.reportsAt events) := by
  induction events generalizing a reported with
  | nil =>
    rw [reportsAt, List.append_nil]
    exact h
  | cons x events ih =>
    have hnow : InRange { a with now := x.1 } reported := ⟨h.errors, h.scroll, h.cursor⟩
    have hstep := hnow.step (hrows x List.mem_cons_self)
    have hrest := ih hstep fun y hy => hrows y (List.mem_cons_of_mem _ hy)
    rw [reportsAt, ← List.append_assoc]
    exact hrest

theorem inRange_new {store : Store} (h : ∃ key, store.isRegistered key = true)
    (strings : LocalizedStrings) : (new store strings).InRange [] := by
  refine ⟨rfl, .inl rfl, ?_⟩
  obtain ⟨key, hkey⟩ := h
  have hmem : key ∈ store.observe.1.defaults.keys := Store.mem_keys_iff.2 hkey
  rw [new_store, Store.entries_length]
  exact List.length_pos_of_mem hmem

/-! ### What stands at the places -/

theorem handleKey_of_resets {e : KeyEvent} (h : a.Resets e) : a.handleKey e = a.resetSelected := by
  obtain ⟨⟨hpress, hclosed⟩, hpanel, hcode⟩ := h
  rw [handleKey, if_neg (by simpa using hpress), if_neg (by simp [hclosed]), globalKey?, panelKey,
    hcode, hpanel]
  rfl

/-- A reset drops the user's value of the preference in the row, unless policy locks it. -/
theorem resetSelected_of_entry {entry : Preference.Entry}
    (h : a.store.entries[a.cursor]? = some entry) : a.resetSelected =
      if a.store.isManaged entry.key then a.warnManaged entry.key
      else { a with store := a.store.attemptClear entry.key }.setStatus
        ("Reset " ++ entry.key) .info := by
  rw [resetSelected, h]
  dsimp only
  split
  · rfl
  · rw [Store.attemptClear]
    cases hclear : a.store.clear entry.key with
    | ok store => rfl
    | error e => exact absurd hclear (clear_ne_error h e)

end App

/-- The first line of an error says when it came in, what it is about, and its message. -/
theorem Screen.exists_errorLines (record : ErrorRecord) (first : Bool) :
    ∃ line more, errorLines record first = line :: more ∧
      Line.text line = "[" ++ clockText record.time ++ "] " ++ ("[" ++ record.category.label ++ "] ")
        ++ record.message := by
  refine ⟨_, _, rfl, ?_⟩
  simp only [Line.text, List.map_cons, List.map_nil, String.join_cons, String.join_nil,
    String.append_empty, String.append_assoc]

/-- The open history starts with the error at its place. -/
theorem Screen.exists_historyLines {a : App} {record : ErrorRecord}
    (h : a.errors[a.errorScroll]? = some record) (height : Nat) :
    ∃ rest, historyLines a (height + 1) = errorLines record true ++ rest := by
  obtain ⟨hlt, hrecord⟩ := List.getElem?_eq_some_iff.1 h
  have hsome : ¬(a.errors.isEmpty = true) := by
    rw [List.isEmpty_iff]
    intro hnil
    rw [hnil] at hlt
    exact absurd hlt (Nat.not_lt_zero _)
  rw [historyLines, if_neg hsome, List.drop_eq_getElem_cons hlt, hrecord, List.take_succ_cons,
    List.zipIdx_cons, List.flatMap_cons]
  exact ⟨_, rfl⟩

namespace App

/-- **The places in the error history and in the listing exist.**  Take an app over a store with a
preference, and any run of events at any times of day; only the cursor is not put anywhere directly.

* The history holds the latest of the errors that the run reports, fifty at most, newest first.
* The place in it is its start or that of an error.  So a history that is not empty opens with an
  error, however many errors have come in, and whether or not it was open then: the first line has the
  time, the tag and the message of this error.
* The cursor is on a row of the listing, so the key for a reset is always about the preference in this
  row: it drops the user's value, or warns that policy locks the preference. -/
theorem history_and_cursor_in_range (store : Store) (strings : LocalizedStrings)
    (hstore : ∃ key, store.isRegistered key = true) (events : List (ClockTime × Event))
    (hrows : ∀ x ∈ events, ∀ row, x.2 ≠ .act (.cursor row)) :
    let a := (new store strings).runAt events
    a.errors = ((new store strings).reportsAt events).reverse.take 50 ∧
    (a.errorScroll = 0 ∨ a.errorScroll < a.errors.length) ∧
    (a.errors ≠ [] → ∃ record, a.errors[a.errorScroll]? = some record ∧
      ∀ height, ∃ line more rest,
        Screen.historyLines a (height + 1) = Screen.errorLines record true ++ rest ∧
        Screen.errorLines record true = line :: more ∧
        Screen.Line.text line = "[" ++ Screen.clockText record.time ++ "] "
          ++ ("[" ++ record.category.label ++ "] ") ++ record.message) ∧
    a.cursor < a.store.entries.length ∧
    ∃ entry, a.store.entries[a.cursor]? = some entry ∧ ∀ e, a.Resets e →
      a.handleKey e = if a.store.isManaged entry.key then a.warnManaged entry.key
        else { a with store := a.store.attemptClear entry.key }.setStatus
          ("Reset " ++ entry.key) .info := by
  intro a
  have hrange : a.InRange ((new store strings).reportsAt events) :=
    inRange_runAt (inRange_new hstore strings) hrows
  refine ⟨hrange.errors, hrange.scroll, fun hsome => ?_, hrange.cursor, ?_⟩
  · have hlt : a.errorScroll < a.errors.length := by
      rcases hrange.scroll with hstart | hlt
      · rw [hstart]
        exact List.length_pos_iff.2 hsome
      · exact hlt
    have hrecord := List.getElem?_eq_getElem hlt
    refine ⟨_, hrecord, fun height => ?_⟩
    obtain ⟨rest, hrest⟩ := Screen.exists_historyLines hrecord height
    obtain ⟨line, more, hlines, htext⟩ := Screen.exists_errorLines a.errors[a.errorScroll] true
    exact ⟨line, more, rest, hrest, hlines, htext⟩
  · have hentry := List.getElem?_eq_getElem hrange.cursor
    exact ⟨_, hentry, fun e he => (handleKey_of_resets he).trans (resetSelected_of_entry hentry)⟩

/-- A scrolled history with one error more than it holds, and another one that comes in. -/
theorem history_beyond_the_limit :
    let press : Char → Event := fun c => .act (.key ⟨.char c, false, false, false, .press⟩)
    let reports := List.replicate 51 (⟨12, 5, 9⟩, Event.act (.report .other "disk full" ""))
    let events := reports ++ [(⟨12, 5, 9⟩, press 'e'), (⟨12, 5, 10⟩, press 'j'),
      (⟨12, 5, 11⟩, .receive (.failure "no fonts" ""))]
    let a := (new .withFontDefaults default).runAt events
    a.errors.length = 50 ∧ a.errors.head? = some ⟨⟨12, 5, 11⟩, .catalog, "no fonts", ""⟩ ∧
      a.errorScroll = 1 ∧
      (∃ line rest, Screen.historyLines a 20 = line :: rest ∧
        Screen.Line.text line = "[12:05:09] [ERR] disk full") ∧
      a.cursor < a.store.entries.length := by
  intro press reports events a
  have hstore : Store.withFontDefaults.isRegistered Preference.fontSizeKey = true := by decide
  have hrows : ∀ x ∈ events, ∀ row, x.2 ≠ .act (.cursor row) := by
    simp [events, reports, press]
  obtain ⟨herrors, -, hfirst, hcursor, -⟩ :=
    history_and_cursor_in_range .withFontDefaults default ⟨_, hstore⟩ events hrows
  have hlength : a.errors.length = 50 := by
    rw [herrors]
    decide +kernel +zetaReduce
  have hplace : a.errorScroll = 1 ∧
      a.errors[1]? = some ⟨⟨12, 5, 9⟩, .other, "disk full", ""⟩ := by
    decide +kernel +zetaReduce
  refine ⟨hlength, ?_, hplace.1, ?_, hcursor⟩
  · rw [herrors]
    decide +kernel +zetaReduce
  · have hsome : a.errors ≠ [] := by
      intro hnil
      rw [hnil] at hlength
      exact absurd hlength (by simp)
    obtain ⟨record, hrecord, hlines⟩ := hfirst hsome
    obtain ⟨line, more, rest, hhistory, hline, htext⟩ := hlines 19
    rw [hline] at hhistory
    cases hplace.2.symm.trans ((congrArg (a.errors[·]?) hplace.1.symm).trans hrecord)
    exact ⟨line, more ++ rest, hhistory, htext.trans (by decide +kernel)⟩

end App
end FontPreferences
