import FontPreferences.Proofs.Session.RoundTrip

/-
What policy hides is kept.

The user's value of a locked preference is not effective, but it is saved at the end of the session
and effective again when the policy is gone.  So it must survive everything that happens on the way.

* `user_move`: no move touches the user's value of a locked preference, unless it is to drop just
  that value, and `user_act`: no action of the user comes to that;
* `user_run`: the same over a run without a lock;
* `hidden_values_survive`: a session under a policy gives back, without it, what it found.
-/
namespace FontPreferences

namespace Preference
namespace Store

/-- An edit leaves the user's value of a locked key, unless it drops this value. -/
theorem user_edit {s : Store} {e : Edit} (he : e.IsUser) {key : String}
    (hmanaged : s.isManaged key = true) (hclear : e ≠ .clear key) :
    (s.edit e).user.get? key = s.user.get? key := by
  cases he with
  | set k value origin =>
    by_cases hk : key = k
    · rw [edit, attempt_of_isManaged (hk ▸ hmanaged)]
    · exact user_attempt_of_ne hk value origin
  | clear k =>
    have hne : key ≠ k := fun heq => hclear (by rw [heq])
    exact user_attemptClear_of_ne hne

theorem user_edited {s : Store} {edits : List Edit} (huser : ∀ e ∈ edits, e.IsUser) {key : String}
    (hmanaged : s.isManaged key = true) (hclear : .clear key ∉ edits) :
    (s.edited edits).user.get? key = s.user.get? key := by
  induction edits generalizing s with
  | nil => rfl
  | cons e edits ih =>
    obtain ⟨he, hrest⟩ := List.forall_mem_cons.1 huser
    have hne : e ≠ .clear key := fun heq => hclear (heq ▸ List.mem_cons_self)
    have hpolicy := managed_edited (List.forall_mem_singleton.2 he) s
    have hkept : (s.edited [e]).isManaged key = true := by
      rw [isManaged, hpolicy]
      exact hmanaged
    exact (ih hrest hkept fun hmem => hclear (List.mem_cons_of_mem _ hmem)).trans
      (user_edit he hmanaged hne)

end Store
end Preference

namespace App

variable {a : App} {key : String}

theorem user_move (hmanaged : a.store.isManaged key = true) {m : Move} (hm : m ≠ .clear key) :
    (a.move m).store.user.get? key = a.store.user.get? key := by
  by_cases hdrain : m = .drainPreferences
  · subst hdrain
    show a.drainPreferences.1.store.user.get? key = _
    rw [drainPreferences_store, Preference.Store.drain_user]
  · obtain ⟨edits, huser, hclear, hstore⟩ := store_move a hdrain
    rw [hstore]
    exact Preference.Store.user_edited huser hmanaged (mt (hclear key) hm)

/-- No action of the user touches the user's value of a locked preference. -/
theorem user_act (hmanaged : a.store.isManaged key = true) {x : Action} (hx : x ≠ .clear key) :
    (a.act x).store.user.get? key = a.store.user.get? key := by
  -- a reset of a locked preference ends in a warning
  have hmove : a.moveOf x ≠ .clear key := by
    intro hclear
    rw [isManaged_of_moveOf_eq_clear hx hclear] at hmanaged
    exact absurd hmanaged (by simp)
  rw [store_act]
  exact user_move hmanaged hmove

theorem user_step (hmanaged : a.store.isManaged key = true) {e : Event}
    (hlock : ∀ k value, e ≠ .lock k value) (hclear : e ≠ .act (.clear key)) :
    (a.step e).store.user.get? key = a.store.user.get? key := by
  cases e with
  | act x => exact user_act hmanaged fun hx => hclear (by rw [hx])
  | respond r => rfl
  | receive r => rw [step, receive_store]
  | lock k value => exact absurd rfl (hlock k value)

theorem user_run {events : List Event} (hlock : ∀ k value, .lock k value ∉ events)
    (hmanaged : a.store.isManaged key = true) (hclear : .act (.clear key) ∉ events) :
    (a.run events).store.user.get? key = a.store.user.get? key := by
  have hrun : (a.run events).store.isManaged key = true ∧
      (a.run events).store.user.get? key = a.store.user.get? key := by
    -- the lock goes along, since what is kept is kept by it
    refine run_induction (motive := fun b => b.store.isManaged key = true ∧
      b.store.user.get? key = a.store.user.get? key) ⟨hmanaged, rfl⟩ ?_
    rintro b ⟨hb, hkept⟩ e he
    have hfree : ∀ k value, e ≠ .lock k value := fun k value heq => hlock k value (heq ▸ he)
    have hstep := user_step hb hfree fun heq => hclear (heq ▸ he)
    refine ⟨?_, hstep.trans hkept⟩
    rw [Preference.Store.isManaged, managed_step b hfree]
    exact hb
  exact hrun.2

end App

namespace Session

open Preference (Store)

/-- The session with the store that an app leaves. -/
def closed (s : Session) (a : App) : Session :=
  { s with store := a.store }

/-- Without a policy a session has the user's values over the defaults. -/
theorem start_missing (prefs : FileContent) : start prefs .missing = loadUser prefs := by
  rw [start, show Policy.load .missing = .ok .empty from rfl]
  rfl

/-- **A policy never destroys the user's own values.**  Whatever happens to the app in a session under
a policy, short of a value dropped from outside, the next session without the policy finds each
preference that it locked as a session without it would have found it before: with the user's value,
or with the default. -/
theorem hidden_values_survive {prefs : FileContent} (hprefs : prefs.Loadable)
    (policy : FileContent) (strings : LocalizedStrings) {events : List Event}
    (hlock : ∀ key value, .lock key value ∉ events) {standing : FileContent}
    (hstanding : standing.Writable) :
    let session := start prefs policy
    let a := (App.new session.store strings).run events
    ∃ file, (session.closed a).finish standing = (.ok true, file) ∧
      ∀ key, session.store.isManaged key = true → .act (.clear key) ∉ events →
        (start file .missing).store.get? key = (start prefs .missing).store.get? key ∧
        (start file .missing).store.source? key = (start prefs .missing).store.source? key := by
  intro session a
  have hsave : (session.closed a).saveOnExit = true := by
    rw [closed, start_saveOnExit, saveOnExit_loadUser_iff]
    exact hprefs
  have hover : a.store.OverFontDefaults := by
    refine App.overFontDefaults_run ?_ events
    rw [App.new_store]
    exact Store.overFontDefaults_edit (overFontDefaults_start prefs policy) .observe
  refine ⟨_, finish_eq hsave hstanding, fun key hmanaged hclear => ?_⟩
  have hkept : a.store.user.get? key = (loadUser prefs).store.user.get? key := by
    have hrun : a.store.user.get? key = (App.new session.store strings).store.user.get? key :=
      App.user_run hlock hmanaged hclear
    rw [hrun, App.new_store, ← start_user prefs policy]
    rfl
  have hsaved : start (.ofText (session.closed a).store.userText) .missing
      = ⟨{ Store.withFontDefaults with user := a.store.user }, true⟩ :=
    (start_missing _).trans (loadUser_userText hover)
  have hdefaults := (overFontDefaults_loadUser prefs).defaults
  have hmanaged := loadUser_managed prefs
  rw [hsaved, start_missing]
  constructor
  · refine Store.get?_congr ?_ hkept ?_
    · rw [hdefaults]
    · rw [hmanaged]
  · refine Store.source?_congr ?_ hkept ?_
    · rw [hdefaults]
    · rw [hmanaged]

/-- A size that the policy hides is there again without it, though its slider was moved, a write came
from outside and a reset was tried. -/
theorem hidden_size_survives :
    let prefs := FileContent.ofText "\x7b\"webkit.webprefs.default_font_size\": 20\x7d"
    let policy := FileContent.ofText "[managed]\n\"webkit.webprefs.default_font_size\" = 30\n"
    let events : List Event := [.act (.showPanel .fonts), .act (.slide .serifSize 3),
      .act (.adjust .increase), .act (.write Preference.fontSizeKey (.integer 9) "sync"),
      .act .drainPreferences, .act (.showPanel .preferences), .act (.cursor 2), .act .reset]
    let session := start prefs policy
    let a := (App.new session.store default).run events
    session.store.isManaged Preference.fontSizeKey = true ∧
    ∃ file, (session.closed a).finish .missing = (.ok true, file) ∧
      (start file .missing).store.get? Preference.fontSizeKey = some (.integer 20) := by
  intro prefs policy events session a
  have hprefs : prefs.Loadable := by
    rw [FileContent.Loadable, FileContent.read_ofText]
    decide +kernel
  have hlock : ∀ key value, .lock key value ∉ events := by simp [events]
  have hmanaged : session.store.isManaged Preference.fontSizeKey = true := by
    decide +kernel +zetaReduce
  have hfound : (start prefs .missing).store.get? Preference.fontSizeKey = some (.integer 20) := by
    decide +kernel +zetaReduce
  obtain ⟨file, hfile, hkept⟩ := hidden_values_survive hprefs policy default hlock .missing
  refine ⟨hmanaged, file, hfile, ?_⟩
  rw [(hkept Preference.fontSizeKey hmanaged (by simp [events])).1, hfound]

end Session
end FontPreferences
