import FontPreferences.Proofs.Session.RoundTrip

/-
What a session does to the file it started from.

Whether it saves is settled when it starts, by what then stands at the preferences path
(`start_saveOnExit_of_unloadable`, `loadUser_saveOnExit_of_holds`).

* `finish_of_not_saveOnExit`: a session that does not save leaves alone whatever stands there at its
  end;
* `finish_of_saveOnExit`: one that saves puts its user layer there, as a JSON object;
* `unloadable_left_alone`: a file that cannot be loaded is never overwritten, and every other one is.
-/
namespace FontPreferences
namespace Session

open Preference (Store UserFileError)
open Preference.Store

/-- The session with another store, as its operations left it. -/
def leaving (s : Session) (store : Store) : Session :=
  { s with store := store }

/-! ### Starting -/

variable {prefs : FileContent}

/-- What cannot be loaded is not loaded in part either. -/
theorem loadUser_of_unloadable {e : UserFileError} (h : prefs.Unloadable e) :
    loadUser prefs = ⟨withFontDefaults, false⟩ := by
  rw [loadUser, loadUserFile_of_unloadable h]

theorem loadUser_saveOnExit_of_holds {members : List (String × Json)} (h : prefs.Holds members) :
    (loadUser prefs).saveOnExit = true := by
  rw [loadUser, loadUserFile_of_holds h]

theorem start_saveOnExit_of_unloadable {e : UserFileError} (h : prefs.Unloadable e)
    (policy : FileContent) : (start prefs policy).saveOnExit = false := by
  rw [start_saveOnExit, loadUser_of_unloadable h]

theorem start_user_of_unloadable {e : UserFileError} (h : prefs.Unloadable e)
    (policy : FileContent) : (start prefs policy).store.user = .empty := by
  rw [start_user, loadUser_of_unloadable h, withFontDefaults_user]

/-- A policy file that holds no policy locks nothing. -/
theorem start_managed_of_not_holdsPolicy {policy : FileContent}
    (h : ∀ p, ¬policy.HoldsPolicy p) (prefs : FileContent) :
    (start prefs policy).store.managed = .empty := by
  cases hload : Policy.load policy with
  | ok p => exact absurd (Policy.load_eq_ok_iff.1 hload) (h p)
  | error e => rw [start_of_policy_error hload, loadUser_managed, withFontDefaults_managed]

/-! ### Finishing -/

variable {s : Session}

theorem finish_of_not_saveOnExit (h : s.saveOnExit = false) (standing : FileContent) :
    s.finish standing = (.ok false, standing) := by
  simp [finish, h]

/-- What is saved is read as the user layer, whatever stood there before. -/
theorem finish_of_saveOnExit (h : s.saveOnExit = true) {standing : FileContent}
    (hstanding : standing.Writable) : ∃ text, s.finish standing = (.ok true, .ofText text) ∧
      Json.read? text = some (.object (s.store.user.entries.map fun e => (e.1, e.2.toJson))) :=
  ⟨_, finish_eq h hstanding, read?_userText s.store⟩

/-- **An unreadable preferences file is never overwritten.**  Loading fails exactly for a directory, a
blocked path, bytes that are no text, text that is no JSON and JSON that is no object.  Then the session
has the defaults, no value of the user, and the locks of the policy that its policy file holds, or none
if it holds no policy; and at its end, whatever its operations made of the store, it leaves alone
whatever stands at the path.  Every other session saves, and puts the user layer there wherever a file
can be written. -/
theorem unloadable_left_alone (prefs policy : FileContent) :
    let session := start prefs policy
    (∀ e, withFontDefaults.loadUserFile prefs = .error e ↔ prefs.Unloadable e) ∧
    ((∃ loaded, withFontDefaults.loadUserFile prefs = .ok loaded) ↔
      ∃ members, prefs.Holds members) ∧
    (∀ e, prefs.Unloadable e →
      session.store.defaults = withFontDefaults.defaults ∧ session.store.user = .empty ∧
      (∀ p, policy.HoldsPolicy p →
        ∀ key, session.store.managed.get? key = p.lock? withFontDefaults key) ∧
      ((∀ p, ¬policy.HoldsPolicy p) → session.store.managed = .empty) ∧
      session.saveOnExit = false ∧
      ∀ store standing, (session.leaving store).finish standing = (.ok false, standing)) ∧
    ∀ members, prefs.Holds members → session.saveOnExit = true ∧
      ∀ store standing, standing.Writable →
        ∃ text, (session.leaving store).finish standing = (.ok true, .ofText text) ∧
          Json.read? text = some (.object (store.user.entries.map fun e => (e.1, e.2.toJson))) := by
  refine ⟨fun e => loadUserFile_eq_error_iff, exists_loadUserFile_iff, fun e h => ?_,
    fun members h => ?_⟩
  · have hsave := start_saveOnExit_of_unloadable h policy
    exact ⟨start_defaults prefs policy, start_user_of_unloadable h policy,
      fun p hp => start_managed_of_holdsPolicy hp prefs,
      fun hnone => start_managed_of_not_holdsPolicy hnone prefs, hsave,
      fun store => finish_of_not_saveOnExit (s := (start prefs policy).leaving store) hsave⟩
  · have hsave : (start prefs policy).saveOnExit = true :=
      (start_saveOnExit prefs policy).trans (loadUser_saveOnExit_of_holds h)
    refine ⟨hsave, fun store standing hstanding => ?_⟩
    exact finish_of_saveOnExit (s := (start prefs policy).leaving store) hsave hstanding

/-- A list where an object should stand, and an object with entries that cannot be used, under a policy
with one entry that locks and two that do not: over the first a session has the defaults and the lock,
and leaves alone even a good file that has taken its place; the second gives way to a saved size.  A
policy file that forces a truth value locks nothing. -/
theorem list_file_left_alone :
    let list := FileContent.ofText "[\"not\", \"an object\"]"
    let partly := FileContent.ofText "\x7b\"webkit.webprefs.default_font_size\": null, \"other\": \"1\"\x7d"
    let policy := FileContent.ofText "[managed]
\"webkit.webprefs.default_fixed_font_size\" = 30
\"no.such\" = 1
\"intl.charset_default\" = 7
"
    let broken := FileContent.ofText "[managed]\n\"webkit.webprefs.default_font_size\" = true\n"
    let store := (start list policy).store.attempt Preference.fontSizeKey (.integer 20) ""
    (start list policy).store.get? Preference.fixedFontSizeKey = some (.integer 30) ∧
    (start list policy).store.source? Preference.fixedFontSizeKey = some .policy ∧
    (start list policy).store.get? Preference.charsetKey = some (.text "ISO-8859-1") ∧
    (start list policy).store.source? Preference.charsetKey = some .default ∧
    (start list broken).store.managed = .empty ∧
    (start list policy).saveOnExit = false ∧
    ((start list policy).leaving store).finish partly = (.ok false, partly) ∧
    ∃ text, ((start partly policy).leaving store).finish partly = (.ok true, .ofText text) ∧
      Json.read? text = some (.object [(Preference.fontSizeKey, .integer 20)]) := by
  intro list partly policy broken store
  let p : Policy := ⟨.ofList [(Preference.fixedFontSizeKey, .integer 30), ("no.such", .integer 1),
    (Preference.charsetKey, .integer 7)]⟩
  have hread : Json.read? "[\"not\", \"an object\"]"
      = some (.array [.text "not", .text "an object"]) := rfl
  have hlist : list.Unloadable .malformed := .notObject hread (by simp)
  have hpartly : partly.Holds [(Preference.fontSizeKey, .null), ("other", .text "1")] := .object rfl
  have hpolicy : policy.HoldsPolicy p := by
    rw [← Policy.load_eq_ok_iff]
    decide +kernel +zetaReduce
  have hbroken : ∀ q, ¬broken.HoldsPolicy q := by
    intro q hq
    have hload : Policy.load broken = .error .malformed := by decide +kernel +zetaReduce
    exact absurd (hload.symm.trans (Policy.load_eq_ok_iff.2 hq)) (by simp)
  obtain ⟨-, -, hleft, -⟩ := unloadable_left_alone list policy
  obtain ⟨-, -, hunlocked, -⟩ := unloadable_left_alone list broken
  obtain ⟨-, -, -, hsaved⟩ := unloadable_left_alone partly policy
  obtain ⟨hdefaults, huser, hlocks, -, hsave, hfinish⟩ := hleft _ hlist
  obtain ⟨-, -, -, hempty, -⟩ := hunlocked _ hlist
  -- the one entry of the policy that is taken
  obtain ⟨hlock, hother, hnone⟩ : p.lock? withFontDefaults Preference.fixedFontSizeKey
        = some (.integer 30) ∧
      p.lock? withFontDefaults Preference.charsetKey = none ∧
      p.lock? withFontDefaults Preference.fontSizeKey = none := by
    decide +kernel +zetaReduce
  have hlocked := (hlocks p hpolicy Preference.fixedFontSizeKey).trans hlock
  have hfree := (hlocks p hpolicy Preference.charsetKey).trans hother
  have hunmanaged : (start list policy).store.isManaged Preference.fontSizeKey = false := by
    rw [isManaged, KeyTable.contains, hlocks p hpolicy, hnone]
    rfl
  have hfault : (start list policy).store.fault? Preference.fontSizeKey (.integer 20) = none := by
    rw [fault?_congr hdefaults]
    decide +kernel
  have hentries : store.user.entries = [(Preference.fontSizeKey, .integer 20)] := by
    rw [show store = _ from attempt_of_accepted hfault hunmanaged "", notifyIfChanged_user, huser]
    rfl
  refine ⟨get?_of_managed hlocked, source?_of_managed hlocked, ?_, ?_, hempty hbroken, hsave,
    hfinish store partly, ?_⟩
  · rw [get?, hfree, huser, hdefaults]
    decide +kernel
  · rw [source?, KeyTable.contains, KeyTable.contains, KeyTable.contains, hfree, huser, hdefaults]
    decide +kernel
  · obtain ⟨text, hwritten, htext⟩ := (hsaved _ hpartly).2 store partly (.bytes _)
    rw [hentries] at htext
    exact ⟨text, hwritten, htext⟩

end Session
end FontPreferences
