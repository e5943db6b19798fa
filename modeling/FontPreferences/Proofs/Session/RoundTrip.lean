import FontPreferences.Proofs.App.Run
import FontPreferences.Proofs.Policy.Locks
import FontPreferences.Session

/-
A session, and the next one after it.

* `saveOnExit_loadUser_iff`: a session saves at its end iff its preferences file is `Loadable`;
* `start_store`: the store of a session holds the user's values, with a lock for each entry of the
  policy that it takes, and so is prepared from the font defaults (`overFontDefaults_start`);
* `start_managed_of_holdsPolicy`, `start_of_policy_error`: its layer of policy is what the policy file
  locks, and empty if the file holds no policy;
* `loadUser_userText`: the values that a session saves are those that the next one starts from;
* `start_finish`: the next session under the same policy has the entries that this one ended with.

What a policy locks depends on the defaults alone (`attemptLocks_managed_congr`), so two sessions
under one policy differ in the user layer at most.
-/
namespace FontPreferences

/-- A preferences file that can be loaded: none at all, or a JSON object. -/
def FileContent.Loadable (file : FileContent) : Prop :=
  match file.read with
  | .missing => True
  | .unreadable => False
  | .text text => (Preference.readObject? text).isSome = true

/-- What stands where a file can be written. -/
inductive FileContent.Writable : FileContent → Prop where
  | missing : Writable .missing
  | bytes (data : ByteArray) : Writable (.bytes data)

namespace Session

open Preference (Store)
open Preference.Store

/-! ### Starting -/

theorem saveOnExit_loadUser_iff (prefs : FileContent) :
    (loadUser prefs).saveOnExit = true ↔ prefs.Loadable := by
  rw [loadUser, loadUserFile, FileContent.Loadable]
  cases hread : prefs.read with
  | missing => simp
  | unreadable => simp
  | text text => cases hmembers : Preference.readObject? text <;> simp [hmembers]

/-- The user's values are loaded over the font defaults, or these stand as they are. -/
theorem loadUser_store (prefs : FileContent) :
    (loadUser prefs).store = withFontDefaults.edit (.load prefs) := by
  rw [loadUser, edit]
  cases withFontDefaults.loadUserFile prefs <;> rfl

theorem loadUser_managed (prefs : FileContent) :
    (loadUser prefs).store.managed = withFontDefaults.managed := by
  rw [loadUser_store, edit]
  cases hload : withFontDefaults.loadUserFile prefs with
  | error e => rfl
  | ok loaded => exact loadUserFile_managed hload

theorem overFontDefaults_loadUser (prefs : FileContent) :
    (loadUser prefs).store.OverFontDefaults := by
  rw [loadUser_store]
  exact overFontDefaults_edit overFontDefaults_withFontDefaults (.load prefs)

/-- The store of a session holds the user's values, with the policy on top. -/
theorem start_store (prefs policy : FileContent) : (start prefs policy).store
    = (loadUser prefs).store.attemptLocks (Policy.entriesOf policy) := by
  rw [start, Policy.entriesOf]
  cases Policy.load policy with
  | error e => rfl
  | ok p => exact Policy.foldl_applyEntry_fst p.managed.entries _

theorem start_saveOnExit (prefs policy : FileContent) :
    (start prefs policy).saveOnExit = (loadUser prefs).saveOnExit := by
  rw [start]
  cases Policy.load policy <;> rfl

theorem overFontDefaults_start (prefs policy : FileContent) :
    (start prefs policy).store.OverFontDefaults := by
  rw [start_store]
  exact (overFontDefaults_loadUser prefs).edited _

/-- The policy decides its layer alone, whatever the user's values are. -/
theorem start_managed (prefs policy : FileContent) : (start prefs policy).store.managed
    = (withFontDefaults.attemptLocks (Policy.entriesOf policy)).managed := by
  rw [start_store]
  exact attemptLocks_managed_congr (overFontDefaults_loadUser prefs).defaults
    (loadUser_managed prefs) _

theorem start_user (prefs policy : FileContent) :
    (start prefs policy).store.user = (loadUser prefs).store.user := by
  rw [start_store, attemptLocks_user]

theorem start_defaults (prefs policy : FileContent) :
    (start prefs policy).store.defaults = withFontDefaults.defaults :=
  (overFontDefaults_start prefs policy).defaults

/-- The layer of policy of a session is what its policy file locks, over any preferences file. -/
theorem start_managed_of_holdsPolicy {policy : FileContent} {p : Policy} (h : policy.HoldsPolicy p)
    (prefs : FileContent) (key : String) :
    (start prefs policy).store.managed.get? key = p.lock? withFontDefaults key := by
  have hmanaged := p.managed_apply withFontDefaults key
  rw [withFontDefaults_managed, KeyTable.get?_empty, Option.or_none, Policy.apply_fst] at hmanaged
  rw [start_managed, Policy.entriesOf, Policy.load_eq_ok_iff.2 h]
  exact hmanaged

/-- Without a policy that can be loaded nothing is locked. -/
theorem start_of_policy_error {policy : FileContent} {e : ConfigError}
    (h : Policy.load policy = .error e) (prefs : FileContent) :
    start prefs policy = loadUser prefs := by
  rw [start, h]

/-! ### Saving -/

/-- The session after changes to its store. -/
def edited (s : Session) (edits : List Edit) : Session :=
  { s with store := s.store.edited edits }

/-- A session that saves writes its user layer. -/
theorem finish_eq {s : Session} (hsave : s.saveOnExit = true) {standing : FileContent}
    (hstanding : standing.Writable) :
    s.finish standing = (.ok true, .ofText s.store.userText) := by
  cases hstanding <;> simp [finish, hsave]

/-- What a session saved is what the next one starts from. -/
theorem loadUser_userText {s : Store} (h : s.OverFontDefaults) :
    loadUser (.ofText s.userText) = ⟨{ withFontDefaults with user := s.user }, true⟩ := by
  rw [loadUser, loadUserFile_userText h.conforming h.defaults.symm withFontDefaults_user]

/-- **A session round-trips through the preferences file**: whatever the user does to the store, the
next session under the same policy has the entries that this one ended with, and will save again. -/
theorem start_finish {prefs : FileContent} (hprefs : prefs.Loadable) (policy : FileContent)
    {edits : List Edit} (huser : ∀ e ∈ edits, e.IsUser) {standing : FileContent}
    (hstanding : standing.Writable) :
    ∃ file, ((start prefs policy).edited edits).finish standing = (.ok true, file) ∧
      (start file policy).saveOnExit = true ∧
      (start file policy).store.entries = ((start prefs policy).edited edits).store.entries := by
  have hsave : ((start prefs policy).edited edits).saveOnExit = true := by
    rw [edited, start_saveOnExit, saveOnExit_loadUser_iff]
    exact hprefs
  have hover : ((start prefs policy).edited edits).store.OverFontDefaults :=
    (overFontDefaults_start prefs policy).edited edits
  -- the file decides the user layer, the defaults and the policy file decide the layer of policy
  refine ⟨_, finish_eq hsave hstanding, ?_, SameLayers.entries ⟨?_, ?_, ?_⟩⟩
  · rw [start_saveOnExit, loadUser_userText hover]
  · rw [(overFontDefaults_start _ policy).defaults, hover.defaults]
  · rw [start_user, loadUser_userText hover]
  · rw [start_managed, edited, managed_edited huser, start_managed]

/-- Two writes that are taken, one of the wrong kind, one against the policy, and a value dropped. -/
theorem start_finish_georgia :
    let prefs := FileContent.ofText "\x7b\"intl.charset_default\": \"UTF-8\", \"other\": 1\x7d"
    let policy := FileContent.ofText "[managed]\n\"webkit.webprefs.default_font_size\" = 20\n"
    let session := (start prefs policy).edited
      [.set Preference.serifFamilyKey (.text "Georgia \"Pro\"\t\u00e9") "page",
        .set Preference.fixedFontSizeKey (.text "9") "page",
        .set Preference.fontSizeKey (.integer 9) "page",
        .set Preference.minimumFontSizeKey (.integer (-1)) "page", .clear Preference.charsetKey]
    ∃ file, session.finish .missing = (.ok true, file) ∧ (start file policy).saveOnExit = true ∧
      (start file policy).store.entries = session.store.entries := by
  refine start_finish ?_ _ ?_ .missing
  · rw [FileContent.Loadable, FileContent.read_ofText]
    decide +kernel
  · simp only [List.mem_cons, List.not_mem_nil, or_false, forall_eq_or_imp, forall_eq]
    exact ⟨.set .., .set .., .set .., .set .., .clear _⟩

end Session
end FontPreferences
