import FontPreferences.Command
import FontPreferences.Proofs.Session.Saving

/-
Two ways to open the same two files.

A command refuses files that it cannot use; a session goes on without them.

* `openStore_eq_ok_iff`: what a command opens is what the files hold, policy over user over default;
* `start_of_openStore`: a session opens just that store, and saves at its end;
* `start_user_of_holds`: the user layer of a session's store comes from the preferences file, whatever
  the policy is;
* `start_agrees_openStore`: how the two ways agree, and what a session makes of one bad file.
-/
namespace FontPreferences

open Preference (Store)
open Preference.Store

variable {prefs policy : FileContent}

/-- A command opens the user's values under the locks of the policy, and nothing less. -/
theorem openStore_eq_ok_iff {s : Store} : openStore prefs policy = .ok s ↔
    ∃ loaded p, withFontDefaults.loadUserFile prefs = .ok loaded ∧ Policy.load policy = .ok p ∧
      s = (p.apply loaded.1).1 := by
  rw [openStore]
  cases withFontDefaults.loadUserFile prefs with
  | error e => simp
  | ok loaded =>
    cases Policy.load policy with
    | error e => simp
    | ok p => simp [eq_comm]

/-- A command opens the two files exactly if each of them can be loaded. -/
theorem exists_openStore_iff : (∃ s, openStore prefs policy = .ok s) ↔
    (∃ loaded, withFontDefaults.loadUserFile prefs = .ok loaded) ∧
      ∃ p, Policy.load policy = .ok p := by
  constructor
  · rintro ⟨s, h⟩
    obtain ⟨loaded, p, hload, hp, -⟩ := openStore_eq_ok_iff.1 h
    exact ⟨⟨loaded, hload⟩, p, hp⟩
  · rintro ⟨⟨loaded, hload⟩, p, hp⟩
    exact ⟨_, openStore_eq_ok_iff.2 ⟨loaded, p, hload, hp, rfl⟩⟩

namespace Session

/-- Where a command opens a store, a session starts with the same one. -/
theorem start_of_openStore {s : Store} (h : openStore prefs policy = .ok s) :
    start prefs policy = ⟨s, true⟩ := by
  obtain ⟨loaded, p, hload, hp, rfl⟩ := openStore_eq_ok_iff.1 h
  simp only [start, loadUser, hload, hp]

theorem loadUser_of_ok {loaded : Store × Nat}
    (h : withFontDefaults.loadUserFile prefs = .ok loaded) : loadUser prefs = ⟨loaded.1, true⟩ := by
  rw [loadUser, h]

/-- The user layer of a session is what its preferences file holds, under any policy. -/
theorem start_user_of_holds {members : List (String × Json)} (h : prefs.Holds members)
    (policy : FileContent) (key : String) : (start prefs policy).store.user.get? key
      = ((KeyTable.ofList members).get? key).bind (withFontDefaults.usable? key) := by
  have hload := loadUserFile_of_holds (s := withFontDefaults) h
  have huser := user_loadUserFile h hload key
  rw [withFontDefaults_user, KeyTable.get?_empty, Option.or_none] at huser
  rw [start_user, loadUser_of_ok hload, huser]

/-- **The two ways open the same store.**  A command opens the two files exactly if both can be loaded,
and then a session on them starts with the same three layers, and saves.  If the preferences file
alone is bad, a session has the defaults under exactly the locks of the policy, and does not save; if
the policy alone is bad, it has the user's values with no lock at all. -/
theorem start_agrees_openStore (prefs policy : FileContent) :
    let session := start prefs policy
    ((∃ s, openStore prefs policy = .ok s) ↔
      (∃ loaded, withFontDefaults.loadUserFile prefs = .ok loaded) ∧
        ∃ p, Policy.load policy = .ok p) ∧
    (∀ s, openStore prefs policy = .ok s → s.SameLayers session.store ∧
      s.entries = session.store.entries ∧ session.saveOnExit = true) ∧
    (∀ e p, withFontDefaults.loadUserFile prefs = .error e → Policy.load policy = .ok p →
      session.store.defaults = withFontDefaults.defaults ∧ session.store.user = .empty ∧
        (∀ key, session.store.managed.get? key = p.lock? withFontDefaults key) ∧
        session.saveOnExit = false) ∧
    ∀ loaded e, withFontDefaults.loadUserFile prefs = .ok loaded → Policy.load policy = .error e →
      session.store.defaults = withFontDefaults.defaults ∧ session.store.user = loaded.1.user ∧
        (∀ members, prefs.Holds members → ∀ key, session.store.user.get? key
          = ((KeyTable.ofList members).get? key).bind (withFontDefaults.usable? key)) ∧
        session.store.managed = .empty ∧ session.saveOnExit = true := by
  refine ⟨exists_openStore_iff, fun s hs => ?_, fun e p hprefs hpolicy => ?_,
    fun loaded e hprefs hpolicy => ?_⟩
  · rw [start_of_openStore hs]
    exact ⟨⟨rfl, rfl, rfl⟩, rfl, rfl⟩
  · have hunloadable := loadUserFile_eq_error_iff.1 hprefs
    exact ⟨start_defaults prefs policy, start_user_of_unloadable hunloadable policy,
      start_managed_of_holdsPolicy (Policy.load_eq_ok_iff.1 hpolicy) prefs,
      start_saveOnExit_of_unloadable hunloadable policy⟩
  · refine ⟨start_defaults prefs policy, ?_, fun members h => start_user_of_holds h policy, ?_, ?_⟩
    · rw [start_user, loadUser_of_ok hprefs]
    · rw [start_of_policy_error hpolicy, loadUser_managed, withFontDefaults_managed]
    · rw [start_of_policy_error hpolicy, loadUser_of_ok hprefs]

/-- Over a preferences file that holds a list, a session locks the good entry of a policy, and neither an
unknown key nor a value of the wrong kind; over a good file, a policy that forces a truth value locks
nothing. -/
theorem start_agrees_on_bad_files :
    let list := FileContent.ofText "[\"intl.charset_default\", \"UTF-8\"]"
    let prefs := FileContent.ofText "\x7b\"intl.charset_default\": \"UTF-8\"\x7d"
    let policy := FileContent.ofText "[managed]
\"webkit.webprefs.default_font_size\" = 30
\"no.such\" = 1
\"intl.charset_default\" = 7
"
    let broken := FileContent.ofText "[managed]\n\"webkit.webprefs.default_font_size\" = true\n"
    (start list policy).store.user = .empty ∧
    (start list policy).store.managed.get? Preference.fontSizeKey = some (.integer 30) ∧
    (start list policy).store.managed.get? Preference.charsetKey = none ∧
    (start list policy).saveOnExit = false ∧
    (start prefs broken).store.user.get? Preference.charsetKey = some (.text "UTF-8") ∧
    (start prefs broken).store.managed = .empty ∧ (start prefs broken).saveOnExit = true := by
  intro list prefs policy broken
  let p : Policy := ⟨.ofList [(Preference.fontSizeKey, .integer 30), ("no.such", .integer 1),
    (Preference.charsetKey, .integer 7)]⟩
  have hlist : withFontDefaults.loadUserFile list = .error .malformed := by
    decide +kernel +zetaReduce
  have hpolicy : Policy.load policy = .ok p := by decide +kernel +zetaReduce
  have hprefs : prefs.Holds [(Preference.charsetKey, .text "UTF-8")] := .object rfl
  have hbroken : Policy.load broken = .error .malformed := by decide +kernel +zetaReduce
  obtain ⟨loaded, hloaded⟩ := exists_loadUserFile_iff.2 ⟨_, hprefs⟩
  obtain ⟨-, -, hlocks, -⟩ := start_agrees_openStore list policy
  obtain ⟨-, -, -, hvalues⟩ := start_agrees_openStore prefs broken
  obtain ⟨-, hempty, hmanaged, hsave⟩ := hlocks _ p hlist hpolicy
  obtain ⟨-, -, huser, hfree, hsaves⟩ := hvalues loaded _ hloaded hbroken
  refine ⟨hempty, ?_, ?_, hsave, ?_, hfree, hsaves⟩
  · rw [hmanaged]
    decide +kernel +zetaReduce
  · rw [hmanaged]
    decide +kernel +zetaReduce
  · rw [huser _ hprefs]
    rfl

end Session
end FontPreferences
