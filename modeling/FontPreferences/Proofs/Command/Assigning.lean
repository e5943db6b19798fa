import FontPreferences.Program
import FontPreferences.Proofs.Command.Listing
import FontPreferences.Proofs.Command.Opening
import FontPreferences.Proofs.FileTree.Saving
import FontPreferences.Proofs.Preference.Rows
import Mathlib

/-
Giving a key a value.

* `Assignable`: what the two files, the key and the text must be like, and `exists_assign_iff`: just
  then the command has something to save;
* `openStore_userText`: what is saved opens, under the same policy, as the store that it was saved from;
* `exists_openStore_set`: the stores that open before and after differ in the row of the key alone;
* `set_atomic`: on a tree of files the command either gives the key its value, or changes nothing.
-/
namespace FontPreferences

open Preference (Store Value Entry)
open Preference.Store

namespace Preference

/-- The value that a text stands for: the text itself, or the integer that it reads as without the
blanks around it. -/
inductive Value.ReadFrom (text : String) : Value → Prop where
  | text : ReadFrom text (.text text)
  | integer {n : Int32} (h : Text.readInteger? (Text.trim text).toList = some n.toInt) :
      ReadFrom text (.integer n)

theorem Value.readFrom_text_iff {text : String} {value : Value} :
    value.kind = .text ∧ value.ReadFrom text ↔ value = .text text := by
  constructor
  · rintro ⟨hkind, hread | hread⟩
    · rfl
    · exact absurd hkind (by simp [Value.kind])
  · rintro rfl
    exact ⟨rfl, .text⟩

theorem Value.readFrom_integer_iff {text : String} {value : Value} :
    value.kind = .integer ∧ value.ReadFrom text ↔
      (Text.readInteger? (Text.trim text).toList).bind ofInt? = some value := by
  simp only [Option.bind_eq_some_iff, ofInt?_eq_some_iff]
  constructor
  · rintro ⟨hkind, hread | hread⟩
    · exact absurd hkind (by simp [Value.kind])
    · exact ⟨_, hread, _, rfl, rfl⟩
  · rintro ⟨n, hread, m, rfl, rfl⟩
    exact ⟨rfl, .integer hread⟩

end Preference

/-- A text gives a key the value of its kind that the text stands for. -/
theorem valueFor_eq_ok_iff {s : Store} {key text : String} {value : Value} :
    valueFor s key text = .ok value ↔ s.fault? key value = none ∧ value.ReadFrom text := by
  rw [fault?_eq_none_iff, valueFor]
  cases s.default? key with
  | none => simp
  | some d =>
    have hkind : (∃ d', some d = some d' ∧ d'.kind = value.kind) ↔ value.kind = d.kind := by
      simp [eq_comm]
    rw [hkind]
    cases d with
    | text =>
      rw [Value.kind, Value.readFrom_text_iff]
      simp [eq_comm]
    | integer =>
      rw [Value.kind, Value.readFrom_integer_iff]
      cases (Text.readInteger? (Text.trim text).toList).bind Value.ofInt? <;> simp

/-- That a key can be given a value: the preferences file is missing or holds an object, the policy
file is missing or holds a policy that does not lock the key, and the text stands for the value, which
is of the kind of the key's default. -/
structure Assignable (prefs policy : FileContent) (key text : String) (value : Value) : Prop where
  prefs : ∃ members, prefs.Holds members
  policy : ∃ p, policy.HoldsPolicy p ∧ p.lock? withFontDefaults key = none
  registered : ∃ d, withFontDefaults.default? key = some d ∧ d.kind = value.kind
  read : value.ReadFrom text

variable {prefs policy : FileContent} {key text : String} {value : Value}

/-- What is saved when a key is given a value: the store of the two files with the value in it. -/
theorem assign_eq_ok_iff {s : Store} : assign prefs policy key text = .ok (value, s) ↔
    ∃ before, openStore prefs policy = .ok before ∧ before.fault? key value = none ∧
      before.isManaged key = false ∧ value.ReadFrom text ∧
      s = before.attempt key value assignOrigin := by
  constructor
  · intro h
    rw [assign] at h
    split at h
    · exact absurd h (by simp)
    · next before hopen =>
      split at h
      · exact absurd h (by simp)
      · next v hvalue =>
        split at h
        · exact absurd h (by simp)
        · next s' hset =>
          cases h
          obtain ⟨hfault, hread⟩ := valueFor_eq_ok_iff.1 hvalue
          obtain ⟨-, hmanaged, hs⟩ := set_eq_ok_iff.1 hset
          exact ⟨before, hopen, hfault, hmanaged, hread, hs⟩
  · rintro ⟨before, hopen, hfault, hmanaged, hread, hs⟩
    have hvalue : valueFor before key text = .ok value := valueFor_eq_ok_iff.2 ⟨hfault, hread⟩
    have hset : before.set key value assignOrigin = .ok s := set_eq_ok_iff.2 ⟨hfault, hmanaged, hs⟩
    simp only [assign, hopen, hvalue, hset]

/-! ### The store that is opened -/

/-- The layers of the store of two files, each from its own file. -/
theorem openStore_layers {s : Store} (h : openStore prefs policy = .ok s) :
    s.OverFontDefaults ∧ s.user = (Session.loadUser prefs).store.user ∧
      s.managed = (withFontDefaults.attemptLocks (Policy.entriesOf policy)).managed := by
  have hover := Session.overFontDefaults_start prefs policy
  have huser := Session.start_user prefs policy
  have hmanaged := Session.start_managed prefs policy
  rw [Session.start_of_openStore h] at hover huser hmanaged
  exact ⟨hover, huser, hmanaged⟩

theorem isManaged_openStore {s : Store} (h : openStore prefs policy = .ok s) {p : Policy}
    (hp : policy.HoldsPolicy p) (key : String) :
    s.isManaged key = (p.lock? withFontDefaults key).isSome := by
  have hlock := Session.start_managed_of_holdsPolicy hp prefs key
  rw [Session.start_of_openStore h] at hlock
  rw [isManaged, KeyTable.contains, hlock]

/-- **When a key can be given a value.** -/
theorem exists_assign_iff : (∃ s, assign prefs policy key text = .ok (value, s)) ↔
    Assignable prefs policy key text value := by
  constructor
  · rintro ⟨s, h⟩
    obtain ⟨before, hopen, hfault, hfree, hread, -⟩ := assign_eq_ok_iff.1 h
    obtain ⟨loaded, p, hload, hp, -⟩ := openStore_eq_ok_iff.1 hopen
    have hpolicy := Policy.load_eq_ok_iff.1 hp
    rw [isManaged_openStore hopen hpolicy] at hfree
    rw [← fault?_congr (openStore_layers hopen).1.defaults.symm, fault?_eq_none_iff] at hfault
    exact ⟨exists_loadUserFile_iff.1 ⟨loaded, hload⟩, ⟨p, hpolicy, by simpa using hfree⟩, hfault,
      hread⟩
  · rintro ⟨hprefs, ⟨p, hpolicy, hlock⟩, hregistered, hread⟩
    obtain ⟨before, hopen⟩ := exists_openStore_iff.2
      ⟨exists_loadUserFile_iff.2 hprefs, p, Policy.load_eq_ok_iff.2 hpolicy⟩
    have hfault : before.fault? key value = none := by
      rw [fault?_congr (openStore_layers hopen).1.defaults]
      exact fault?_eq_none_iff.2 hregistered
    have hfree : before.isManaged key = false := by
      rw [isManaged_openStore hopen hpolicy, hlock]
      rfl
    exact ⟨_, assign_eq_ok_iff.2 ⟨before, hopen, hfault, hfree, hread, rfl⟩⟩

/-- What is saved opens, under the same policy, as the store that it was saved from. -/
theorem openStore_userText {before s : Store} (h : openStore prefs policy = .ok before)
    (hs : s.OverFontDefaults) (hmanaged : s.managed = before.managed) :
    ∃ after, openStore (.ofText s.userText) policy = .ok after ∧ after.SameLayers s := by
  obtain ⟨-, p, -, hp, -⟩ := openStore_eq_ok_iff.1 h
  have hsaved := loadUserFile_userText hs.conforming hs.defaults.symm withFontDefaults_user
  obtain ⟨after, hopen⟩ := exists_openStore_iff.2 ⟨⟨_, hsaved⟩, p, hp⟩
  obtain ⟨-, -, hlocks⟩ := openStore_layers h
  obtain ⟨hover, huser, hafter⟩ := openStore_layers hopen
  rw [Session.loadUser_userText hs] at huser
  exact ⟨after, hopen, hover.defaults.trans hs.defaults.symm, huser,
    hafter.trans (hlocks.symm.trans hmanaged.symm)⟩

/-! ### The commands on a tree of files -/

variable {t : FileTree} {f : PreferenceFiles}

/-- Files that can be opened are listed. -/
theorem runOn_listScript {s : Store}
    (h : openStore (t.contentAt f.prefs) (t.contentAt f.policy) = .ok s) :
    ∃ shown, s.Listing shown ∧ (listScript f).runOn t = (t, .success shown) := by
  refine ⟨storeListing s, listing_iff.2 rfl, ?_⟩
  simp only [listScript, PreferenceFiles.reading, Script.runOn, h]

theorem runOn_setScript_error {e : AssignError}
    (h : assign (t.contentAt f.prefs) (t.contentAt f.policy) key text = .error e) :
    (setScript f key text).runOn t = (t, .failure (.cannotAssign f e)) := by
  simp only [setScript, PreferenceFiles.reading, Script.runOn, h]

theorem runOn_setScript_ok {s : Store}
    (h : assign (t.contentAt f.prefs) (t.contentAt f.policy) key text = .ok (value, s)) :
    (setScript f key text).runOn t = ((t.save f.prefs s.userText).1,
      if (t.save f.prefs s.userText).2 then .success (assignedText key value)
      else .failure (.cannotSave f.prefs .unwritable)) := by
  simp only [setScript, PreferenceFiles.reading, Script.runOn, h]

/-- What stands at a path separate from that of the preferences stays. -/
theorem contentAt_runOn_setScript (ht : t.Rooted) {other : String}
    (h : FileTree.Separate f.prefs other) (key text : String) :
    ((setScript f key text).runOn t).1.contentAt other = t.contentAt other := by
  cases hassign : assign (t.contentAt f.prefs) (t.contentAt f.policy) key text with
  | error e => rw [runOn_setScript_error hassign]
  | ok assigned =>
    rw [runOn_setScript_ok hassign]
    exact h.contentAt_save ht assigned.2.userText

theorem runOn_setScript_of_not_assignable
    (h : ∀ value, ¬Assignable (t.contentAt f.prefs) (t.contentAt f.policy) key text value) :
    ∃ e, (setScript f key text).runOn t = (t, .failure (.cannotAssign f e)) := by
  cases hassign : assign (t.contentAt f.prefs) (t.contentAt f.policy) key text with
  | error e => exact ⟨e, runOn_setScript_error hassign⟩
  | ok assigned => exact absurd (exists_assign_iff.1 ⟨assigned.2, hassign⟩) (h assigned.1)

theorem runOn_setScript_of_assignable
    (h : Assignable (t.contentAt f.prefs) (t.contentAt f.policy) key text value)
    (hsave : t.CanSave f.prefs) : ∃ shown, value.ShownAs shown ∧
      ((setScript f key text).runOn t).2 = .success (key ++ " = " ++ shown ++ "\n") := by
  obtain ⟨s, hassign⟩ := exists_assign_iff.2 h
  refine ⟨value.display, Value.shownAs_iff.2 rfl, ?_⟩
  rw [runOn_setScript_ok hassign, hsave]
  rfl

theorem runOn_setScript_success_iff :
    (∃ output, ((setScript f key text).runOn t).2 = .success output) ↔
      (∃ value, Assignable (t.contentAt f.prefs) (t.contentAt f.policy) key text value) ∧
        t.CanSave f.prefs := by
  refine ⟨fun ⟨output, hout⟩ => ?_, fun ⟨⟨value, hable⟩, hsave⟩ => ?_⟩
  case refine_2 =>
    obtain ⟨shown, -, hout⟩ := runOn_setScript_of_assignable hable hsave
    exact ⟨_, hout⟩
  cases hassign : assign (t.contentAt f.prefs) (t.contentAt f.policy) key text with
  | error e =>
    rw [runOn_setScript_error hassign] at hout
    exact absurd hout (by simp)
  | ok assigned =>
    rw [runOn_setScript_ok hassign] at hout
    refine ⟨⟨assigned.1, exists_assign_iff.1 ⟨assigned.2, hassign⟩⟩, ?_⟩
    cases hsaved : (t.save f.prefs assigned.2.userText).2 with
    | true => exact FileTree.canSave_of_save hsaved
    | false => simp [hsaved] at hout

/-- What opens before and after a key was given a value. -/
theorem exists_openStore_set
    (h : Assignable (t.contentAt f.prefs) (t.contentAt f.policy) key text value)
    (hsave : t.CanSave f.prefs) :
    ∃ before after : Store, openStore (t.contentAt f.prefs) (t.contentAt f.policy) = .ok before ∧
      openStore (((setScript f key text).runOn t).1.contentAt f.prefs) (t.contentAt f.policy)
        = .ok after ∧
      after.entries = before.entries.map
        (fun e => if e.key = key then ⟨key, value, .user⟩ else e) ∧
      ⟨key, value, .user⟩ ∈ after.entries := by
  obtain ⟨s, hassign⟩ := exists_assign_iff.2 h
  obtain ⟨before, hopen, hfault, hfree, -, rfl⟩ := assign_eq_ok_iff.1 hassign
  have hover := overFontDefaults_edit (openStore_layers hopen).1 (.set key value assignOrigin)
  obtain ⟨after, hafter, hlayers⟩ := openStore_userText hopen hover (attempt_managed ..)
  refine ⟨before, after, hopen, ?_, ?_, ?_⟩
  · -- the saved file is read again, under the policy from before
    rw [runOn_setScript_ok hassign, FileTree.contentAt_save (hsave _)]
    exact hafter
  · rw [hlayers.entries]
    exact entries_attempt hfault hfree assignOrigin
  · rw [hlayers.entries]
    exact mem_entries_attempt hfault hfree assignOrigin

/-- **Giving a key a value succeeds as a whole or changes nothing.**  The command succeeds exactly if the
two files, the key and the text are as they must be and a file can be saved.  If they are not, no file
and no directory is written.  If it succeeds, whoever then lists the preferences from the file that it
left, under the policy from before, sees the rows from before, but for the row of the key: this has the
value, and has it from the user.  Directly afterwards the policy is the one from before if the two paths
are separate. -/
theorem set_atomic (c : Config) (directory key text : String) (user policy : Option String)
    (t : FileTree) :
    let f := PreferenceFiles.choose c directory user policy
    let list := ((Command.prefs user policy).script c directory).runOn
    let set := ((Command.set key text user policy).script c directory).runOn t
    let able := Assignable (t.contentAt f.prefs) (t.contentAt f.policy) key text
    ((∃ output, set.2 = .success output) ↔ (∃ value, able value) ∧ t.CanSave f.prefs) ∧
    ((∀ value, ¬able value) → ∃ e, set = (t, .failure (.cannotAssign f e))) ∧
    (t.Rooted → set.1.Rooted) ∧
    ∀ value, able value → t.CanSave f.prefs →
      (∃ shown, value.ShownAs shown ∧ set.2 = .success (key ++ " = " ++ shown ++ "\n")) ∧
      ∃ before after : Store,
        openStore (t.contentAt f.prefs) (t.contentAt f.policy) = .ok before ∧
        openStore (set.1.contentAt f.prefs) (t.contentAt f.policy) = .ok after ∧
        (∃ shown, before.Listing shown ∧ list t = (t, .success shown)) ∧
        (∀ later : FileTree, later.contentAt f.prefs = set.1.contentAt f.prefs →
          later.contentAt f.policy = t.contentAt f.policy →
          ∃ shown, after.Listing shown ∧ list later = (later, .success shown)) ∧
        (t.Rooted → FileTree.Separate f.prefs f.policy →
          ∃ shown, after.Listing shown ∧ list set.1 = (set.1, .success shown)) ∧
        after.entries = before.entries.map
          (fun e => if e.key = key then ⟨key, value, .user⟩ else e) ∧
        ⟨key, value, .user⟩ ∈ after.entries := by
  intro f list set able
  refine ⟨runOn_setScript_success_iff, runOn_setScript_of_not_assignable, fun ht => ht.runOn _,
    fun value hable hsave => ?_⟩
  obtain ⟨before, after, hbefore, hafter, hrows⟩ := exists_openStore_set hable hsave
  have hlater (later : FileTree) (hprefs : later.contentAt f.prefs = set.1.contentAt f.prefs)
      (hpolicy : later.contentAt f.policy = t.contentAt f.policy) :
      ∃ shown, after.Listing shown ∧ list later = (later, .success shown) := by
    refine runOn_listScript ?_
    rw [hprefs, hpolicy]
    exact hafter
  have hdirectly (ht : t.Rooted) (h : FileTree.Separate f.prefs f.policy) :
      ∃ shown, after.Listing shown ∧ list set.1 = (set.1, .success shown) :=
    hlater set.1 rfl (contentAt_runOn_setScript ht h key text)
  exact ⟨runOn_setScript_of_assignable hable hsave, before, after, hbefore, hafter,
    runOn_listScript hbefore, hlater, hdirectly, hrows⟩

/-- Where the directory of the preferences is still to be made, a size is set and listed beside a policy
that locks the encoding; the encoding is refused without a trace. -/
theorem size_set_beside_policy :
    let lock := "[managed]\n\"intl.charset_default\" = \"UTF-8\"\n"
    let t := FileTree.empty.put ["q"] (.file lock.toUTF8)
    let set := fun key text => ((Command.set key text (some "c/p") (some "q")).script default "").runOn t
    let done := set Preference.fontSizeKey " 20 "
    let listing := String.join [
      "intl.charset_default                         \"UTF-8\"                  [policy]\n",
      "webkit.webprefs.default_fixed_font_size      13                       [default]\n",
      "webkit.webprefs.default_font_size            20                       [user]\n",
      "webkit.webprefs.fixed_font_family            \"Courier New\"            [default]\n",
      "webkit.webprefs.minimum_font_size            0                        [default]\n",
      "webkit.webprefs.minimum_logical_font_size    6                        [default]\n",
      "webkit.webprefs.sansserif_font_family        \"Times New Roman\"        [default]\n",
      "webkit.webprefs.serif_font_family            \"Times New Roman\"        [default]\n"]
    done.2 = .success "webkit.webprefs.default_font_size = 20\n" ∧
    ((Command.prefs (some "c/p") (some "q")).script default "").runOn done.1
      = (done.1, .success listing) ∧
    (set Preference.charsetKey "KOI8-R").1 = t := by
  intro lock t set done listing
  let p : Policy := ⟨.ofList [(Preference.charsetKey, .text "UTF-8")]⟩
  have hp : Path.steps "c/p" = ["c", "p"] := by cbv
  have hq : Path.steps "q" = ["q"] := by cbv
  have hparent : Path.parentSteps "c/p" = ["c"] := by rw [Path.parentSteps, hp]; rfl
  have hpath : FileTree.isNoPath "c/p" = false := by decide +kernel
  have hpath' : FileTree.isNoPath "q" = false := by decide +kernel
  -- what the tree holds at the two paths
  have hprefs : t.contentAt "c/p" = .missing := by
    rw [FileTree.contentAt, hp, hpath]
    rfl
  have hpolicy : t.contentAt "q" = .ofText lock := by
    rw [FileTree.contentAt, hq, hpath']
    rfl
  have hload : Policy.load (.ofText lock) = .ok p := by decide +kernel +zetaReduce
  have hopen : openStore (t.contentAt "c/p") (t.contentAt "q") = .ok (p.apply withFontDefaults).1 := by
    rw [hprefs, hpolicy]
    exact openStore_eq_ok_iff.2 ⟨(withFontDefaults, 0), p, rfl, hload, rfl⟩
  -- where the preferences go, apart from the policy
  have hfree : (t.opened "c/p").nodeAt ["c", "p"] = none := by
    rw [FileTree.opened, hparent]
    rfl
  have htarget : t.Target "c/p" ["c"] "p" := by
    refine ⟨by simp, by simp [hpath], ?_, ?_, by simp, by simp, by decide, by simp [hfree]⟩
    · rw [hparent]
      rfl
    · rw [hp]
      rfl
  have hnothing : FileTree.empty.nodeAt ([] ++ ["q"]) = none := rfl
  have hrooted : t.Rooted :=
    FileTree.rooted_empty.put (FileTree.nodeAt_root _) (by rw [hnothing]; simp) _
  have hseparate : FileTree.Separate "c/p" "q" := by
    apply FileTree.Separate.of_not_up
    all_goals simp only [FileTree.placeOf, FileTree.placesOn, hp, hq]
    all_goals decide
  have hsize : Assignable (t.contentAt "c/p") (t.contentAt "q") Preference.fontSizeKey " 20 "
      (.integer 20) := by
    rw [hprefs, hpolicy]
    refine ⟨⟨[], .missing⟩, ⟨p, Policy.load_eq_ok_iff.1 hload, ?_⟩, ⟨.integer 16, ?_, rfl⟩, .integer ?_⟩
    · decide +kernel +zetaReduce
    · decide +kernel
    · decide +kernel
  have hlocked : ∀ value, ¬Assignable (t.contentAt "c/p") (t.contentAt "q") Preference.charsetKey
      "KOI8-R" value := by
    intro value hable
    obtain ⟨p', hp', hlock⟩ := hable.policy
    rw [hpolicy, ← Policy.load_eq_ok_iff, hload] at hp'
    cases hp'
    exact absurd hlock (by decide +kernel +zetaReduce)
  obtain ⟨-, -, -, hdone⟩ :=
    set_atomic default "" Preference.fontSizeKey " 20 " (some "c/p") (some "q") t
  obtain ⟨-, hrefused, -⟩ :=
    set_atomic default "" Preference.charsetKey "KOI8-R" (some "c/p") (some "q") t
  obtain ⟨⟨text, htext, hout⟩, before, after, hbefore, -, -, -, hlist, hentries, -⟩ :=
    hdone _ hsize htarget.canSave
  obtain ⟨shown, hshown, hrun⟩ := hlist hrooted hseparate
  obtain ⟨e, he⟩ := hrefused hlocked
  cases hopen.symm.trans hbefore
  -- the rows from before, but for the one of the size, line by line
  have hlisting : shown = listing := by
    rw [listing_iff.1 hshown, storeListing, hentries]
    decide +kernel +zetaReduce
  refine ⟨?_, ?_, congrArg Prod.fst he⟩
  · cases htext
    exact hout
  · rw [← hlisting]
    exact hrun

end FontPreferences
