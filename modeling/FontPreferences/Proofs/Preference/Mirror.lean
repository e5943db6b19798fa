import FontPreferences.Proofs.Preference.Layers
import Mathlib.Data.List.Induction

/-
Observers can mirror the store.

What an observer receives in a run is what it takes on the way and what waits for it at the end.

* `exists_heard`: an edit lets every observer that listens hear the same, which is one change at most
  and nothing if the store refuses;
* `received_append`: what an observer receives grows by just that;
* `mirrored_received`: the changes received since the subscription lead from the effective values of
  then to those of now;
* `observers_mirror`: all of it, over every run.

Loading a file tells nobody, so the runs are those without a load.
-/
namespace FontPreferences
namespace Preference
namespace Store

/-- Whether an edit is a call that the store refuses. -/
def Refuses (s : Store) : Edit → Prop
  | .set key value origin => ∃ e, s.set key value origin = .error e
  | .clear key => ∃ e, s.clear key = .error e
  | .lock key value => ∃ e, s.setManaged key value = .error e
  | .load _ | .observe | .drain _ | .drop _ => False

/-- The changes that an edit hands to an observer. -/
def takenBy (s : Store) (o : Nat) : Edit → List Change
  | .drain observer => if observer = o then (s.drain o).2.getD [] else []
  | .set .. | .clear _ | .lock .. | .load _ | .observe | .drop _ => []

/-- The changes that an observer takes in a run of edits. -/
def taken (s : Store) (o : Nat) : List Edit → List Change
  | [] => []
  | e :: edits => s.takenBy o e ++ (s.edit e).taken o edits

/-- The changes that wait for an observer. -/
def waiting (s : Store) (o : Nat) : List Change :=
  (s.pending? o).getD []

/-- The changes that reach an observer in a run of edits, and those that had reached it before and
were not taken yet. -/
def received (s : Store) (o : Nat) (edits : List Edit) : List Change :=
  s.taken o edits ++ (s.edited edits).waiting o

/-! ### One edit -/

/-- A refused call changes nothing at all. -/
theorem edit_of_refuses {s : Store} {e : Edit} (h : s.Refuses e) : s.edit e = s := by
  cases e with
  | set key value origin =>
    obtain ⟨err, herr⟩ := h
    rw [edit, attempt, herr]
  | clear key =>
    obtain ⟨err, herr⟩ := h
    rw [edit, attemptClear, herr]
  | lock key value =>
    obtain ⟨err, herr⟩ := h
    rw [edit, attemptLock, herr]
  | load | observe | drain | drop => exact h.elim

/-- What an edit did to the effective values, and what whoever listens heard of it. -/
structure Heard (s : Store) (e : Edit) (told : Option Change) : Prop where
  mirror : (s.edit e).get? = mirrored s.get? told.toList
  new : ∀ c, told = some c → s.get? c.key ≠ some c.value
  refused : s.Refuses e → told = none
  listening : ∀ o, (s.pending? o).isSome = true → e ≠ .drop o →
    ((s.edit e).pending? o).isSome = true
  grows : ∀ o, (s.pending? o).isSome = true → e ≠ .drop o →
    s.takenBy o e ++ (s.edit e).waiting o = s.waiting o ++ told.toList

/-- A call tells its change to everybody. -/
theorem Told.heard {s : Store} {e : Edit} {told : Option Change} (h : Told s (s.edit e) told)
    (hrefused : s.Refuses e → told = none) (htaken : ∀ o, s.takenBy o e = []) :
    s.Heard e told := by
  refine ⟨h.mirror, h.new, hrefused, fun o ho _ => ?_, fun o ho _ => ?_⟩
  · rw [h.pending, Option.isSome_map]
    exact ho
  · obtain ⟨pending, hpending⟩ := Option.isSome_iff_exists.1 ho
    rw [htaken, waiting, h.pending, waiting, hpending]
    rfl

/-- An edit that only concerns observers tells nobody anything. -/
theorem heard_of_silent {s : Store} {e : Edit} (hget : (s.edit e).get? = s.get?)
    (hlistening : ∀ o, (s.pending? o).isSome = true → e ≠ .drop o →
      ((s.edit e).pending? o).isSome = true ∧ s.takenBy o e ++ (s.edit e).waiting o = s.waiting o) :
    s.Heard e none := by
  refine ⟨hget, fun c hc => absurd hc (by simp), fun _ => rfl, fun o ho hdrop => ?_,
    fun o ho hdrop => ?_⟩
  · exact (hlistening o ho hdrop).1
  · rw [(hlistening o ho hdrop).2]
    exact (List.append_nil _).symm

/-- **Every edit but a load lets all who listen hear the same**: one change at most, of an effective
value, and nothing if the store refuses. -/
theorem exists_heard (s : Store) {e : Edit} (hload : ∀ file, e ≠ .load file) :
    ∃ told, s.Heard e told := by
  by_cases hrefuses : s.Refuses e
  · have htaken : ∀ o, s.takenBy o e = [] := by
      cases e with
      | drain | load | observe | drop => exact hrefuses.elim
      | set | clear | lock => exact fun _ => rfl
    refine ⟨none, Told.heard ?_ (fun _ => rfl) htaken⟩
    rw [edit_of_refuses hrefuses]
    exact .refl s
  · cases e with
    | set key value origin =>
      obtain ⟨told, htold⟩ := told_attempt s key value origin
      exact ⟨told, htold.heard (fun h => absurd h hrefuses) fun _ => rfl⟩
    | clear key =>
      obtain ⟨told, htold⟩ := told_attemptClear s key
      exact ⟨told, htold.heard (fun h => absurd h hrefuses) fun _ => rfl⟩
    | lock key value =>
      obtain ⟨told, htold⟩ := told_attemptLock s key value
      exact ⟨told, htold.heard (fun h => absurd h hrefuses) fun _ => rfl⟩
    | load file => exact absurd rfl (hload file)
    | observe =>
      refine ⟨none, heard_of_silent rfl fun o ho _ => ?_⟩
      rw [edit, takenBy, waiting, pending?_observe ho]
      exact ⟨ho, rfl⟩
    | drain observer =>
      refine ⟨none, heard_of_silent (funext (get?_drain s observer)) fun o ho _ => ?_⟩
      rw [edit, takenBy]
      by_cases hself : observer = o
      · -- what waited is taken, and nothing waits afterwards
        subst hself
        have hquiet : (s.drain observer).1.pending? observer = some [] := quiet_drain ho
        rw [if_pos rfl, drain_snd, waiting, hquiet]
        exact ⟨rfl, List.append_nil _⟩
      · rw [if_neg hself, waiting, pending?_drain_of_ne s hself]
        exact ⟨ho, rfl⟩
    | drop observer =>
      refine ⟨none, heard_of_silent rfl fun o ho hdrop => ?_⟩
      have hother : observer ≠ o := fun heq => hdrop (by rw [heq])
      rw [edit, takenBy, waiting, pending?_drop_of_ne s hother]
      exact ⟨ho, rfl⟩

/-! ### Runs -/

theorem edited_append (s : Store) (pre post : List Edit) :
    s.edited (pre ++ post) = (s.edited pre).edited post :=
  List.foldl_append

theorem taken_append (s : Store) (o : Nat) (pre post : List Edit) :
    s.taken o (pre ++ post) = s.taken o pre ++ (s.edited pre).taken o post := by
  induction pre generalizing s with
  | nil => rfl
  | cons e pre ih =>
    rw [List.cons_append, taken, ih, taken, List.append_assoc]
    rfl

/-- What an observer receives grows by what it hears of the last edit. -/
theorem received_append {s : Store} {o : Nat} {edits : List Edit} {e : Edit}
    {told : Option Change} (h : (s.edited edits).Heard e told)
    (ho : ((s.edited edits).pending? o).isSome = true) (hdrop : e ≠ .drop o) :
    s.received o (edits ++ [e]) = s.received o edits ++ told.toList := by
  have hlast : (s.edited edits).taken o [e] = (s.edited edits).takenBy o e := by
    rw [taken, taken, List.append_nil]
  rw [received, taken_append, hlast, edited_append, List.append_assoc]
  show s.taken o edits ++ (_ ++ ((s.edited edits).edit e).waiting o) = _
  rw [h.grows o ho hdrop, received, List.append_assoc]

theorem listening_edited {s : Store} {edits : List Edit} (hload : ∀ file, .load file ∉ edits)
    {o : Nat} (ho : (s.pending? o).isSome = true) (hdrop : .drop o ∉ edits) :
    ((s.edited edits).pending? o).isSome = true := by
  induction edits generalizing s with
  | nil => exact ho
  | cons e edits ih =>
    obtain ⟨told, hheard⟩ := exists_heard s fun file heq => hload file (heq ▸ List.mem_cons_self)
    have hnext := hheard.listening o ho fun heq => hdrop (heq ▸ List.mem_cons_self)
    exact ih (fun file hmem => hload file (List.mem_cons_of_mem _ hmem)) hnext
      fun hmem => hdrop (List.mem_cons_of_mem _ hmem)

/-- Every observer that listens through a run receives what the others do, after what waited for it
before. -/
theorem exists_news (s : Store) {edits : List Edit} (hload : ∀ file, .load file ∉ edits) :
    ∃ news, ∀ o, (s.pending? o).isSome = true → .drop o ∉ edits →
      s.received o edits = s.waiting o ++ news := by
  -- from the end, where what is received is appended to
  induction edits using List.reverseRecOn with
  | nil => exact ⟨[], fun o _ _ => (List.append_nil _).symm⟩
  | append_singleton edits e ih =>
    have hbefore : ∀ file, .load file ∉ edits := fun file hmem =>
      hload file (List.mem_append_left _ hmem)
    obtain ⟨news, hnews⟩ := ih hbefore
    obtain ⟨told, hheard⟩ := exists_heard (s.edited edits) (e := e) fun file heq =>
      hload file (by simp [heq])
    refine ⟨news ++ told.toList, fun o ho hdrop => ?_⟩
    have hkept : .drop o ∉ edits := fun hmem => hdrop (List.mem_append_left _ hmem)
    have hlast : e ≠ .drop o := fun heq => hdrop (by simp [heq])
    rw [received_append hheard (listening_edited hbefore ho hkept) hlast, hnews o ho hkept,
      List.append_assoc]

/-- A view that what waits brings up to date is brought up to date by what is received. -/
theorem mirrored_received {s : Store} {o : Nat} {view : String → Option Value}
    (hview : mirrored view (s.waiting o) = s.get?) (ho : (s.pending? o).isSome = true)
    {edits : List Edit} (hload : ∀ file, .load file ∉ edits) (hdrop : .drop o ∉ edits) :
    mirrored view (s.received o edits) = (s.edited edits).get? := by
  induction edits using List.reverseRecOn with
  | nil => exact hview
  | append_singleton edits e ih =>
    have hbefore : ∀ file, .load file ∉ edits := fun file hmem =>
      hload file (List.mem_append_left _ hmem)
    have hkept : .drop o ∉ edits := fun hmem => hdrop (List.mem_append_left _ hmem)
    obtain ⟨told, hheard⟩ := exists_heard (s.edited edits) (e := e) fun file heq =>
      hload file (by simp [heq])
    calc mirrored view (s.received o (edits ++ [e]))
        = mirrored view (s.received o edits ++ told.toList) := by
          rw [received_append hheard (listening_edited hbefore ho hkept) fun heq =>
            hdrop (by simp [heq])]
      _ = mirrored (s.edited edits).get? told.toList := by
          rw [mirrored_append, ih hbefore hkept]
      _ = ((s.edited edits).edit e).get? := hheard.mirror.symm
      _ = (s.edited (edits ++ [e])).get? := by
          rw [edited_append]
          rfl

/-- **Observers can mirror the store.**  In every run of calls, subscriptions, drains and drops over
any store:

* the changes that an observer has received since it subscribed lead from the effective values of
  then to those of now;
* each call makes all who listen, since whenever they do, receive the same: one change at most, of a
  value that was another one before, and nothing if the store refuses;
* over any stretch of the run, all who listen through it receive the same news. -/
theorem observers_mirror (s : Store) {edits : List Edit} (hload : ∀ file, .load file ∉ edits) :
    (∀ pre post, edits = pre ++ .observe :: post →
      let t := s.edited pre
      .drop t.observe.2 ∉ post →
        mirrored t.get? (t.observe.1.received t.observe.2 post) = (s.edited edits).get?) ∧
    (∀ before e after, edits = before ++ e :: after → ∃ told : Option Change,
      (∀ c, told = some c → (s.edited before).get? c.key ≠ some c.value ∧
        (s.edited (before ++ [e])).get? c.key = some c.value) ∧
      ((s.edited before).Refuses e → told = none) ∧
      ∀ pre mid o, before = pre ++ mid → ((s.edited pre).pending? o).isSome = true →
        .drop o ∉ mid ++ [e] → (s.edited pre).received o (mid ++ [e])
          = (s.edited pre).received o mid ++ told.toList) ∧
    ∀ pre mid post, edits = pre ++ mid ++ post → ∃ news, ∀ o,
      ((s.edited pre).pending? o).isSome = true → .drop o ∉ mid →
        (s.edited pre).received o mid = (s.edited pre).waiting o ++ news := by
  refine ⟨?_, ?_, ?_⟩
  · rintro pre post rfl t hdrop
    have hquiet : t.observe.1.pending? t.observe.2 = some [] := quiet_observe t
    have hview : mirrored t.get? (t.observe.1.waiting t.observe.2) = t.observe.1.get? := by
      rw [waiting, hquiet]
      rfl
    rw [edited_append]
    refine mirrored_received hview (by rw [hquiet]; rfl) (fun file hmem => ?_) hdrop
    exact hload file (List.mem_append_right _ (List.mem_cons_of_mem _ hmem))
  · rintro before e after rfl
    obtain ⟨told, hheard⟩ := exists_heard (s.edited before) (e := e) fun file heq =>
      hload file (by simp [heq])
    refine ⟨told, fun c hc => ⟨hheard.new c hc, ?_⟩, hheard.refused, ?_⟩
    · rw [edited_append]
      show ((s.edited before).edit e).get? c.key = some c.value
      rw [hheard.mirror, hc]
      exact if_pos rfl
    · rintro pre mid o rfl ho hdrop
      have hmid : ∀ file, .load file ∉ mid := fun file hmem => hload file (by simp [hmem])
      have hkept : .drop o ∉ mid := fun hmem => hdrop (List.mem_append_left _ hmem)
      rw [edited_append] at hheard
      exact received_append hheard (listening_edited hmid ho hkept) fun heq =>
        hdrop (by simp [heq])
  · rintro pre mid post rfl
    exact exists_news (s.edited pre) fun file hmem => hload file (by simp [hmem])

/-- The second observer subscribes on the way, when the first has gone; of a write of the wrong kind,
a lock to the value that is effective, the value dropped under it and another lock it hears the
last. -/
theorem observers_mirror_locks :
    let s := withFontDefaults.observe.1
    let pre : List Edit := [.set fontSizeKey (.integer 20) "page", .drop 0]
    let post : List Edit := [.set fontSizeKey (.text "large") "page",
      .lock fontSizeKey (.integer 20), .clear fontSizeKey, .drain 1, .lock fontSizeKey (.integer 9)]
    (s.edited pre).observe.1.received 1 post = [⟨fontSizeKey, .integer 9, "policy"⟩] ∧
    mirrored (s.edited pre).get? [⟨fontSizeKey, .integer 9, "policy"⟩]
      = (s.edited (pre ++ .observe :: post)).get? := by
  intro s pre post
  have hload : ∀ file, .load file ∉ pre ++ .observe :: post := by simp [pre, post]
  have hreceived : (s.edited pre).observe.1.received 1 post
      = [⟨fontSizeKey, .integer 9, "policy"⟩] := by decide +kernel +zetaReduce
  have hindex : (s.edited pre).observe.2 = 1 := by decide +kernel +zetaReduce
  refine ⟨hreceived, ?_⟩
  rw [← hreceived, ← hindex]
  exact (observers_mirror s hload).1 pre post rfl (by rw [hindex]; simp [post])

end Store
end Preference
end FontPreferences
