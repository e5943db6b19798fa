import FontPreferences.Proofs.Exchange.Delivery
import FontPreferences.Proofs.Page.Picking
import FontPreferences.Proofs.SelectionList.Showing

/-
What the lists show when nothing is under way.

A request carries the values that the lists are to select, as they were when it was sent; the answer
selects them when it is applied.  A preference may have changed in between.

* `Agrees`: every list shows the effective value of its preference;
* `Settled`: no change, no request and no answer waits;
* `Overtaken`: an answer waits that will select other values than the effective ones, and the app
  has taken all the changes already, so that nothing will correct the lists;
* `agrees_iff_not_overtaken`: the lists agree with the store in every settled state of a run exactly
  if no overtaken answer is applied in it.
-/
namespace FontPreferences

namespace Exchange

/-- The font lists have been applied. -/
def Filled (x : Exchange) : Prop :=
  ∃ r ∈ x.applied, r.IsFonts

/-- No change, no request and no answer waits. -/
def Settled (x : Exchange) : Prop :=
  x.app.store.Quiet x.app.observer ∧ x.commands.filterMap (·.request?) = [] ∧ x.app.responses = []

/-- Every list shows the effective value of its preference. -/
def Agrees (x : Exchange) : Prop :=
  ∀ id : ListId, ∃ l value, x.app.page.list? id = some l ∧
    x.app.store.getText? id.preferenceKey = some value ∧ l.Shows value

/-- No change waits, and an answer waits that will select in one of the lists another value than the
effective one, of which it offers one at least. -/
def Overtaken (x : Exchange) : Prop :=
  x.app.store.Quiet x.app.observer ∧ ∃ families encodings selected,
    .fonts families encodings selected ∈ x.app.responses ∧ ∃ id : ListId,
      selected[id.place]? ≠ x.app.store.getText? id.preferenceKey ∧
      ∃ choice ∈ id.offered families encodings, some choice.value = selected[id.place]? ∨
        some choice.value = x.app.store.getText? id.preferenceKey

/-- The answer that waits is applied. -/
def Applies (x : Exchange) (e : Event) : Prop :=
  e = .act .drainWorker ∧ x.present = true

/-- Once the font lists have been applied, the lists of `c` show the effective values whenever no
change waits. -/
def Agree (x : Exchange) (c : Controls) : Prop :=
  x.Filled → x.app.store.Quiet x.app.observer → ∀ (id : ListId) (value : String),
    x.app.store.getText? id.preferenceKey = some value → (c.list id).Shows value

variable {catalog : Catalog} {store : Preference.Store} {x : Exchange} {c : Controls}

/-! ### What the moves do to the agreement -/

/-- A list that has been filled does not show the placeholder any more. -/
theorem syncList_of_filled (h : x.Inv catalog store c) (hfilled : x.Filled) (s : Preference.Store)
    {id : ListId} {value : String} (hvalue : s.getText? id.preferenceKey = some value) :
    Page.syncList s id (c.list id) = (c.list id).selectValue value := by
  refine Page.syncList_eq (fun hdisabled => ?_) hvalue
  by_contra hfree
  have henabled := (h.enabled id (Bool.eq_false_iff.2 hfree)).2 hfilled
  exact absurd (hdisabled.symm.trans henabled) (by simp)

theorem agree_drainPreferences (h : x.Inv catalog store c) (hagree : x.Agree c)
    (hfilled : x.Filled) (id : ListId) (value : String)
    (hvalue : x.app.drainPreferences.1.store.getText? id.preferenceKey = some value) :
    ((c.after x.app .drainPreferences).list id).Shows value := by
  rw [App.drainPreferences_store] at hvalue
  rw [Controls.after]
  split
  · next hquiet =>
    rw [Preference.Store.getText?_congr (Preference.Store.get?_drain _ _)] at hvalue
    exact hagree hfilled hquiet id value hvalue
  · rw [Controls.list_synced, syncList_of_filled h hfilled _ hvalue]
    exact SelectionList.shows_selectValue ..

/-- The answers that wait are one at most, and it selects the effective values unless it is
overtaken. -/
theorem agree_drainWorker (h : x.Inv catalog store c) (hagree : x.Agree c) (hnot : ¬x.Overtaken)
    (hfilled : ∃ r ∈ x.applied ++ x.app.responses, r.IsFonts)
    (hquiet : x.app.store.Quiet x.app.observer) (id : ListId) (value : String)
    (hvalue : x.app.store.getText? id.preferenceKey = some value) :
    ((c.after x.app .drainWorker).list id).Shows value := by
  rw [Controls.after]
  cases hresponses : x.app.responses with
  | nil =>
    rw [hresponses, List.append_nil] at hfilled
    exact hagree hfilled hquiet id value hvalue
  | cons r rest =>
    -- one answer is sent at most, so that this one is the first and the last
    obtain ⟨hanswers, htaken⟩ := h.answers_length
    rw [hresponses, List.length_cons] at hanswers
    have hrest : rest = [] := List.length_eq_zero_iff.1 (by omega)
    have happlied : x.applied = [] := List.length_eq_zero_iff.1 (by omega)
    rw [hresponses, hrest, happlied, List.nil_append] at hfilled
    obtain ⟨r', hmem, families, encodings, selected, rfl⟩ := hfilled
    have hr := List.mem_singleton.1 hmem
    rw [hrest, ← hr, List.foldl_cons, List.foldl_nil, Controls.received, Controls.list_filled,
      SelectionList.shows_populate_iff]
    by_contra hstale
    rw [not_or] at hstale
    obtain ⟨hother, hoffered⟩ := hstale
    push Not at hoffered
    obtain ⟨choice, hchoice, heq⟩ := hoffered
    refine hnot ⟨hquiet, families, encodings, selected, ?_, id, ?_, choice, hchoice, ?_⟩
    · rw [hresponses, ← hr]
      exact List.mem_cons_self
    · rw [hvalue]
      exact hother
    · by_cases hwanted : some choice.value = selected[id.place]?
      · exact .inl hwanted
      · exact .inr (by rw [hvalue, heq hwanted])

/-- A pick shows what it stores. -/
theorem agree_pick (h : x.Inv catalog store c) (hover : x.app.store.OverFontDefaults)
    (hagree : x.Agree c) (hfilled : x.Filled) {id' : ListId} {index : Nat}
    (hquiet : (x.app.move (.pick id' index)).store.Quiet x.app.observer) (id : ListId)
    (value : String)
    (hvalue : (x.app.move (.pick id' index)).store.getText? id.preferenceKey = some value) :
    ((c.after x.app (.pick id' index)).list id).Shows value := by
  obtain ⟨hbefore, hget⟩ := (App.announced_move x.app (m := .pick id' index) (by simp)
    x.app.observer).quiet hquiet
  have hold : (c.list id).Shows value :=
    hagree hfilled hbefore id value ((Preference.Store.getText?_congr hget _).symm.trans hvalue)
  have hstore : (x.app.move (.pick id' index)).store = Write.attemptAll x.app.store
      ((((c.list id').select index).2.map (·.value)).toList.flatMap (Page.pickWrites id')) := by
    rw [← Page.select_writes h.sound.controls]
    rfl
  rw [hstore] at hquiet hvalue
  rw [Controls.after, Controls.list_putList]
  by_cases heq : id = id'
  · subst heq
    rw [if_pos rfl]
    rcases SelectionList.select_cases (c.list id) index with
      hselect | ⟨choice, henabled, hchoice, hselect⟩
    · rw [hselect]
      exact hold
    · -- a list that takes a pick is not managed, so that the store takes it too
      have hfree : x.app.store.isManaged id.preferenceKey = false := by
        rw [Preference.Store.isManaged, h.policy, ← Preference.Store.isManaged, ← h.managed id]
        cases hmanaged : (c.list id).managed with
        | true => exact absurd ((h.locked id hmanaged).symm.trans henabled) (by simp)
        | false => rfl
      simp only [hselect, Option.map_some, Option.toList_some, List.flatMap_cons, List.flatMap_nil,
        List.append_nil] at hquiet hvalue
      have hpicked := Page.getText?_pickWrites hover hfree choice.value
      rw [hselect, ← Option.some_inj.1 (hpicked.symm.trans hvalue)]
      exact SelectionList.shows_of_getElem? rfl hchoice
  · rw [if_neg heq]
    exact hold

theorem agree_move (h : x.Inv catalog store c) (hover : x.app.store.OverFontDefaults)
    (hagree : x.Agree c) (hfilled : x.Filled) {m : Move} (hm : m ≠ .drainWorker)
    (hquiet : (x.app.move m).store.Quiet x.app.observer) (id : ListId) (value : String)
    (hvalue : (x.app.move m).store.getText? id.preferenceKey = some value) :
    ((c.after x.app m).list id).Shows value := by
  -- all that a move announces and that does not reach the lists
  have hsame : m ≠ .drainPreferences → (c.after x.app m).list id = c.list id →
      ((c.after x.app m).list id).Shows value := by
    intro hne hlist
    obtain ⟨hbefore, hget⟩ := (App.announced_move x.app hne x.app.observer).quiet hquiet
    rw [Preference.Store.getText?_congr hget] at hvalue
    rw [hlist]
    exact hagree hfilled hbefore id value hvalue
  cases m with
  | nudge id' step => exact hsame (by simp) (Controls.list_putSlider ..)
  | slide id' position => exact hsame (by simp) (Controls.list_putSlider ..)
  | pick id' index => exact agree_pick h hover hagree hfilled hquiet id value hvalue
  | drainPreferences => exact agree_drainPreferences h hagree hfilled id value hvalue
  | drainWorker => exact absurd rfl hm
  | stay | appear | write | clear => exact hsame (by simp) rfl

theorem agree_act (h : x.Inv catalog store c) (hover : x.app.store.OverFontDefaults)
    (hpresent : x.present = true) (hagree : x.Agree c) {action : Action}
    (hnot : ¬(x.Applies (.act action) ∧ x.Overtaken)) :
    (x.act action).Agree (c.after x.app (x.app.moveOf action)) := by
  rw [act, if_pos hpresent]
  intro hfilled hquiet id value hvalue
  change ∃ r ∈ x.applied ++ (if action = .drainWorker then x.app.responses else []),
    r.IsFonts at hfilled
  change (x.app.act action).store.Quiet (x.app.act action).observer at hquiet
  change (x.app.act action).store.getText? id.preferenceKey = some value at hvalue
  rw [App.store_act, App.observer_act] at hquiet
  rw [App.store_act] at hvalue
  by_cases hdrain : action = .drainWorker
  · subst hdrain
    have hsame : (x.app.move (x.app.moveOf .drainWorker)).store = x.app.store :=
      App.drainWorker_store x.app
    rw [hsame] at hquiet hvalue
    rw [if_pos rfl] at hfilled
    have hfresh : ¬x.Overtaken := fun hstale => hnot ⟨⟨rfl, hpresent⟩, hstale⟩
    exact agree_drainWorker h hagree hfresh hfilled hquiet id value hvalue
  · rw [if_neg hdrain, List.append_nil] at hfilled
    exact agree_move h hover hagree hfilled (mt (App.moveOf_eq_drainWorker x.app action).1 hdrain)
      hquiet id value hvalue

/-! ### Runs without an overtaken answer -/

theorem agree_step (h : x.Inv catalog store c) (hover : x.app.store.OverFontDefaults)
    (hagree : x.Agree c) {e : Event} (hnot : ¬(x.Applies e ∧ x.Overtaken)) :
    (x.step catalog e).Agree (x.controlsAfter c e) := by
  rcases step_cases catalog x e with ⟨action, rfl, hpresent⟩ | ⟨hlate, haside⟩
  · rw [controlsAfter, if_pos hpresent]
    exact agree_act h hover hpresent hagree hnot
  · have hcontrols : x.controlsAfter c e = c := by
      cases e with
      | act action => rw [controlsAfter, hlate action rfl]; rfl
      | work | shutdown | hangUp | leave => rfl
    intro hfilled hquiet id value hvalue
    rw [Filled, haside.applied] at hfilled
    rw [haside.store, haside.observer] at hquiet
    rw [haside.store] at hvalue
    rw [hcontrols]
    exact hagree hfilled hquiet id value hvalue

theorem overFontDefaults_step (hover : x.app.store.OverFontDefaults) (e : Event) :
    (x.step catalog e).app.store.OverFontDefaults := by
  rcases step_cases catalog x e with ⟨action, rfl, hpresent⟩ | ⟨-, haside⟩
  · rw [step, act, if_pos hpresent]
    exact App.overFontDefaults_act hover action
  · rw [haside.store]
    exact hover

theorem overFontDefaults_run (hover : x.app.store.OverFontDefaults) (events : List Event) :
    (x.run catalog events).app.store.OverFontDefaults := by
  induction events generalizing x with
  | nil => exact hover
  | cons e events ih => exact ih (overFontDefaults_step hover e)

theorem agree_run (hover : store.OverFontDefaults) (strings : LocalizedStrings)
    {events : List Event} (hnot : ¬Met ((start store strings).run catalog)
      (fun x e => x.Applies e ∧ x.Overtaken) events) :
    ∃ c, ((start store strings).run catalog events).Inv catalog store c ∧
      ((start store strings).run catalog events).Agree c := by
  have hstart : (start store strings).app.store.OverFontDefaults :=
    Preference.Store.overFontDefaults_edit hover .observe
  induction events using List.reverseRecOn with
  | nil =>
    refine ⟨_, inv_start catalog store strings, fun hfilled => ?_⟩
    obtain ⟨r, hmem, -⟩ := hfilled
    exact absurd hmem (by simp [run, start])
  | append_singleton events e ih =>
    rw [met_append_singleton, not_or] at hnot
    obtain ⟨c, hinv, hagree⟩ := ih hnot.1
    rw [run_append]
    exact ⟨_, inv_step hinv e, agree_step hinv (overFontDefaults_run hstart events) hagree hnot.2⟩

/-! ### An overtaken answer -/

/-- An answer that waits is the only one, and there is no request behind it. -/
theorem Inv.alone (h : x.Inv catalog store c) {r : WorkerResponse} (hmem : r ∈ x.app.responses) :
    x.app.responses = [r] ∧ x.commands.filterMap (·.request?) = [] := by
  obtain ⟨hanswers, htaken⟩ := h.answers_length
  have hpos := List.length_pos_of_mem hmem
  constructor
  · obtain ⟨r', hr'⟩ := List.length_eq_one_iff.1 (show x.app.responses.length = 1 by omega)
    rw [hr', List.mem_singleton] at hmem
    rw [hr', hmem]
  · cases hworking : x.working with
    | true =>
      have hlength := congrArg List.length (h.queued hworking)
      have honce := h.accepted.length_le.trans h.once
      rw [List.length_append] at hlength
      exact List.length_eq_zero_iff.1 (by omega)
    | false =>
      rw [h.stopped hworking]
      rfl

/-- What an overtaken answer leads to: nothing is under way any more, and a list is wrong. -/
theorem settled_of_overtaken (h : x.Inv catalog store c) (hpresent : x.present = true)
    (hstale : x.Overtaken) : (x.act .drainWorker).Filled ∧ (x.act .drainWorker).Settled ∧
      ¬(x.act .drainWorker).Agrees := by
  obtain ⟨hquiet, families, encodings, selected, hmem, id, hother, choice, hchoice, hoffered⟩ :=
    hstale
  obtain ⟨hresponses, hcommands⟩ := h.alone hmem
  have hrequests : (x.app.act .drainWorker).requests = [] := by
    rw [App.requests_act h.sound, h.flushed, if_neg (by simp [App.shownBy?])]
    rfl
  have hstore : (x.app.act .drainWorker).store = x.app.store := by
    rw [App.store_act]
    exact App.drainWorker_store x.app
  have hcontrols : (x.app.act .drainWorker).page.controls?
      = some (c.filled families encodings selected) := by
    refine (App.sound_act h.sound .drainWorker).controls.trans (congrArg some ?_)
    show x.app.responses.foldl Controls.received c = _
    rw [hresponses]
    rfl
  rw [act, if_pos hpresent, hrequests]
  refine ⟨⟨_, ?_, families, encodings, selected, rfl⟩, ⟨?_, ?_, ?_⟩, fun hagrees => ?_⟩
  · rw [if_pos rfl]
    exact List.mem_append_right _ hmem
  · show (x.app.act .drainWorker).store.Quiet (x.app.act .drainWorker).observer
    rw [hstore, App.observer_act]
    exact hquiet
  · rw [List.map_nil, List.append_nil]
    exact hcommands
  · exact App.responses_act x.app .drainWorker
  · obtain ⟨l, value, hl, hvalue, hshows⟩ := hagrees id
    change (x.app.act .drainWorker).page.list? id = some l at hl
    change (x.app.act .drainWorker).store.getText? id.preferenceKey = some value at hvalue
    rw [Page.list?, hcontrols, Option.map_some, Option.some_inj, Controls.list_filled] at hl
    rw [hstore] at hvalue
    rw [← hl, SelectionList.shows_populate_iff] at hshows
    rw [hvalue] at hother hoffered
    rcases hshows with hsame | hneither
    · exact hother hsame
    · obtain ⟨hwanted, hne⟩ := hneither choice hchoice
      rcases hoffered with hsome | hsome
      · exact hwanted hsome
      · exact hne (Option.some_inj.1 hsome)

/-- In a state that agrees, the lists show the effective values. -/
theorem agrees_of_agree (h : x.Inv catalog store c) (hover : x.app.store.OverFontDefaults)
    (hagree : x.Agree c) (hfilled : x.Filled) (hsettled : x.Settled) : x.Agrees := by
  intro id
  obtain ⟨value, hvalue⟩ := Preference.Store.getText?_eq_some hover id
  refine ⟨c.list id, value, ?_, hvalue, hagree hfilled hsettled.1 id value hvalue⟩
  rw [Page.list?, show x.app.page.controls? = some c from h.sound.controls]
  rfl

open Preference in
/-- **When the lists agree with the store.**  For every run over a prepared store: in all its states
in which the font lists have been applied and no change, request or answer waits, every list shows
the effective value of its preference, exactly if the run applies no answer that has been
overtaken. -/
theorem agrees_iff_not_overtaken (catalog : Catalog) (edits : List Store.Edit)
    (strings : LocalizedStrings) (events : List Event) :
    let history := (start (Store.withFontDefaults.edited edits) strings).run catalog
    (∀ pre, pre <+: events → (history pre).Filled → (history pre).Settled → (history pre).Agrees) ↔
      ¬Met history (fun x e => x.Applies e ∧ x.Overtaken) events := by
  intro history
  have hover := Store.overFontDefaults_edited edits
  constructor
  · -- an overtaken answer leads to a settled state in which a list is wrong
    rintro hall ⟨pre, e, post, rfl, ⟨rfl, hpresent⟩, hstale⟩
    obtain ⟨c, hinv⟩ := inv_run catalog (Store.withFontDefaults.edited edits) strings pre
    have hnext : history (pre ++ [.act .drainWorker]) = (history pre).act .drainWorker :=
      run_append ..
    obtain ⟨hfilled, hsettled, hwrong⟩ := settled_of_overtaken hinv hpresent hstale
    rw [← hnext] at hfilled hsettled hwrong
    exact hwrong (hall _ ⟨post, by simp⟩ hfilled hsettled)
  · -- without one the lists agree whenever no change waits
    rintro hnot pre ⟨post, rfl⟩ hfilled hsettled
    have hnotBefore : ¬Met history (fun x e => x.Applies e ∧ x.Overtaken) pre :=
      fun hmet => hnot (hmet.append post)
    obtain ⟨c, hinv, hagree⟩ := agree_run hover strings hnotBefore
    have hoverPre : (history pre).app.store.OverFontDefaults :=
      overFontDefaults_run (Store.overFontDefaults_edit hover .observe) pre
    exact agrees_of_agree hinv hoverPre hagree hfilled hsettled

open Preference in
/-- A family that is written, and whose change is taken, while the request is under way: the answer
selects the family of before, and nothing corrects it. -/
theorem overtaken_answer_stays :
    let x := (start .withFontDefaults default).run ⟨["Georgia", "Times New Roman"]⟩
      [.act (.showPanel .fonts), .act (.write serifFamilyKey (.text "Georgia") ""),
        .act .drainPreferences, .work, .act .drainWorker]
    x.Filled ∧ x.Settled ∧ ¬x.Agrees ∧ x.app.store.getText? serifFamilyKey = some "Georgia" ∧
      (x.app.page.list? .serifFamily).map (·.choices.map (·.value))
        = some ["Georgia", "Times New Roman"] ∧
      (x.app.page.list? .serifFamily).bind (·.selectedValue?) = some "Times New Roman" := by
  intro x
  -- the run is evaluated once, and what it comes to is read off
  obtain ⟨hstored, hchoices, hselected, hquiet, hcommands, hresponses, happlied⟩ :
      x.app.store.getText? serifFamilyKey = some "Georgia" ∧
      (x.app.page.list? .serifFamily).map (·.choices.map (·.value))
        = some ["Georgia", "Times New Roman"] ∧
      (x.app.page.list? .serifFamily).bind (·.selectedValue?) = some "Times New Roman" ∧
      x.app.store.Quiet x.app.observer ∧ x.commands.filterMap (·.request?) = [] ∧
      x.app.responses = [] ∧
      x.applied = [.fonts [⟨"Georgia", "Georgia"⟩, ⟨"Times New Roman", "Times New Roman"⟩]
        Encoding.choices ["Times New Roman", "Courier New", "ISO-8859-1"]] := by
    decide +kernel
  refine ⟨⟨_, happlied ▸ List.mem_cons_self, _, _, _, rfl⟩, ⟨hquiet, hcommands, hresponses⟩,
    fun hagrees => ?_, hstored, hchoices, hselected⟩
  · obtain ⟨l, value, hl, hvalue, hshows⟩ := hagrees .serifFamily
    rw [hl, Option.map_some, Option.some_inj] at hchoices
    rw [hl, Option.bind_some] at hselected
    have hmem : "Georgia" ∈ l.choices.map (·.value) := by
      rw [hchoices]
      exact List.mem_cons_self
    have hgeorgia : value = "Georgia" := Option.some_inj.1 (hvalue.symm.trans hstored)
    have hshown := hshows.offered (hgeorgia ▸ List.mem_map.1 hmem)
    rw [hselected, hgeorgia] at hshown
    exact absurd hshown (by decide)

end Exchange
end FontPreferences
