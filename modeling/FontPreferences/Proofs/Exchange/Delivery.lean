import FontPreferences.Proofs.Exchange.Protocol

/-
The font lists are asked for once, and what is asked for arrives.

* `Inv` is what holds in every state of an exchange: at most one request is sent, and none before
  the page is shown; what got through is what was taken and what waits; what was answered is what
  was applied and what waits; a list is enabled exactly by the font lists arriving;
* `inv_step`: every event keeps it;
* `sent_step`: what an event sends, and whether it gets through;
* `Worker.Answers`: what a request is answered, and `Inv.answers`: so are those that were taken;
* `taken_run_work`: a worker that goes on working takes all that waits before a `Shutdown`;
* `fetch_at_most_once` puts these together.
-/
namespace FontPreferences

/-- The request that a command carries, if it carries one. -/
def WorkerCommand.request? : WorkerCommand → Option FetchRequest
  | .fetch request => some request
  | .shutdown => none

/-- Whether an answer brings the font lists. -/
def WorkerResponse.IsFonts (r : WorkerResponse) : Prop :=
  ∃ families encodings selected, r = .fonts families encodings selected

/-- A list that policy leaves free is enabled exactly by an answer that brings the font lists. -/
theorem disabled_foldl_received_iff (responses : List WorkerResponse) {c : Controls} {id : ListId}
    (h : (c.list id).managed = false) :
    ((responses.foldl Controls.received c).list id).disabled = false ↔
      (c.list id).disabled = false ∨ ∃ r ∈ responses, r.IsFonts := by
  induction responses generalizing c with
  | nil => simp
  | cons r responses ih =>
    rw [List.foldl_cons, ih ((App.managed_received c r id).trans h)]
    cases r with
    | fonts families encodings selected =>
      rw [Controls.received, Controls.list_filled, SelectionList.populate, h]
      simp [WorkerResponse.IsFonts]
    | failure message context => simp [Controls.received, WorkerResponse.IsFonts]

namespace Worker

/-- What a request is answered from a catalog: the families and the encodings there are, with the
values to select that came along, or that there are no families. -/
inductive Answers (catalog : Catalog) (request : FetchRequest) : WorkerResponse → Prop where
  | fonts {families : List Choice} (h : catalog.families = .ok families) :
    Answers catalog request (.fonts families Encoding.choices request.selected)
  | failure (h : catalog.families = .error .noFonts) :
    Answers catalog request (.failure "no font families found on this system" "font catalog")

theorem answers_answer (catalog : Catalog) (request : FetchRequest) :
    Answers catalog request (answer catalog request) := by
  rw [answer]
  cases hfamilies : catalog.families with
  | ok families => exact .fonts hfamilies
  | error e =>
    cases e
    exact .failure hfamilies

theorem forall₂_answers (catalog : Catalog) (requests : List FetchRequest) :
    List.Forall₂ (Answers catalog) requests (requests.map (answer catalog)) := by
  rw [List.forall₂_map_right_iff, List.forall₂_same]
  exact fun request _ => answers_answer catalog request

/-- Of a run of commands, the requests before a `Shutdown` are answered. -/
theorem serve_eq (catalog : Catalog) (commands : List WorkerCommand) : serve catalog commands
    = ((commands.takeWhile (· ≠ .shutdown)).filterMap (·.request?)).map (answer catalog) := by
  induction commands with
  | nil => rfl
  | cons command rest ih =>
    cases command with
    | shutdown => rfl
    | fetch request =>
      rw [serve, ih]
      rfl

end Worker

namespace Exchange

/-- What holds in every state of an exchange over a store. -/
structure Inv (catalog : Catalog) (store : Preference.Store) (x : Exchange) (c : Controls) :
    Prop where
  sound : x.app.core.Sound c
  alive : x.app.workerAlive = x.working
  flushed : x.app.requests = []
  unsent : x.app.page.hasShown = false → x.sent = []
  once : x.sent.length ≤ 1
  accepted : x.accepted <+: x.sent
  queued : x.working = true → x.accepted = x.taken ++ x.commands.filterMap (·.request?)
  stopped : x.working = false → x.commands = []
  taken : x.taken <+: x.accepted
  answered : x.answered <+: x.taken.map (Worker.answer catalog)
  answeredAll : x.present = true ∨ x.working = true →
    x.answered = x.taken.map (Worker.answer catalog)
  applied : x.answered = x.applied ++ x.app.responses
  policy : x.app.store.managed = store.managed
  managed : ∀ id : ListId, (c.list id).managed = store.isManaged id.preferenceKey
  locked : ∀ id : ListId, (c.list id).managed = true → (c.list id).disabled = true
  enabled : ∀ id : ListId, (c.list id).managed = false →
    ((c.list id).disabled = false ↔ ∃ r ∈ x.applied, r.IsFonts)

variable {catalog : Catalog} {store : Preference.Store} {x : Exchange} {c : Controls}

theorem inv_start (catalog : Catalog) (store : Preference.Store) (strings : LocalizedStrings) :
    (start store strings).Inv catalog store (App.newControls store strings) := by
  constructor
  case sound => exact App.sound_new store strings
  case alive => rfl
  case flushed => rfl
  case unsent => exact fun _ => rfl
  case once => exact Nat.zero_le 1
  case accepted => exact List.prefix_refl []
  case queued => exact fun _ => rfl
  case stopped => exact fun h => absurd h (by simp [start])
  case taken => exact List.prefix_refl []
  case answered => exact List.prefix_refl []
  case answeredAll => exact fun _ => rfl
  case applied => rfl
  case policy => rfl
  case managed => exact App.managed_list_newControls store strings
  case locked => exact fun id _ => App.disabled_list_newControls store strings id
  case enabled =>
    intro id _
    rw [App.disabled_list_newControls]
    simp [start]

/-! ### Actions -/

/-- The lists after an action: what it takes in is applied to them. -/
theorem enabled_after (action : Action) {id : ListId} (hmanaged : (c.list id).managed = false)
    (h : (c.list id).disabled = false ↔ ∃ r ∈ x.applied, r.IsFonts) :
    ((c.after x.app (x.app.moveOf action)).list id).disabled = false ↔
      ∃ r ∈ x.applied ++ (if action = .drainWorker then x.app.responses else []), r.IsFonts := by
  by_cases hdrain : action = .drainWorker
  · subst hdrain
    rw [if_pos rfl]
    show ((x.app.responses.foldl Controls.received c).list id).disabled = false ↔ _
    rw [disabled_foldl_received_iff _ hmanaged, h]
    simp only [List.mem_append, or_and_right, exists_or]
  · have hmove : x.app.moveOf action ≠ .drainWorker :=
      mt (App.moveOf_eq_drainWorker x.app action).1 hdrain
    rw [if_neg hdrain, List.append_nil, ← h, (App.reselected_after c x.app hmove id).disabled]

theorem inv_act (h : x.Inv catalog store c) (hpresent : x.present = true) (action : Action) :
    (x.act action).Inv catalog store (c.after x.app (x.app.moveOf action)) := by
  have hsends := App.sends_eq h.sound action
  have hrequests : (x.app.act action).requests = if x.working then x.app.sends action else [] := by
    rw [App.requests_eq_sends h.sound, h.flushed, List.nil_append, h.alive]
  have hact : x.act action = { x with
      app := { x.app.act action with requests := [] }
      commands := x.commands ++ (x.app.act action).requests.map .fetch
      sent := x.sent ++ x.app.sends action
      accepted := x.accepted ++ (x.app.act action).requests
      applied := x.applied ++ if action = .drainWorker then x.app.responses else [] } := by
    rw [act, if_pos hpresent]
  rw [hact]
  have hsound := App.sound_act h.sound action
  constructor
  case sound => exact ⟨hsound.controls, hsound.built, hsound.subscribed⟩
  case alive => exact (App.workerAlive_act x.app action).trans h.alive
  case flushed => rfl
  case unsent =>
    intro hshown
    have hbefore := (App.hasShown_act h.sound action).symm.trans hshown
    rw [Bool.or_eq_false_iff, decide_eq_false_iff_not] at hbefore
    show x.sent ++ x.app.sends action = []
    rw [hsends, if_neg fun hfirst => hbefore.1 hfirst.1, h.unsent hbefore.2]
    rfl
  case once =>
    show (x.sent ++ x.app.sends action).length ≤ 1
    rw [hsends]
    split
    · next hfirst =>
      rw [h.unsent hfirst.2]
      exact Nat.le_refl 1
    · rw [List.append_nil]
      exact h.once
  case accepted =>
    show x.accepted ++ (x.app.act action).requests <+: x.sent ++ x.app.sends action
    by_cases hfirst : x.app.shownBy? action = some .fonts ∧ x.app.page.hasShown = false
    · -- nothing was sent before, so nothing got through before
      have hsent := h.unsent hfirst.2
      have haccepted : x.accepted = [] := List.prefix_nil.1 (hsent ▸ h.accepted)
      rw [hrequests, hsent, haccepted, List.nil_append, List.nil_append]
      split
      · exact List.prefix_refl _
      · exact List.nil_prefix
    · rw [if_neg hfirst] at hsends
      rw [hrequests, hsends, ite_self, List.append_nil, List.append_nil]
      exact h.accepted
  case queued =>
    intro hworking
    show x.accepted ++ (x.app.act action).requests = x.taken
      ++ (x.commands ++ (x.app.act action).requests.map WorkerCommand.fetch).filterMap (·.request?)
    have hcarried : ((x.app.act action).requests.map WorkerCommand.fetch).filterMap (·.request?)
        = (x.app.act action).requests := by
      rw [List.filterMap_map]
      exact List.filterMap_some
    rw [List.filterMap_append, hcarried, ← List.append_assoc, ← h.queued hworking]
  case stopped =>
    -- nothing gets through to a worker that has stopped
    intro hworking
    show x.commands ++ (x.app.act action).requests.map WorkerCommand.fetch = []
    rw [h.stopped hworking, hrequests, show x.working = false from hworking]
    rfl
  case taken => exact h.taken.trans (List.prefix_append ..)
  case answered => exact h.answered
  case answeredAll => exact h.answeredAll
  case applied =>
    show x.answered = x.applied ++ (if action = .drainWorker then x.app.responses else [])
      ++ (x.app.act action).responses
    rw [App.responses_act, h.applied]
    split
    · rw [List.append_nil]
    · rw [List.append_nil]
  case policy => exact (App.managed_act x.app action).trans h.policy
  case managed =>
    intro id
    rw [App.managed_list_after]
    exact h.managed id
  case locked =>
    intro id hmanaged
    rw [App.managed_list_after] at hmanaged
    rw [App.disabled_list_after _ _ hmanaged]
    exact h.locked id hmanaged
  case enabled =>
    intro id hmanaged
    rw [App.managed_list_after] at hmanaged
    exact enabled_after action hmanaged (h.enabled id hmanaged)

/-! ### The worker and the program -/

theorem inv_stop (h : x.Inv catalog store c) : x.stop.Inv catalog store c where
  sound := ⟨h.sound.controls, h.sound.built, h.sound.subscribed⟩
  alive := rfl
  flushed := h.flushed
  unsent := h.unsent
  once := h.once
  accepted := h.accepted
  queued hworking := absurd hworking (by simp [stop])
  stopped _ := rfl
  taken := h.taken
  answered := h.answered
  answeredAll hparty :=
    h.answeredAll (hparty.imp_right fun hworking => absurd hworking (by simp [stop]))
  applied := h.applied
  policy := h.policy
  managed := h.managed
  locked := h.locked
  enabled := h.enabled

/-- The worker takes the request that waits longest; what it has taken still is what got through
first. -/
theorem taken_append (h : x.Inv catalog store c) (hworking : x.working = true)
    {request : FetchRequest} {rest : List WorkerCommand}
    (hcommands : x.commands = .fetch request :: rest) :
    x.accepted = (x.taken ++ [request]) ++ rest.filterMap (·.request?) := by
  rw [h.queued hworking, hcommands, List.append_assoc]
  rfl

theorem inv_work (h : x.Inv catalog store c) : (x.work catalog).Inv catalog store c := by
  rw [work]
  split
  · next hworking =>
    split
    · split
      · exact h
      · exact inv_stop h
    · exact inv_stop h
    · next request rest hcommands =>
      have haccepted := taken_append h hworking hcommands
      have htaken : x.taken ++ [request] <+: x.accepted := ⟨_, haccepted.symm⟩
      have hmap := h.answeredAll (.inr hworking)
      dsimp only
      split
      · constructor
        case sound => exact ⟨h.sound.controls, h.sound.built, h.sound.subscribed⟩
        case alive => exact h.alive
        case flushed => exact h.flushed
        case unsent => exact h.unsent
        case once => exact h.once
        case accepted => exact h.accepted
        case queued => exact fun _ => haccepted
        case stopped => exact fun hstopped => absurd (hworking.symm.trans hstopped) (by simp)
        case taken => exact htaken
        case answered => simp [hmap]
        case answeredAll => simp [hmap]
        case applied => simp [h.applied]
        case policy => exact h.policy
        case managed => exact h.managed
        case locked => exact h.locked
        case enabled => exact h.enabled
      · next hgone =>
        -- the answer is lost with the app, and the worker stops over it
        constructor
        case sound => exact ⟨h.sound.controls, h.sound.built, h.sound.subscribed⟩
        case alive => rfl
        case flushed => exact h.flushed
        case unsent => exact h.unsent
        case once => exact h.once
        case accepted => exact h.accepted
        case queued => exact fun hstopped => absurd hstopped (by simp [stop])
        case stopped => exact fun _ => rfl
        case taken => exact htaken
        case answered => exact h.answered.trans (by simp [stop])
        case answeredAll => exact fun hparty => absurd hparty (by simpa [stop] using hgone)
        case applied => exact h.applied
        case policy => exact h.policy
        case managed => exact h.managed
        case locked => exact h.locked
        case enabled => exact h.enabled
  · exact h

theorem inv_shutdown (h : x.Inv catalog store c) :
    (x.step catalog .shutdown).Inv catalog store c := by
  rw [step]
  split
  · next hparty =>
    rw [Bool.and_eq_true] at hparty
    constructor
    case sound => exact h.sound
    case alive => exact h.alive
    case flushed => exact h.flushed
    case unsent => exact h.unsent
    case once => exact h.once
    case accepted => exact h.accepted
    case queued =>
      intro hworking
      show x.accepted = x.taken ++ (x.commands ++ [WorkerCommand.shutdown]).filterMap (·.request?)
      rw [List.filterMap_append, ← List.append_assoc, ← h.queued hworking]
      simp [WorkerCommand.request?]
    case stopped => exact fun hstopped => absurd (hparty.2.symm.trans hstopped) (by simp)
    case taken => exact h.taken
    case answered => exact h.answered
    case answeredAll => exact h.answeredAll
    case applied => exact h.applied
    case policy => exact h.policy
    case managed => exact h.managed
    case locked => exact h.locked
    case enabled => exact h.enabled
  · exact h

/-- The controls after an event. -/
def controlsAfter (x : Exchange) (c : Controls) : Event → Controls
  | .act action => if x.present then c.after x.app (x.app.moveOf action) else c
  | .work | .shutdown | .hangUp | .leave => c

theorem inv_step (h : x.Inv catalog store c) (e : Event) :
    (x.step catalog e).Inv catalog store (x.controlsAfter c e) := by
  cases e with
  | act action =>
    rw [controlsAfter]
    cases hpresent : x.present with
    | true => exact inv_act h hpresent action
    | false =>
      rw [step, act, hpresent]
      exact h
  | work => exact inv_work h
  | shutdown => exact inv_shutdown h
  | hangUp => exact { h with }
  | leave =>
    refine { h with answeredAll := fun hparty => h.answeredAll (.inr ?_) }
    exact hparty.resolve_left (by simp [step])

/-- **In every state of an exchange the invariant holds.** -/
theorem inv_run (catalog : Catalog) (store : Preference.Store) (strings : LocalizedStrings)
    (events : List Event) :
    ∃ c, ((start store strings).run catalog events).Inv catalog store c := by
  suffices hrun : ∀ x : Exchange, (∃ c, x.Inv catalog store c) →
      ∃ c, (x.run catalog events).Inv catalog store c by
    exact hrun _ ⟨_, inv_start catalog store strings⟩
  induction events with
  | nil => exact fun x hx => hx
  | cons e events ih =>
    rintro x ⟨c, hc⟩
    exact ih _ ⟨_, inv_step hc e⟩

/-! ### A worker that goes on working -/

theorem run_work_of_stopped (catalog : Catalog) {x : Exchange} (h : x.working = false) (n : Nat) :
    x.run catalog (List.replicate n .work) = x := by
  induction n with
  | zero => rfl
  | succ n ih =>
    have hstep : x.step catalog .work = x := by
      rw [step, work, h]
      rfl
    rw [List.replicate_succ, run, List.foldl_cons, hstep]
    exact ih

/-- A worker that goes on working takes, in order, all the requests that wait before a `Shutdown`. -/
theorem taken_run_work (catalog : Catalog) {x : Exchange} (hworking : x.working = true)
    (hpresent : x.present = true) {n : Nat} (hn : x.commands.length ≤ n) :
    (x.run catalog (List.replicate n .work)).present = true ∧
      (x.run catalog (List.replicate n .work)).taken
        = x.taken ++ (x.commands.takeWhile (· ≠ .shutdown)).filterMap (·.request?) := by
  -- on the steps, with the state general: each takes a command, or finds none or a `Shutdown`
  induction n generalizing x with
  | zero =>
    rw [List.length_eq_zero_iff.1 (Nat.le_zero.1 hn), List.takeWhile_nil, List.filterMap_nil,
      List.append_nil]
    exact ⟨hpresent, rfl⟩
  | succ n ih =>
    rw [List.replicate_succ, run, List.foldl_cons, ← run]
    cases hcommands : x.commands with
    | nil =>
      have hstep : x.step catalog .work = x := by simp [step, work, hworking, hcommands, hpresent]
      have hrest := ih hworking hpresent (by rw [hcommands]; exact Nat.zero_le n)
      rw [hcommands] at hrest
      rw [hstep]
      exact hrest
    | cons command rest =>
      rw [hcommands, List.length_cons] at hn
      cases command with
      | shutdown =>
        have hstep : x.step catalog .work = x.stop := by simp [step, work, hworking, hcommands]
        rw [hstep, run_work_of_stopped catalog rfl]
        exact ⟨hpresent, (List.append_nil _).symm⟩
      | fetch request =>
        obtain ⟨hworking', hpresent', hrest, htaken⟩ :
            (x.step catalog .work).working = true ∧ (x.step catalog .work).present = true ∧
              (x.step catalog .work).commands = rest ∧
              (x.step catalog .work).taken = x.taken ++ [request] := by
          simp [step, work, hworking, hcommands, hpresent]
        have hfurther := ih hworking' hpresent' (hrest ▸ Nat.le_of_succ_le_succ hn)
        rw [hrest, htaken, List.append_assoc] at hfurther
        exact hfurther

/-! ### The first showing -/

/-- An action by which the Fonts panel is shown meets an app that is there. -/
def Shows (x : Exchange) (e : Event) : Prop :=
  ∃ action, e = .act action ∧ x.present = true ∧ x.app.shownBy? action = some .fonts

theorem hasShown_step (h : x.Inv catalog store c) (e : Event) :
    (x.step catalog e).app.page.hasShown = true ↔ x.app.page.hasShown = true ∨ x.Shows e := by
  rcases step_cases catalog x e with ⟨action, rfl, hpresent⟩ | ⟨hlate, haside⟩
  · rw [step, act, if_pos hpresent]
    show (x.app.act action).page.hasShown = true ↔ _
    rw [App.hasShown_act h.sound, Bool.or_eq_true, decide_eq_true_iff, or_comm]
    refine or_congr_right ⟨fun hshown => ⟨action, rfl, hpresent, hshown⟩, ?_⟩
    rintro ⟨action', heq, -, hshown⟩
    exact Event.act.inj heq ▸ hshown
  · rw [haside.page]
    refine (or_iff_left ?_).symm
    rintro ⟨action, heq, hpresent, -⟩
    exact absurd ((hlate action heq).symm.trans hpresent) (by simp)

theorem hasShown_start (catalog : Catalog) (store : Preference.Store) (strings : LocalizedStrings) :
    ((start store strings).run catalog []).app.page.hasShown = false :=
  Page.resync_hasShown (Page.setUp_new_controls? strings _) _

/-- The page remembers whether it has been shown. -/
theorem hasShown_iff_met (catalog : Catalog) (store : Preference.Store) (strings : LocalizedStrings)
    (events : List Event) : ((start store strings).run catalog events).app.page.hasShown = true ↔
      Met ((start store strings).run catalog) Shows events := by
  induction events using List.reverseRecOn with
  | nil => exact ⟨fun h => absurd h (by simp [hasShown_start]), fun h => absurd h not_met_nil⟩
  | append_singleton events e ih =>
    obtain ⟨c, hc⟩ := inv_run catalog store strings events
    rw [met_append_singleton, ← ih, run_append]
    generalize (start store strings).run catalog events = x at hc ⊢
    show (x.step catalog e).app.page.hasShown = true ↔ x.app.page.hasShown = true ∨ x.Shows e
    exact hasShown_step hc e

/-- An event sends a request exactly if it is the first to show the page, and the request gets
through unless the worker has stopped. -/
theorem sent_step (h : x.Inv catalog store c) (e : Event) :
    (x.Shows e ∧ x.app.page.hasShown = false ∧
      (x.step catalog e).sent = [⟨App.selectedValues x.app.store⟩] ∧
      (x.step catalog e).accepted = if x.working then (x.step catalog e).sent else []) ∨
    (¬(x.Shows e ∧ x.app.page.hasShown = false) ∧
      (x.step catalog e).sent = x.sent ∧ (x.step catalog e).accepted = x.accepted) := by
  rcases step_cases catalog x e with ⟨action, rfl, hpresent⟩ | ⟨hlate, haside⟩
  · have hsent : (x.step catalog (.act action)).sent = x.sent ++ x.app.sends action := by
      rw [step, act, if_pos hpresent]
    have haccepted : (x.step catalog (.act action)).accepted
        = x.accepted ++ if x.working then x.app.sends action else [] := by
      rw [step, act, if_pos hpresent]
      show x.accepted ++ (x.app.act action).requests = _
      rw [App.requests_eq_sends h.sound, h.flushed, List.nil_append, h.alive]
    have hsends := App.sends_eq h.sound action
    by_cases hfirst : x.app.shownBy? action = some .fonts ∧ x.app.page.hasShown = false
    · have hnone := h.unsent hfirst.2
      have hnoneAccepted : x.accepted = [] := List.prefix_nil.1 (hnone ▸ h.accepted)
      rw [hnone, List.nil_append] at hsent
      rw [hnoneAccepted, List.nil_append] at haccepted
      refine .inl ⟨⟨action, rfl, hpresent, hfirst.1⟩, hfirst.2, ?_, ?_⟩
      · rw [hsent, hsends, if_pos hfirst]
      · rw [haccepted, hsent]
    · rw [if_neg hfirst] at hsends
      refine .inr ⟨?_, ?_, ?_⟩
      · rintro ⟨⟨action', heq, -, hshown⟩, hbefore⟩
        exact hfirst ⟨Event.act.inj heq ▸ hshown, hbefore⟩
      · rw [hsent, hsends, List.append_nil]
      · rw [haccepted, hsends, ite_self, List.append_nil]
  · refine .inr ⟨?_, haside.sent, haside.accepted⟩
    rintro ⟨⟨action, heq, hpresent, -⟩, -⟩
    exact absurd ((hlate action heq).symm.trans hpresent) (by simp)

/-- The requests taken first are those answered, each as it has to be. -/
theorem Inv.answers (h : x.Inv catalog store c) :
    List.Forall₂ (Worker.Answers catalog) (x.taken.take x.answered.length) x.answered := by
  have hforall := Worker.forall₂_answers catalog (x.taken.take x.answered.length)
  rwa [List.map_take, ← List.prefix_iff_eq_take.1 h.answered] at hforall

/-- While the app or the worker goes on, every request taken is answered. -/
theorem Inv.answersAll (h : x.Inv catalog store c) (hparty : x.present = true ∨ x.working = true) :
    List.Forall₂ (Worker.Answers catalog) x.taken x.answered := by
  rw [h.answeredAll hparty]
  exact Worker.forall₂_answers catalog x.taken

theorem Inv.answers_length (h : x.Inv catalog store c) :
    x.applied.length + x.app.responses.length ≤ x.taken.length ∧ x.taken.length ≤ 1 := by
  have hanswered := h.answered.length_le
  rw [List.length_map, h.applied, List.length_append] at hanswered
  exact ⟨hanswered, h.taken.length_le.trans (h.accepted.length_le.trans h.once)⟩

open Preference in
/-- **The font lists are asked for at most once, and what is asked for arrives.**  In every run of
an app, a worker over a catalog and the program around them: one request is sent, when the Fonts
panel is shown first, with the values to select of that moment, and no other; it gets through unless
the worker has stopped by then; requests are taken in order, none is lost while the worker works,
each that is taken is answered once, with what the catalog has and the values that came along, unless
the app has gone and the worker stops over it, and all that waits before a `Shutdown` will be; one
answer is applied at most, and a list is enabled exactly if policy leaves it free and the font lists
have been applied. -/
theorem fetch_at_most_once (catalog : Catalog) (store : Store) (strings : LocalizedStrings)
    (events : List Event) :
    let history := (start store strings).run catalog
    let x := history events
    x.sent.length ≤ 1 ∧
    (∀ e, let y := history (events ++ [e])
      (x.Shows e ∧ ¬Met history Shows events ∧
        y.sent = [⟨[(x.app.store.getText? serifFamilyKey).getD "",
          (x.app.store.getText? fixedFamilyKey).getD "",
          (x.app.store.getText? charsetKey).getD ""]⟩] ∧
        y.accepted = if x.working then y.sent else []) ∨
      (¬(x.Shows e ∧ ¬Met history Shows events) ∧
        y.sent = x.sent ∧ y.accepted = x.accepted)) ∧
    x.taken <+: x.accepted ∧
    (x.working = true → x.accepted = x.taken ++ x.commands.filterMap (·.request?)) ∧
    List.Forall₂ (Worker.Answers catalog) (x.taken.take x.answered.length) x.answered ∧
    (x.present = true ∨ x.working = true →
      List.Forall₂ (Worker.Answers catalog) x.taken x.answered) ∧
    (x.working = true → x.present = true → ∀ n, x.commands.length ≤ n →
      let y := history (events ++ List.replicate n .work)
      y.taken = x.taken ++ (x.commands.takeWhile (· ≠ .shutdown)).filterMap (·.request?) ∧
      List.Forall₂ (Worker.Answers catalog) y.taken y.answered ∧
      y.answered = x.answered ++ Worker.serve catalog x.commands) ∧
    x.answered = x.applied ++ x.app.responses ∧
    x.applied.length ≤ 1 ∧
    ∃ c, x.app.page.controls? = some c ∧ ∀ id : ListId,
      (c.list id).managed = store.isManaged id.preferenceKey ∧
      ((c.list id).disabled = false ↔ store.isManaged id.preferenceKey = false ∧
        ∃ families encodings selected, .fonts families encodings selected ∈ x.applied) := by
  intro history x
  obtain ⟨c, hc⟩ := inv_run catalog store strings events
  have hshown : x.app.page.hasShown = false ↔ ¬Met history Shows events := by
    rw [← Bool.not_eq_true]
    exact not_congr (hasShown_iff_met catalog store strings events)
  refine ⟨hc.once, fun e => ?_, hc.taken, hc.queued, hc.answers, hc.answersAll,
    fun hworking hpresent n hn => ?_, hc.applied, ?_, c, hc.sound.controls,
    fun id => ⟨hc.managed id, ?_⟩⟩
  · have hnext : history (events ++ [e]) = x.step catalog e := run_append ..
    rw [← hshown, hnext]
    exact sent_step hc e
  · obtain ⟨d, hd⟩ := inv_run catalog store strings (events ++ List.replicate n .work)
    have hnext : history (events ++ List.replicate n .work)
        = x.run catalog (List.replicate n .work) := run_append ..
    obtain ⟨hstays, htaken⟩ := taken_run_work catalog hworking hpresent hn
    rw [← hnext] at hstays htaken
    refine ⟨htaken, hd.answersAll (.inl hstays), (hd.answeredAll (.inl hstays)).trans ?_⟩
    -- what is taken now goes behind what was taken and answered before
    rw [htaken, List.map_append, ← hc.answeredAll (.inl hpresent), Worker.serve_eq]
  · obtain ⟨happlied, htaken⟩ := hc.answers_length
    exact (Nat.le_add_right _ _).trans (happlied.trans htaken)
  · rw [← hc.managed id]
    cases hmanaged : (c.list id).managed with
    | true => simp [hc.locked id hmanaged]
    | false =>
      rw [hc.enabled id hmanaged]
      constructor
      · rintro ⟨r, hmem, families, encodings, selected, rfl⟩
        exact ⟨rfl, families, encodings, selected, hmem⟩
      · rintro ⟨-, families, encodings, selected, hmem⟩
        exact ⟨_, hmem, families, encodings, selected, rfl⟩

open Preference in
/-- The panel is shown twice, and the serif family changes in between: the request goes out with the
first family, is answered with the two families that three names give, and enables every list but the
one that policy locks.  A `Shutdown` behind it changes nothing. -/
theorem fetch_at_most_once_georgia :
    let catalog : Catalog := ⟨["Georgia ", "Arial", "georgia"]⟩
    let store := Store.withFontDefaults.edited [.lock charsetKey (.text "UTF-8")]
    let history := (start store default).run catalog
    let events : List Event := [.act (.showPanel .fonts),
      .act (.write serifFamilyKey (.text "Georgia") "sync"), .act (.showPanel .help),
      .act (.showPanel .fonts), .shutdown, .work, .work, .act .drainWorker]
    let x := history events
    (history [.act (.showPanel .fonts)]).sent
      = [⟨["Times New Roman", "Courier New", "UTF-8"]⟩] ∧
    x.sent.length ≤ 1 ∧ x.taken = [⟨["Times New Roman", "Courier New", "UTF-8"]⟩] ∧
    x.answered = [.fonts [⟨"Arial", "Arial"⟩, ⟨"Georgia", "Georgia"⟩] Encoding.choices
      ["Times New Roman", "Courier New", "UTF-8"]] ∧
    x.applied = x.answered ∧
    ∃ c, x.app.page.controls? = some c ∧ (c.list .serifFamily).disabled = false ∧
      (c.list .fixedFamily).disabled = false ∧ (c.list .encoding).disabled = true := by
  intro catalog store history events x
  have hx : (start store default).run catalog events = x := rfl
  obtain ⟨-, hfirst, -⟩ := fetch_at_most_once catalog store default []
  obtain ⟨honce, -, -, -, -, hanswers, -, happlied, -, c, hc, hlists⟩ :=
    fetch_at_most_once catalog store default events
  rw [hx] at honce hanswers happlied hc hlists
  -- nothing was shown before the first event
  have hshows : ((start store default).run catalog []).Shows (.act (.showPanel .fonts)) :=
    ⟨_, rfl, rfl, rfl⟩
  have hsent := ((hfirst (.act (.showPanel .fonts))).resolve_right
    fun hlate => hlate.1 ⟨hshows, not_met_nil⟩).2.2.1
  have hselected : [((start store default).app.store.getText? serifFamilyKey).getD "",
      ((start store default).app.store.getText? fixedFamilyKey).getD "",
      ((start store default).app.store.getText? charsetKey).getD ""]
        = ["Times New Roman", "Courier New", "UTF-8"] := by
    decide +kernel +zetaReduce
  have hstate : x.present = true ∧ x.app.responses = [] ∧
      x.taken = [⟨["Times New Roman", "Courier New", "UTF-8"]⟩] := by
    decide +kernel +zetaReduce
  obtain ⟨hpresent, hnone, htaken⟩ := hstate
  have hfamilies : catalog.families = .ok [⟨"Arial", "Arial"⟩, ⟨"Georgia", "Georgia"⟩] := by
    decide +kernel +zetaReduce
  have hlocked : ∀ id ∈ ListId.all, store.isManaged id.preferenceKey = decide (id = .encoding) := by
    decide +kernel +zetaReduce
  have hanswered : x.answered = [.fonts [⟨"Arial", "Arial"⟩, ⟨"Georgia", "Georgia"⟩]
      Encoding.choices ["Times New Roman", "Courier New", "UTF-8"]] := by
    have hforall := hanswers (.inl hpresent)
    rw [htaken] at hforall
    obtain ⟨r, rest, hr, hrest, hcons⟩ := List.forall₂_cons_left_iff.1 hforall
    rw [hcons, List.forall₂_nil_left_iff.1 hrest]
    cases hr with
    | fonts h =>
      cases hfamilies.symm.trans h
      rfl
    | failure h => exact absurd (hfamilies.symm.trans h) (by simp)
  rw [hnone, List.append_nil] at happlied
  have henabled : ∀ id : ListId, (c.list id).disabled = false ↔ id ≠ .encoding := by
    intro id
    rw [(hlists id).2, hlocked id (by cases id <;> simp [ListId.all]), decide_eq_false_iff_not,
      ← happlied, hanswered]
    exact and_iff_left ⟨_, _, _, List.mem_singleton_self _⟩
  refine ⟨hsent.trans (congrArg (fun selected => [FetchRequest.mk selected]) hselected), honce,
    htaken, hanswered, happlied.symm, c, hc, (henabled _).2 (by simp), (henabled _).2 (by simp), ?_⟩
  rw [← Bool.not_eq_false, henabled]
  simp

end Exchange
end FontPreferences
