import FontPreferences.Proofs.Page.Writes
import FontPreferences.Proofs.SelectionList.WellFormed

/-
Reading the store again forgets how the page came to be.

A resynchronization overwrites what a history can have left in a page: the raw position of a slider
between two values, a selection that is out of date, a sample that was updated from outside, a lock
that is gone.

* `syncSlider_congr`, `SelectionList.syncList_congr`: what a control becomes depends on the store
  alone; `Controls.synced_congr` says so of all controls at once;
* `Page.Regular p strings`: what the argument needs of a page beside its sliders, with a lemma for
  each operation; `regular_run`: it holds in every state of a page;
* `resync_resync`: reading the store a second time changes nothing;
* `resync_forgets_history`: two pages with any two histories look the same after it.

A sample keeps its family when the stored one is empty, and the minimum sample is never given one.
-/
namespace FontPreferences

open Preference (Store Value)

/-! ### The store as the controls read it -/

namespace Preference.Store

/-- Every preference that a control is bound to has a value of the kind that the control needs. -/
structure Kinded (s : Store) : Prop where
  integer : ∀ id : SliderId, ∃ n, s.getInteger? id.preferenceKey = some n
  text : ∀ id : ListId, ∃ text, s.getText? id.preferenceKey = some text

theorem OverFontDefaults.kinded {s : Store} (h : s.OverFontDefaults) : s.Kinded :=
  ⟨getInteger?_eq_some h, getText?_eq_some h⟩

theorem SameLayers.refl (s : Store) : s.SameLayers s :=
  ⟨rfl, rfl, rfl⟩

theorem SameLayers.isManaged {s t : Store} (h : s.SameLayers t) (key : String) :
    s.isManaged key = t.isManaged key := by
  rw [Store.isManaged, h.managed, Store.isManaged]

theorem SameLayers.getInteger? {s t : Store} (h : s.SameLayers t) (key : String) :
    s.getInteger? key = t.getInteger? key :=
  getInteger?_congr h.get? key

theorem SameLayers.getText? {s t : Store} (h : s.SameLayers t) (key : String) :
    s.getText? key = t.getText? key :=
  getText?_congr h.get? key

theorem Kinded.congr {s t : Store} (h : s.Kinded) (hsame : s.SameLayers t) : t.Kinded :=
  ⟨fun id => hsame.getInteger? id.preferenceKey ▸ h.integer id,
    fun id => hsame.getText? id.preferenceKey ▸ h.text id⟩

end Preference.Store

/-! ### Controls -/

/-- Two sliders that the page builds for the same purpose differ in where they stand and in the lock
alone. -/
theorem Slider.BuiltFor.eq_of {s t : Slider} {id : SliderId} (hs : s.BuiltFor id)
    (ht : t.BuiltFor id) (hposition : s.position = t.position) (hvalue : s.value = t.value)
    (hdisabled : s.disabled = t.disabled) : s = t := by
  have hid := hs.id_eq.trans ht.id_eq.symm
  have hmap := hs.map_eq.trans ht.map_eq.symm
  have hcontinuous := hs.plain.trans ht.plain.symm
  have hsteps := hs.steps_eq.trans ht.steps_eq.symm
  have hchange := hs.onChange.trans ht.onChange.symm
  have hpreference := hs.onPreferenceChange.trans ht.onPreferenceChange.symm
  cases s
  cases t
  simp_all only

theorem Controls.eq_of {c c' : Controls} (hslider : ∀ id, c.slider id = c'.slider id)
    (hlist : ∀ id, c.list id = c'.list id) : c = c' := by
  have hserif := hslider .serifSize
  have hfixed := hslider .fixedSize
  have hminimum := hslider .minimumSize
  have hserifFamily := hlist .serifFamily
  have hfixedFamily := hlist .fixedFamily
  have hencoding := hlist .encoding
  cases c
  cases c'
  simp_all only [Controls.slider, Controls.list]

namespace Page

/-- A slider of the page, brought in line with a store that has an integer for it. -/
theorem syncSlider_eq {s : Slider} {id : SliderId} (h : s.Over id) {store : Store} {n : Int32}
    (hn : store.getInteger? id.preferenceKey = some n) : syncSlider store id s = { s with
      position := s.estimate (id.valueMap.closest (ValueMap.toRat n))
      value := id.valueMap.closest (ValueMap.toRat n)
      disabled := store.isManaged id.preferenceKey } := by
  rw [syncSlider, hn]
  dsimp only
  rw [h.setValue_eq, Slider.setDisabled]

/-- **What a slider becomes does not depend on where it stood, nor on its lock.** -/
theorem syncSlider_congr {s s' : Slider} {id : SliderId} (hs : s.BuiltFor id)
    (hs' : s'.BuiltFor id) {store store' : Store} (hsame : store.SameLayers store')
    (hkinded : store.Kinded) : syncSlider store' id s' = syncSlider store id s := by
  obtain ⟨n, hn⟩ := hkinded.integer id
  have hn' : store'.getInteger? id.preferenceKey = some n := (hsame.getInteger? _).symm.trans hn
  refine (builtFor_syncSlider hs' store').eq_of (builtFor_syncSlider hs store) ?_ ?_ ?_
  · rw [syncSlider_eq hs'.toOver hn', syncSlider_eq hs.toOver hn]
    exact Slider.estimate_congr (hs'.map_eq.trans hs.map_eq.symm)
      (hs'.steps_eq.trans hs.steps_eq.symm) _
  · rw [syncSlider_eq hs'.toOver hn', syncSlider_eq hs.toOver hn]
  · rw [syncSlider_disabled, syncSlider_disabled, hsame.isManaged]

end Page

namespace Controls

variable {c c' : Controls}

/-- **What the controls become depends on the store alone**, and on what the lists offer. -/
theorem synced_congr (hbuilt : ∀ id, (c.slider id).BuiltFor id)
    (hbuilt' : ∀ id, (c'.slider id).BuiltFor id) (h : c.WellFormed) (h' : c'.WellFormed)
    (hlists : ∀ id, (c.list id).Reselected (c'.list id)) {s s' : Store} (hsame : s.SameLayers s')
    (hkinded : s.Kinded) : c'.synced s' = c.synced s := by
  refine eq_of (fun id => ?_) fun id => ?_
  · rw [slider_synced, slider_synced]
    exact Page.syncSlider_congr (hbuilt id) (hbuilt' id) hsame hkinded
  · obtain ⟨text, htext⟩ := hkinded.text id
    have htext' : s'.getText? id.preferenceKey = some text := (hsame.getText? _).symm.trans htext
    rw [list_synced, list_synced]
    exact SelectionList.syncList_congr (hlists id) (h id) (h' id) htext htext'

theorem synced_synced (hbuilt : ∀ id, (c.slider id).BuiltFor id) (h : c.WellFormed) {s : Store}
    (hkinded : s.Kinded) : (c.synced s).synced s = c.synced s := by
  refine synced_congr hbuilt (fun id => ?_) h (h.synced s) (fun id => ?_) (.refl s) hkinded
  · rw [slider_synced]
    exact Page.builtFor_syncSlider (hbuilt id) s
  · rw [list_synced]
    exact SelectionList.reselected_syncList s id _

end Controls

/-! ### Every state of a page -/

/-- An event that a page offers: a sample can be updated from outside, but the minimum sample is
given no family. -/
def PageEvent.Offered (e : PageEvent) : Prop :=
  ∀ size family, e ≠ .render .minimumSize size (some family)

namespace Page

/-- The page has its strings, lists that a page can have, and no family in the minimum sample. -/
structure Regular (p : Page) (strings : LocalizedStrings) : Prop where
  strings_eq : p.strings = strings
  lists : ∀ c, p.controls? = some c → c.WellFormed
  minimum : (p.samples.get .minimumSize).family = none

variable {p : Page} {c : Controls} {strings : LocalizedStrings}

theorem regular_new (strings : LocalizedStrings) : (new strings).Regular strings :=
  ⟨rfl, fun _ hc => absurd hc (by simp [new, controls?]), rfl⟩

theorem Regular.withControls (h : p.Regular strings) (hc : c.WellFormed) :
    (p.withControls c).Regular strings := by
  refine ⟨(withControls_strings p c).trans h.strings_eq, fun c' hc' => ?_, ?_⟩
  · rw [Page.withControls] at hc'
    split at hc'
    · exact h.lists c' hc'
    · exact Option.some_inj.1 hc' ▸ hc
  · rw [withControls_samples]
    exact h.minimum

theorem Regular.renderSample (h : p.Regular strings) (id : SliderId) (size : Int32)
    {family : Option String} (hfamily : id = .minimumSize → family = none) :
    (p.renderSample id size family).Regular strings := by
  refine ⟨h.strings_eq, h.lists, ?_⟩
  rw [get_renderSample]
  split
  · next heq =>
    rw [hfamily heq.symm, SampleRegion.family_render_none, ← heq]
    exact h.minimum
  · exact h.minimum

theorem Regular.refreshSamples (h : p.Regular strings) (store : Store) :
    (p.refreshSamples store).Regular strings := by
  rw [Page.refreshSamples]
  split
  · exact h
  · -- the serif sample first, then the fixed-width one, and the minimum one without a family
    refine ((h.renderSample .serifSize _ ?_).renderSample .fixedSize _ ?_).renderSample
      .minimumSize _ fun _ => rfl
    · exact fun heq => absurd heq (by simp)
    · exact fun heq => absurd heq (by simp)

theorem Regular.resync (h : p.Regular strings) (store : Store) :
    (p.resync store).Regular strings := by
  cases hc : p.controls? with
  | none =>
    rw [Page.resync, hc]
    exact h
  | some c =>
    rw [resync_eq hc]
    exact (h.withControls ((h.lists c hc).synced store)).refreshSamples store

theorem Regular.receiveFonts (h : p.Regular strings) (fonts encodings : List Choice)
    (selected : List String) : (p.receiveFonts fonts encodings selected).Regular strings := by
  cases hc : p.controls? with
  | none =>
    rw [Page.receiveFonts, hc]
    exact h
  | some c =>
    rw [receiveFonts_eq hc]
    exact h.withControls ((h.lists c hc).filled fonts encodings selected)

theorem Regular.takeMotion (h : p.Regular strings) (hc : p.controls? = some c) {id : SliderId}
    (hbuilt : (c.slider id).BuiltFor id) {m : Motion} (hm : (c.slider id).Moves m) :
    (p.takeMotion c id m).page.Regular strings := by
  have hmoved := h.withControls ((h.lists c hc).putSlider id m.slider)
  rw [takeMotion_page p c hbuilt hm]
  split
  · exact hmoved
  · exact hmoved.renderSample id _ fun _ => rfl

theorem Regular.select (h : p.Regular strings) (id : ListId) (index : Nat) :
    (p.select id index).page.Regular strings := by
  rw [Page.select]
  split
  · exact h
  · next c hc =>
    have hlists := h.lists c hc
    exact h.withControls (hlists.putList id ((hlists id).select index))

theorem Regular.setUp (h : p.Regular strings) (store : Store) : (p.setUp store).Regular strings := by
  rw [Page.setUp]
  split
  · exact h
  · refine ⟨h.strings_eq, fun c hc => ?_, h.minimum⟩
    rw [← Option.some_inj.1 hc]
    exact Controls.wellFormed_startControls p store

theorem Regular.appear (h : p.Regular strings) : p.appear.1.Regular strings := by
  refine ⟨(appear_strings p).trans h.strings_eq, fun c hc => ?_, ?_⟩
  · rw [appear_controls?] at hc
    exact h.lists c hc
  · rw [appear_samples]
    exact h.minimum

end Page

namespace Mounted

variable {m : Mounted} {strings : LocalizedStrings}

theorem regular_outcome (hbuilt : m.page.Built) (h : m.page.Regular strings) {e : PageEvent}
    (he : e.Offered) : (m.outcome e).page.Regular strings := by
  cases e with
  | setUp => exact h.setUp m.store
  | appear => exact h.appear
  | receive fonts encodings selected => exact h.receiveFonts fonts encodings selected
  | resync => exact h.resync m.store
  | refresh => exact h.refreshSamples m.store
  | render id size family =>
    refine h.renderSample id size fun hid => ?_
    cases family with
    | none => rfl
    | some family => exact absurd (hid ▸ rfl) (he size family)
  | input id position =>
    show (m.page.input id position).page.Regular strings
    rw [Page.input]
    split
    · exact h
    · next c hc => exact h.takeMotion hc (hbuilt c hc id) (Slider.moves_input _ position)
  | nudge id step =>
    show (m.page.nudge id step).page.Regular strings
    rw [Page.nudge]
    split
    · exact h
    · next c hc => exact h.takeMotion hc (hbuilt c hc id) (Slider.moves_nudge _ step)
  | pick id index => exact h.select id index
  | outside store => exact h

/-- **In every state of a page it is regular.** -/
theorem regular_run (strings : LocalizedStrings) (store : Store) {events : List PageEvent}
    (hoffered : ∀ e ∈ events, e.Offered) :
    ((new strings store).run events).page.Regular strings := by
  have hstart : (new strings store).page.Built ∧ (new strings store).page.Regular strings :=
    ⟨Page.built_new strings, Page.regular_new strings⟩
  refine (List.foldlRecOn (motive := fun m => m.page.Built ∧ m.page.Regular strings) events step
    hstart fun m ⟨hbuilt, hregular⟩ e he => ?_).2
  rw [step_page]
  exact ⟨built_outcome hbuilt e, regular_outcome hbuilt hregular (hoffered e he)⟩

end Mounted

/-! ### Reading the store again -/

/-- A sample that has been rendered shows no more when it is rendered again. -/
theorem SampleRegion.render_render (r : SampleRegion) (sentence : String) (size : Int32)
    (family : Option String) :
    (r.render sentence size family).render sentence size family = r.render sentence size family := by
  rw [render, render, ← Option.or_assoc, Option.or_self]

theorem Page.eq_of {p q : Page} {c : Controls} (hstrings : p.strings = q.strings)
    (hsamples : ∀ id, p.samples.get id = q.samples.get id) (hp : p.controls? = some c)
    (hq : q.controls? = some c) (hshown : p.hasShown = q.hasShown) : p = q := by
  have hregions : p.samples = q.samples := by
    have hserif := hsamples .serifSize
    have hfixed := hsamples .fixedSize
    have hminimum := hsamples .minimumSize
    cases hsp : p.samples
    cases hsq : q.samples
    simp_all only [Samples.get]
  have hstate : p.state = q.state := by
    rw [controls?] at hp hq
    rw [hasShown, hasShown] at hshown
    cases hsp : p.state <;> cases hsq : q.state <;> simp_all
  cases p
  cases q
  simp_all only

namespace Page

variable {p : Page} {c : Controls}

/-- **Reading the store a second time changes nothing.** -/
theorem resync_resync (hc : p.controls? = some c) (hbuilt : ∀ id, (c.slider id).BuiltFor id)
    (h : c.WellFormed) {store : Store} (hkinded : store.Kinded) :
    (p.resync store).resync store = p.resync store := by
  have honce := resync_controls? hc store
  have hsentence : (p.resync store).sentence = p.sentence := by
    rw [sentence, resync_strings hc, sentence]
  have htwice : ((p.resync store).resync store).controls? = some (c.synced store) := by
    rw [resync_controls? honce, Controls.synced_synced hbuilt h hkinded]
  refine eq_of (resync_strings honce store) (fun id => ?_) htwice honce
    (resync_hasShown honce store)
  rw [resync_samples honce, Controls.synced_synced hbuilt h hkinded, hsentence,
    resync_samples hc, SampleRegion.render_render]

/-- A resynchronization gives a sample the stored family, if that is not empty. -/
theorem family_resync (hc : p.controls? = some c) (store : Store) (id : SliderId) :
    ((p.resync store).samples.get id).family
      = ((storedFamily store id).filter (· ≠ "")).or (p.samples.get id).family := by
  rw [resync_samples hc, SampleRegion.render]

/-- The family of a sample that has a stored family, or is never given one, does not depend on the
page. -/
theorem family_resync_congr {q : Page} {c' : Controls} (hp : p.controls? = some c)
    (hq : q.controls? = some c') {strings : LocalizedStrings} (hpr : p.Regular strings)
    (hqr : q.Regular strings) {store store' : Store} (hsame : store.SameLayers store')
    {id : SliderId} (hstored : storedFamily store id ≠ some "") :
    ((p.resync store).samples.get id).family = ((q.resync store').samples.get id).family := by
  rw [family_resync hp, family_resync hq, storedFamily_congr hsame.get?]
  cases hfamily : storedFamily store' id with
  | some family =>
    have hne : family ≠ "" := by
      rintro rfl
      exact hstored ((storedFamily_congr hsame.get? id).trans hfamily)
    simp [Option.filter, hne]
  | none =>
    -- there is a stored family, be it empty, for every sample but the minimum one
    cases id with
    | serifSize | fixedSize => exact absurd hfamily (by simp [storedFamily])
    | minimumSize => exact hpr.minimum.trans hqr.minimum.symm

end Page

/-- A list with nothing selected. -/
def SelectionList.unselected (l : SelectionList) : SelectionList :=
  { l with selected := none }

theorem SelectionList.reselected_of_unselected {l l' : SelectionList}
    (h : l.unselected = l'.unselected) : l.Reselected l' := by
  simp only [unselected, SelectionList.mk.injEq] at h
  exact ⟨h.1.symm, h.2.2.1.symm, h.2.2.2.symm⟩

/-- **Reading the store again forgets history.**  Take two pages with the same strings, over stores
with the same contents, whose lists differ in their selections at most.  However they came about,
they have the same controls once they have read the store again, and the same samples but for the
family of a sample whose stored family is empty; and reading it once more changes nothing. -/
theorem resync_forgets_history (strings : LocalizedStrings) (store₁ store₂ : Store)
    {events₁ events₂ : List PageEvent} (hoffered₁ : ∀ e ∈ events₁, e.Offered)
    (hoffered₂ : ∀ e ∈ events₂, e.Offered) :
    let m₁ := (Mounted.new strings store₁).run events₁
    let m₂ := (Mounted.new strings store₂).run events₂
    let q₁ := m₁.page.resync m₁.store
    let q₂ := m₂.page.resync m₂.store
    m₁.page.isInitialized = true → m₂.page.isInitialized = true →
      (∀ id, (m₁.page.list? id).map (·.unselected) = (m₂.page.list? id).map (·.unselected)) →
      m₁.store.SameLayers m₂.store → m₁.store.Kinded →
      (∃ c, q₁.controls? = some c ∧ q₂.controls? = some c) ∧
      (∀ id, (q₁.samples.get id).size = (q₂.samples.get id).size ∧
        (q₁.samples.get id).text = (q₂.samples.get id).text ∧
        (Page.storedFamily m₁.store id ≠ some "" →
          (q₁.samples.get id).family = (q₂.samples.get id).family)) ∧
      q₁.resync m₁.store = q₁ ∧ q₂.resync m₂.store = q₂ := by
  intro m₁ m₂ q₁ q₂ hinit₁ hinit₂ hunselected hsame hkinded
  obtain ⟨c₁, hc₁⟩ := Option.isSome_iff_exists.1 hinit₁
  obtain ⟨c₂, hc₂⟩ := Option.isSome_iff_exists.1 hinit₂
  have hbuilt₁ := Mounted.built_run strings store₁ events₁ c₁ hc₁
  have hbuilt₂ := Mounted.built_run strings store₂ events₂ c₂ hc₂
  have hregular₁ := Mounted.regular_run strings store₁ hoffered₁
  have hregular₂ := Mounted.regular_run strings store₂ hoffered₂
  have hlists₁ := hregular₁.lists c₁ hc₁
  have hlists₂ := hregular₂.lists c₂ hc₂
  have hlists : ∀ id, (c₁.list id).Reselected (c₂.list id) := by
    intro id
    have hid := hunselected id
    rw [Page.list?_eq hc₁, Page.list?_eq hc₂] at hid
    exact SelectionList.reselected_of_unselected (Option.some_inj.1 hid)
  have hsynced : c₂.synced m₂.store = c₁.synced m₁.store :=
    Controls.synced_congr hbuilt₁ hbuilt₂ hlists₁ hlists₂ hlists hsame hkinded
  have hsentence : m₂.page.sentence = m₁.page.sentence := by
    rw [Page.sentence, hregular₂.strings_eq, Page.sentence, hregular₁.strings_eq]
  refine ⟨⟨c₁.synced m₁.store, Page.resync_controls? hc₁ _, ?_⟩, fun id => ⟨?_, ?_, ?_⟩,
    Page.resync_resync hc₁ hbuilt₁ hlists₁ hkinded,
    Page.resync_resync hc₂ hbuilt₂ hlists₂ (hkinded.congr hsame)⟩
  · rw [← hsynced]
    exact Page.resync_controls? hc₂ _
  · rw [Page.resync_samples hc₁, Page.resync_samples hc₂, hsynced]
    rfl
  · rw [Page.resync_samples hc₁, Page.resync_samples hc₂, hsynced, hsentence]
    rfl
  · exact Page.family_resync_congr hc₁ hc₂ hregular₁ hregular₂ hsame

open Preference in
/-- Font lists that selected differently, a slider between two values and a sample that was updated
from outside leave no trace. -/
theorem resync_forgets_inputs :
    let fonts : List Choice := [⟨"Arial", "Arial"⟩, ⟨"Times New Roman", "Times New Roman"⟩]
    let m₁ := (Mounted.new default .withFontDefaults).run [.setUp,
      .receive fonts [] ["Arial", "", ""], .input .serifSize 40, .outside .withFontDefaults]
    let m₂ := (Mounted.new default .withFontDefaults).run [.setUp,
      .receive fonts [] ["Times New Roman", "", ""], .render .serifSize 72 (some "Verdana"),
      .outside .withFontDefaults]
    m₁.page.controls? ≠ m₂.page.controls? ∧ m₁.page.samples ≠ m₂.page.samples ∧
      (m₁.page.resync m₁.store).controls? = (m₂.page.resync m₂.store).controls? ∧
      ((m₁.page.resync m₁.store).samples.get .serifSize).family
        = ((m₂.page.resync m₂.store).samples.get .serifSize).family := by
  intro fonts m₁ m₂
  have hstore₁ : m₁.store = .withFontDefaults := rfl
  have hstore₂ : m₂.store = .withFontDefaults := rfl
  -- as one evaluation of both runs
  have hchecks : (m₁.page.isInitialized = true ∧ m₂.page.isInitialized = true) ∧
      (∀ id ∈ ListId.all, (m₁.page.list? id).map (·.unselected)
        = (m₂.page.list? id).map (·.unselected)) ∧
      Page.storedFamily m₁.store .serifSize ≠ some "" ∧
      m₁.page.controls? ≠ m₂.page.controls? ∧ m₁.page.samples ≠ m₂.page.samples := by
    decide +kernel
  obtain ⟨⟨hinit₁, hinit₂⟩, hlists, hstored, hcontrols, hsamples⟩ := hchecks
  obtain ⟨⟨c, hq₁, hq₂⟩, hsame, -⟩ := resync_forgets_history default .withFontDefaults
    .withFontDefaults (by simp [PageEvent.Offered]) (by simp [PageEvent.Offered]) hinit₁ hinit₂
    (fun id => hlists id (by cases id <;> decide)) (hstore₁.trans hstore₂.symm ▸ .refl _)
    (hstore₁ ▸ Store.overFontDefaults_withFontDefaults.kinded)
  obtain ⟨-, -, hfamily⟩ := hsame .serifSize
  exact ⟨hcontrols, hsamples, hq₁.trans hq₂.symm, hfamily hstored⟩

end FontPreferences
