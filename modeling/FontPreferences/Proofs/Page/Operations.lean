import FontPreferences.Page
import FontPreferences.Proofs.Preference.Announcement
import FontPreferences.Proofs.SelectionList.Running
import FontPreferences.Proofs.Slider.Motion

/-
What each operation does to a page whose controls are built.

An operation is described by four projections of the page it leads to: `controls?`, `samples`,
`strings` and `hasShown`.  The lemmas are named operation first (`resync_controls?`,
`receiveFonts_samples`, …), and are all that later proofs need to know of the operations.
-/
namespace FontPreferences

theorem Samples.get_put (s : Samples) (id id' : SliderId) (r : SampleRegion) :
    (s.put id r).get id' = if id' = id then r else s.get id' := by
  cases id <;> cases id' <;> rfl

/-- Without a family a sample keeps the one that it has. -/
theorem SampleRegion.family_render_none (r : SampleRegion) (sentence : String) (size : Int32) :
    (r.render sentence size none).family = r.family := by
  rw [render, Option.filter_none, Option.none_or]

namespace Controls

theorem slider_putSlider (c : Controls) (id id' : SliderId) (s : Slider) :
    (c.putSlider id s).slider id' = if id' = id then s else c.slider id' := by
  cases id <;> cases id' <;> rfl

theorem list_putSlider (c : Controls) (id : SliderId) (s : Slider) (id' : ListId) :
    (c.putSlider id s).list id' = c.list id' := by
  cases id <;> cases id' <;> rfl

theorem list_putList (c : Controls) (id id' : ListId) (l : SelectionList) :
    (c.putList id l).list id' = if id' = id then l else c.list id' := by
  cases id <;> cases id' <;> rfl

theorem slider_putList (c : Controls) (id : ListId) (l : SelectionList) (id' : SliderId) :
    (c.putList id l).slider id' = c.slider id' := by
  cases id <;> cases id' <;> rfl

theorem slider_mapSliders (c : Controls) (f : SliderId → Slider → Slider) (id : SliderId) :
    (c.mapSliders f).slider id = f id (c.slider id) := by
  cases id <;> rfl

theorem list_mapSliders (c : Controls) (f : SliderId → Slider → Slider) (id : ListId) :
    (c.mapSliders f).list id = c.list id := by
  cases id <;> rfl

theorem slider_mapLists (c : Controls) (f : ListId → SelectionList → SelectionList)
    (id : SliderId) : (c.mapLists f).slider id = c.slider id := by
  cases id <;> rfl

theorem list_mapLists (c : Controls) (f : ListId → SelectionList → SelectionList) (id : ListId) :
    (c.mapLists f).list id = f id (c.list id) := by
  cases id <;> rfl

/-- The controls brought in line with a store. -/
def synced (c : Controls) (store : Preference.Store) : Controls :=
  (c.mapSliders (Page.syncSlider store)).mapLists (Page.syncList store)

theorem slider_synced (c : Controls) (store : Preference.Store) (id : SliderId) :
    (c.synced store).slider id = Page.syncSlider store id (c.slider id) := by
  rw [synced, slider_mapLists, slider_mapSliders]

theorem list_synced (c : Controls) (store : Preference.Store) (id : ListId) :
    (c.synced store).list id = Page.syncList store id (c.list id) := by
  rw [synced, list_mapLists, list_mapSliders]

/-- The controls with their lists filled: the selected values are given for the serif family, the
fixed-width family and the encoding. -/
def filled (c : Controls) (fonts encodings : List Choice) (selected : List String) : Controls :=
  c.mapLists fun id l =>
    match id with
    | .serifFamily => l.populate fonts selected[0]?
    | .fixedFamily => l.populate fonts selected[1]?
    | .encoding => l.populate encodings selected[2]?

end Controls

namespace SelectionList

/-- At most the selection of a list has changed. -/
structure Reselected (l l' : SelectionList) : Prop where
  choices : l'.choices = l.choices
  disabled : l'.disabled = l.disabled
  managed : l'.managed = l.managed

theorem Reselected.refl (l : SelectionList) : l.Reselected l :=
  ⟨rfl, rfl, rfl⟩

theorem reselected_select (l : SelectionList) (index : Nat) : l.Reselected (l.select index).1 := by
  rcases select_cases l index with hrefused | ⟨choice, -, -, hpicked⟩
  · rw [hrefused]
    exact .refl l
  · rw [hpicked]
    exact ⟨rfl, rfl, rfl⟩

theorem reselected_syncList (store : Preference.Store) (id : ListId) (l : SelectionList) :
    l.Reselected (Page.syncList store id l) := by
  rw [Page.syncList]
  split
  · exact .refl l
  · split
    · exact ⟨rfl, rfl, rfl⟩
    · exact .refl l

end SelectionList

namespace ListId

/-- The place of a list among the selected values of a request. -/
def place : ListId → Nat
  | .serifFamily => 0
  | .fixedFamily => 1
  | .encoding => 2

/-- The choices that an answer offers in a list. -/
def offered (fonts encodings : List Choice) : ListId → List Choice
  | .serifFamily => fonts
  | .fixedFamily => fonts
  | .encoding => encodings

end ListId

theorem Controls.slider_filled (c : Controls) (fonts encodings : List Choice)
    (selected : List String) (id : SliderId) :
    (c.filled fonts encodings selected).slider id = c.slider id :=
  slider_mapLists ..

theorem Controls.list_filled (c : Controls) (fonts encodings : List Choice) (selected : List String)
    (id : ListId) : (c.filled fonts encodings selected).list id
      = (c.list id).populate (id.offered fonts encodings) selected[id.place]? := by
  cases id <;> rfl

namespace Page

variable {p : Page} {c : Controls}

theorem list?_eq (h : p.controls? = some c) (id : ListId) : p.list? id = some (c.list id) := by
  rw [list?, h]
  rfl

theorem list_eq_of_list? (h : p.controls? = some c) {id : ListId} {l : SelectionList}
    (hl : p.list? id = some l) : c.list id = l :=
  Option.some_inj.1 ((list?_eq h id).symm.trans hl)

/-! ### Replacing the controls, rendering a sample -/

theorem withControls_controls? (h : p.controls? = some c) (c' : Controls) :
    (p.withControls c').controls? = some c' := by
  rw [controls?] at h
  rw [withControls]
  split at h
  · exact absurd h (by simp)
  · rfl

theorem withControls_samples (p : Page) (c' : Controls) :
    (p.withControls c').samples = p.samples := by
  rw [withControls]
  split <;> rfl

theorem withControls_strings (p : Page) (c' : Controls) :
    (p.withControls c').strings = p.strings := by
  rw [withControls]
  split <;> rfl

theorem withControls_hasShown (p : Page) (c' : Controls) :
    (p.withControls c').hasShown = p.hasShown := by
  unfold withControls hasShown
  cases hstate : p.state with
  | uninitialized => simp [hstate]
  | initialized c shown => rfl

theorem get_renderSample (p : Page) (id id' : SliderId) (size : Int32) (family : Option String) :
    (p.renderSample id size family).samples.get id'
      = if id' = id then (p.samples.get id).render p.sentence size family else p.samples.get id' :=
  Samples.get_put ..

/-! ### Reading the store again -/

/-- The family that a resynchronization gives the sample of a slider. -/
def storedFamily (store : Preference.Store) : SliderId → Option String
  | .serifSize => some ((store.getText? Preference.serifFamilyKey).getD "")
  | .fixedSize => some ((store.getText? Preference.fixedFamilyKey).getD "")
  | .minimumSize => none

theorem storedFamily_congr {s s' : Preference.Store} (h : ∀ key, s'.get? key = s.get? key)
    (id : SliderId) : storedFamily s' id = storedFamily s id := by
  cases id <;> simp only [storedFamily, Preference.Store.getText?_congr h]

theorem resync_eq (h : p.controls? = some c) (store : Preference.Store) :
    p.resync store = (p.withControls (c.synced store)).refreshSamples store := by
  rw [resync, h]
  rfl

theorem resync_controls? (h : p.controls? = some c) (store : Preference.Store) :
    (p.resync store).controls? = some (c.synced store) := by
  have hsynced := withControls_controls? h (c.synced store)
  rw [resync_eq h, refreshSamples, hsynced]
  exact hsynced

theorem resync_samples (h : p.controls? = some c) (store : Preference.Store) (id : SliderId) :
    (p.resync store).samples.get id = (p.samples.get id).render p.sentence
      ((c.synced store).slider id).value (storedFamily store id) := by
  have hsynced := withControls_controls? h (c.synced store)
  have hsentence : (p.withControls (c.synced store)).sentence = p.sentence := by
    rw [sentence, withControls_strings, sentence]
  rw [resync_eq h, refreshSamples, hsynced, ← hsentence, ← withControls_samples p (c.synced store)]
  cases id <;> rfl

theorem resync_strings (h : p.controls? = some c) (store : Preference.Store) :
    (p.resync store).strings = p.strings := by
  rw [resync_eq h, refreshSamples, withControls_controls? h]
  exact withControls_strings ..

theorem resync_hasShown (h : p.controls? = some c) (store : Preference.Store) :
    (p.resync store).hasShown = p.hasShown := by
  rw [resync_eq h, refreshSamples, withControls_controls? h]
  exact withControls_hasShown ..

/-- A list that only policy may disable selects by the stored value. -/
theorem syncList_eq {l : SelectionList} (h : l.disabled = true → l.managed = true)
    {store : Preference.Store} {id : ListId} {value : String}
    (hvalue : store.getText? id.preferenceKey = some value) :
    syncList store id l = l.selectValue value := by
  have hready : ¬((!l.choices.isEmpty && l.disabled && !l.managed) = true) := by
    intro hwaits
    simp only [Bool.and_eq_true, Bool.not_eq_true'] at hwaits
    exact absurd ((h hwaits.1.2).symm.trans hwaits.2) (by simp)
  rw [syncList, if_neg hready, hvalue]

theorem syncSlider_disabled (store : Preference.Store) (id : SliderId) (s : Slider) :
    (syncSlider store id s).disabled = store.isManaged id.preferenceKey := rfl

theorem over_syncSlider {s : Slider} {id : SliderId} (h : s.Over id) (store : Preference.Store) :
    (syncSlider store id s).Over id := by
  rw [syncSlider]
  cases store.getInteger? id.preferenceKey with
  | none => exact ⟨h.map_eq, h.plain, h.steps_eq, h.mem⟩
  | some n =>
    dsimp only
    rw [h.setValue_eq]
    exact ⟨h.map_eq, h.plain, h.steps_eq, ValueMap.closest_mem _ _⟩

theorem syncSlider_hooks {s : Slider} {id : SliderId} (h : s.Over id) (store : Preference.Store) :
    (syncSlider store id s).id = s.id ∧ (syncSlider store id s).onChange = s.onChange
      ∧ (syncSlider store id s).onPreferenceChange = s.onPreferenceChange := by
  rw [syncSlider]
  cases store.getInteger? id.preferenceKey with
  | none => exact ⟨rfl, rfl, rfl⟩
  | some n =>
    dsimp only
    rw [h.setValue_eq]
    exact ⟨rfl, rfl, rfl⟩

theorem builtFor_syncSlider {s : Slider} {id : SliderId} (h : s.BuiltFor id)
    (store : Preference.Store) : (syncSlider store id s).BuiltFor id := by
  obtain ⟨hid, hchange, hpreference⟩ := syncSlider_hooks h.toOver store
  exact ⟨over_syncSlider h.toOver store, hid.trans h.id_eq, hchange.trans h.onChange,
    hpreference.trans h.onPreferenceChange⟩

/-- A slider in line with the store stands at the permitted value nearest to the stored one. -/
theorem nearest_syncSlider {s : Slider} {id : SliderId} (h : s.BuiltFor id)
    {store : Preference.Store} {n : Int32} (hn : store.getInteger? id.preferenceKey = some n) :
    id.valueMap.Nearest (ValueMap.toRat n) (syncSlider store id s).value := by
  have hvalue : (syncSlider store id s).value = (s.setValue n).value := by
    rw [syncSlider, hn]
    rfl
  rw [hvalue]
  exact h.nearest_setValue n

/-! ### Receiving the lists -/

theorem receiveFonts_eq (h : p.controls? = some c) (fonts encodings : List Choice)
    (selected : List String) : p.receiveFonts fonts encodings selected
      = p.withControls (c.filled fonts encodings selected) := by
  rw [receiveFonts, h]
  rfl

section receiveFonts

variable (p) (fonts encodings : List Choice) (selected : List String)

theorem receiveFonts_samples : (p.receiveFonts fonts encodings selected).samples = p.samples := by
  rw [receiveFonts]
  split
  · rfl
  · exact withControls_samples ..

theorem receiveFonts_strings : (p.receiveFonts fonts encodings selected).strings = p.strings := by
  rw [receiveFonts]
  split
  · rfl
  · exact withControls_strings ..

theorem receiveFonts_hasShown :
    (p.receiveFonts fonts encodings selected).hasShown = p.hasShown := by
  rw [receiveFonts]
  split
  · rfl
  · exact withControls_hasShown ..

end receiveFonts

/-! ### Moving a slider -/

section takeMotion

variable (p) (c) {s : Slider} {id : SliderId} {m : Motion}

/-- A motion renders the sample of its slider exactly when the slider announces a value. -/
theorem takeMotion_page (hs : s.BuiltFor id) (hm : s.Moves m) :
    (p.takeMotion c id m).page = match m.changed with
      | none => p.withControls (c.putSlider id m.slider)
      | some value => (p.withControls (c.putSlider id m.slider)).renderSample id value none := by
  rw [takeMotion]
  cases hm with
  | silent position => rfl
  | heard position =>
    simp only
    rw [hs.announce_eq]
    cases id <;> rfl

theorem takeMotion_strings (hs : s.BuiltFor id) (hm : s.Moves m) :
    (p.takeMotion c id m).page.strings = p.strings := by
  rw [takeMotion_page p c hs hm]
  split <;> exact withControls_strings ..

theorem takeMotion_hasShown (hs : s.BuiltFor id) (hm : s.Moves m) :
    (p.takeMotion c id m).page.hasShown = p.hasShown := by
  rw [takeMotion_page p c hs hm]
  split <;> exact withControls_hasShown ..

theorem takeMotion_samples (hs : s.BuiltFor id) (hm : s.Moves m) (id' : SliderId) :
    (p.takeMotion c id m).page.samples.get id' = match m.changed with
      | none => p.samples.get id'
      | some value => if id' = id then (p.samples.get id).render p.sentence value none
        else p.samples.get id' := by
  -- the page that is rendered on has its controls replaced already
  have hsentence : (p.withControls (c.putSlider id m.slider)).sentence = p.sentence := by
    rw [sentence, withControls_strings, sentence]
  rw [takeMotion_page p c hs hm, ← withControls_samples p (c.putSlider id m.slider), ← hsentence]
  split
  · rfl
  · exact get_renderSample ..

/-- The writes of a motion: none if it is silent; else the preference of the slider, after the
logical minimum for the minimum slider. -/
theorem takeMotion_writes (hs : s.BuiltFor id) (hm : s.Moves m) :
    (p.takeMotion c id m).writes = match m.changed with
      | none => []
      | some value => (if id = .minimumSize
          then [⟨Preference.minimumLogicalFontSizeKey, .integer value⟩] else [])
        ++ [⟨id.preferenceKey, .integer value⟩] := by
  rw [takeMotion]
  cases hm with
  | silent position => rfl
  | heard position =>
    simp only
    rw [hs.announce_eq]
    cases id <;> rfl

end takeMotion

theorem takeMotion_controls? (h : p.controls? = some c) {s : Slider} {id : SliderId}
    (hs : s.BuiltFor id) {m : Motion} (hm : s.Moves m) :
    (p.takeMotion c id m).page.controls? = some (c.putSlider id m.slider) := by
  rw [takeMotion_page p c hs hm]
  split <;> exact withControls_controls? h _

/-! ### Showing the page -/

theorem appear_controls? (p : Page) : p.appear.1.controls? = p.controls? := by
  rw [appear]
  split
  · next hstate => simp [controls?, hstate]
  · rfl

theorem appear_samples (p : Page) : p.appear.1.samples = p.samples := by
  rw [appear]
  split <;> rfl

theorem appear_strings (p : Page) : p.appear.1.strings = p.strings := by
  rw [appear]
  split <;> rfl

/-- A page asks for the font lists if it has its controls and has not been shown before. -/
theorem appear_asks (p : Page) : p.appear.2 = (p.isInitialized && !p.hasShown) := by
  unfold appear isInitialized controls? hasShown
  cases p.state with
  | uninitialized => rfl
  | initialized controls shown => cases shown <;> rfl

/-- A page with controls counts as shown from the first time on. -/
theorem appear_hasShown (h : p.controls? = some c) : p.appear.1.hasShown = true := by
  unfold appear hasShown
  rw [controls?] at h
  cases hstate : p.state with
  | uninitialized =>
    rw [hstate] at h
    exact absurd h (by simp)
  | initialized controls shown => cases shown <;> simp [hstate]

/-! ### Building the page -/

/-- The controls that are built over a store, before the page first reads it again. -/
def startControls (p : Page) (store : Preference.Store) : Controls where
  serifSize := buildSlider store .serifSize
  fixedSize := buildSlider store .fixedSize
  minimumSize := buildSlider store .minimumSize
  serifFamily := p.buildList store .serifFamily
  fixedFamily := p.buildList store .fixedFamily
  encoding := p.buildList store .encoding

theorem slider_startControls (p : Page) (store : Preference.Store) (id : SliderId) :
    (p.startControls store).slider id = buildSlider store id := by
  cases id <;> rfl

theorem list_startControls (p : Page) (store : Preference.Store) (id : ListId) :
    (p.startControls store).list id = p.buildList store id := by
  cases id <;> rfl

/-- A list is built disabled, managed or not. -/
theorem buildList_disabled (p : Page) (store : Preference.Store) (id : ListId) :
    (p.buildList store id).disabled = true := by
  simp [buildList, SelectionList.setManaged, SelectionList.append, SelectionList.new]

theorem setUp_new_controls? (strings : LocalizedStrings) (store : Preference.Store) :
    ((new strings).setUp store).controls? = some ((new strings).startControls store) := rfl

theorem over_create (id : SliderId) :
    ((Slider.create id id.valueMap false).install .change).Over id :=
  ⟨rfl, rfl, rfl, List.mem_cons_self⟩

theorem builtFor_buildSlider (store : Preference.Store) (id : SliderId) :
    (buildSlider store id).BuiltFor id := by
  obtain ⟨hid, hchange, hpreference⟩ := syncSlider_hooks (over_create id) store
  have hover := over_syncSlider (over_create id) store
  -- the minimum slider alone is given a second hook
  unfold buildSlider
  dsimp only
  by_cases hminimum : id = .minimumSize
  · rw [if_pos hminimum]
    refine ⟨⟨hover.map_eq, hover.plain, hover.steps_eq, hover.mem⟩, hid, hchange, ?_⟩
    rw [decide_eq_true hminimum]
    rfl
  · rw [if_neg hminimum]
    refine ⟨hover, hid, hchange, ?_⟩
    rw [decide_eq_false hminimum, hpreference]
    rfl

end Page
end FontPreferences
