import FontPreferences.Control
import FontPreferences.Localization
import FontPreferences.Preference.Store
import FontPreferences.Sample
import FontPreferences.SelectionList

/-
The settings page: its controls, its samples, and what they do to the preferences.

The page reads the store it is given, and never changes one: an operation answers with the writes it
attempts, in order, and `Write.attemptAll` carries them out.

* `input`, `nudge` and `select` are the user's; each writes the preference of its control, the
  minimum slider and the serif list one more, and nothing unless the control's value changed;
* `receiveFonts` fills the lists;
* `resync` reads the store again: sliders, selections, then samples;
* `appear` asks for the font lists, the first time only.
-/
namespace FontPreferences

/-- A write to the user's preferences. -/
structure Write where
  key : String
  value : Preference.Value
deriving DecidableEq, Repr

namespace Write

/-- The tag of the page's writes. -/
def origin : String := ""

/-- Carries a write out, unless the store refuses it. -/
def attempt (store : Preference.Store) (w : Write) : Preference.Store :=
  match store.set w.key w.value origin with
  | .ok store => store
  | .error _ => store

/-- Carries writes out in order. -/
def attemptAll (store : Preference.Store) (writes : List Write) : Preference.Store :=
  writes.foldl attempt store

end Write

/-- The sample regions of the page. -/
structure Samples where
  serif : SampleRegion
  fixed : SampleRegion
  minimum : SampleRegion
deriving DecidableEq, Repr

namespace Samples

/-- Regions that show nothing yet. -/
def blank : Samples :=
  ⟨.blank, .blank, .blank⟩

/-- The region that a slider previews into. -/
def get (s : Samples) : SliderId → SampleRegion
  | .serifSize => s.serif
  | .fixedSize => s.fixed
  | .minimumSize => s.minimum

/-- Replaces the region of a slider. -/
def put (s : Samples) (id : SliderId) (region : SampleRegion) : Samples :=
  match id with
  | .serifSize => { s with serif := region }
  | .fixedSize => { s with fixed := region }
  | .minimumSize => { s with minimum := region }

end Samples

/-- The controls of an initialized page. -/
structure Controls where
  serifSize : Slider
  fixedSize : Slider
  minimumSize : Slider
  serifFamily : SelectionList
  fixedFamily : SelectionList
  encoding : SelectionList
deriving DecidableEq, Repr

namespace Controls

/-- A slider by its identifier. -/
def slider (c : Controls) : SliderId → Slider
  | .serifSize => c.serifSize
  | .fixedSize => c.fixedSize
  | .minimumSize => c.minimumSize

/-- Replaces a slider. -/
def putSlider (c : Controls) (id : SliderId) (s : Slider) : Controls :=
  match id with
  | .serifSize => { c with serifSize := s }
  | .fixedSize => { c with fixedSize := s }
  | .minimumSize => { c with minimumSize := s }

/-- A list by its identifier. -/
def list (c : Controls) : ListId → SelectionList
  | .serifFamily => c.serifFamily
  | .fixedFamily => c.fixedFamily
  | .encoding => c.encoding

/-- Replaces a list. -/
def putList (c : Controls) (id : ListId) (l : SelectionList) : Controls :=
  match id with
  | .serifFamily => { c with serifFamily := l }
  | .fixedFamily => { c with fixedFamily := l }
  | .encoding => { c with encoding := l }

/-- Changes every slider. -/
def mapSliders (c : Controls) (f : SliderId → Slider → Slider) : Controls :=
  { c with
    serifSize := f .serifSize c.serifSize
    fixedSize := f .fixedSize c.fixedSize
    minimumSize := f .minimumSize c.minimumSize }

/-- Changes every list. -/
def mapLists (c : Controls) (f : ListId → SelectionList → SelectionList) : Controls :=
  { c with
    serifFamily := f .serifFamily c.serifFamily
    fixedFamily := f .fixedFamily c.fixedFamily
    encoding := f .encoding c.encoding }

end Controls

/-- How far a page has come. -/
inductive PageState where
  | uninitialized
  | initialized (controls : Controls) (hasShown : Bool)
deriving DecidableEq, Repr

/-- The settings page. -/
structure Page where
  strings : LocalizedStrings
  samples : Samples
  state : PageState
deriving DecidableEq, Repr

/-- What an operation of the user did: the page afterwards, the new value of the control if it
changed, and the attempted writes in order. -/
structure PageOutcome (α : Type) where
  page : Page
  changed : Option α
  writes : List Write
deriving Repr

namespace Page

/-- A page before its controls are built. -/
def new (strings : LocalizedStrings) : Page :=
  ⟨strings, .blank, .uninitialized⟩

/-- The name of the page. -/
def name (_ : Page) : String := "fontSettings"

/-- The title of the page. -/
def title (p : Page) : String :=
  p.strings.get LocalizedStrings.pageTitle

/-- The sentence of the samples. -/
def sentence (p : Page) : String :=
  p.strings.get LocalizedStrings.sampleSentence

/-- The controls, once they are built. -/
def controls? (p : Page) : Option Controls :=
  match p.state with
  | .uninitialized => none
  | .initialized controls _ => some controls

/-- Whether the controls are built. -/
def isInitialized (p : Page) : Bool :=
  p.controls?.isSome

/-- Whether the page has been shown since its controls were built. -/
def hasShown (p : Page) : Bool :=
  match p.state with
  | .uninitialized => false
  | .initialized _ hasShown => hasShown

/-- A slider of the page. -/
def slider? (p : Page) (id : SliderId) : Option Slider :=
  p.controls?.map (·.slider id)

/-- A list of the page. -/
def list? (p : Page) (id : ListId) : Option SelectionList :=
  p.controls?.map (·.list id)

/-- The page with other controls, once it has any. -/
def withControls (p : Page) (controls : Controls) : Page :=
  match p.state with
  | .uninitialized => p
  | .initialized _ hasShown => { p with state := .initialized controls hasShown }

/-- Shows the sentence in a region. -/
def renderSample (p : Page) (id : SliderId) (size : Int32) (family : Option String) : Page :=
  { p with samples := p.samples.put id ((p.samples.get id).render p.sentence size family) }

/-- A slider brought in line with the store. -/
def syncSlider (store : Preference.Store) (id : SliderId) (s : Slider) : Slider :=
  let placed := match store.getInteger? id.preferenceKey with
    | some value => s.setValue value
    | none => s
  placed.setDisabled (store.isManaged id.preferenceKey)

/-- A new slider in line with the store.  Its change hook renders its sample; the preference hook of
the minimum slider writes the logical minimum. -/
def buildSlider (store : Preference.Store) (id : SliderId) : Slider :=
  let s := syncSlider store id ((Slider.create id id.valueMap false).install .change)
  if id = .minimumSize then s.install .preferenceChange else s

/-- A new list with the placeholder in it. -/
def buildList (p : Page) (store : Preference.Store) (id : ListId) : SelectionList :=
  let placeholder := p.strings.get LocalizedStrings.placeholder
  (SelectionList.new.append ⟨placeholder, placeholder⟩).setManaged
    (store.isManaged id.preferenceKey)

/-- Builds the controls, if there are none yet. -/
def setUp (p : Page) (store : Preference.Store) : Page :=
  match p.state with
  | .initialized .. => p
  | .uninitialized =>
    let controls : Controls := {
      serifSize := buildSlider store .serifSize
      fixedSize := buildSlider store .fixedSize
      minimumSize := buildSlider store .minimumSize
      serifFamily := p.buildList store .serifFamily
      fixedFamily := p.buildList store .fixedFamily
      encoding := p.buildList store .encoding }
    { p with state := .initialized controls false }

/-- The page becomes the active view.  The answer tells whether it asks for the font lists, which it
does the first time. -/
def appear (p : Page) : Page × Bool :=
  match p.state with
  | .initialized controls false => ({ p with state := .initialized controls true }, true)
  | _ => (p, false)

/-- Fills the lists, and selects the values given for the serif family, the fixed-width family and
the encoding. -/
def receiveFonts (p : Page) (fonts encodings : List Choice) (selected : List String) : Page :=
  match p.controls? with
  | none => p
  | some controls =>
    p.withControls (controls.mapLists fun id l =>
      match id with
      | .serifFamily => l.populate fonts selected[0]?
      | .fixedFamily => l.populate fonts selected[1]?
      | .encoding => l.populate encodings selected[2]?)

/-- The effect of a hook call on the samples. -/
def takeHookCall (p : Page) (call : HookCall) : Page :=
  match call.hook with
  | .change => p.renderSample call.source call.value none
  | .preferenceChange => p

/-- The write that a hook call makes. -/
def hookWrite? (call : HookCall) : Option Write :=
  match call.hook with
  | .change => none
  | .preferenceChange => some ⟨Preference.minimumLogicalFontSizeKey, .integer call.value⟩

/-- Takes the motion of a slider into the page. -/
def takeMotion (p : Page) (controls : Controls) (id : SliderId) (m : Motion) : PageOutcome Int32 :=
  let moved := p.withControls (controls.putSlider id m.slider)
  { page := m.calls.foldl takeHookCall moved
    changed := m.changed
    writes := m.calls.filterMap hookWrite?
      ++ m.changed.toList.map fun value => ⟨id.preferenceKey, .integer value⟩ }

/-- Raw motion of a slider. -/
def input (p : Page) (id : SliderId) (position : Nat) : PageOutcome Int32 :=
  match p.controls? with
  | none => ⟨p, none, []⟩
  | some controls => p.takeMotion controls id ((controls.slider id).input position)

/-- A keyboard step of a slider. -/
def nudge (p : Page) (id : SliderId) (step : Step) : PageOutcome Int32 :=
  match p.controls? with
  | none => ⟨p, none, []⟩
  | some controls => p.takeMotion controls id ((controls.slider id).nudge step)

/-- The writes of a pick: the preference of its list, and for the serif list that of the sans-serif
family too. -/
def pickWrites (id : ListId) (value : String) : List Write :=
  ⟨id.preferenceKey, .text value⟩
    :: (if id = .serifFamily then [⟨Preference.sansSerifFamilyKey, .text value⟩] else [])

/-- A pick from a list. -/
def select (p : Page) (id : ListId) (index : Nat) : PageOutcome String :=
  match p.controls? with
  | none => ⟨p, none, []⟩
  | some controls =>
    let (l, picked) := (controls.list id).select index
    let value := picked.map (·.value)
    ⟨p.withControls (controls.putList id l), value, value.toList.flatMap (pickWrites id)⟩

/-- A list brought in line with the store, unless it still shows the placeholder. -/
def syncList (store : Preference.Store) (id : ListId) (l : SelectionList) : SelectionList :=
  if !l.choices.isEmpty && l.disabled && !l.managed then l
  else
    match store.getText? id.preferenceKey with
    | some value => l.selectValue value
    | none => l

/-- Renders the samples again, from the stored families and the values of the sliders. -/
def refreshSamples (p : Page) (store : Preference.Store) : Page :=
  match p.controls? with
  | none => p
  | some controls =>
    let serif := (store.getText? Preference.serifFamilyKey).getD ""
    let fixed := (store.getText? Preference.fixedFamilyKey).getD ""
    let p := p.renderSample .serifSize controls.serifSize.value (some serif)
    let p := p.renderSample .fixedSize controls.fixedSize.value (some fixed)
    p.renderSample .minimumSize controls.minimumSize.value none

/-- Reads the store again: positions the sliders, selects in the lists, renders the samples. -/
def resync (p : Page) (store : Preference.Store) : Page :=
  match p.controls? with
  | none => p
  | some controls =>
    let controls := (controls.mapSliders (syncSlider store)).mapLists (syncList store)
    (p.withControls controls).refreshSamples store

/-- One line of debugging text. -/
def describe (p : Page) : String :=
  let state := match p.state with
    | .uninitialized => "Uninitialized"
    | .initialized _ hasShown =>
      "Initialized \x7b has_shown: " ++ (if hasShown then "true" else "false") ++ " \x7d"
  "FontSettings \x7b state: " ++ state ++ ", initialized: "
    ++ (if p.isInitialized then "true" else "false") ++ ", .. \x7d"

end Page
end FontPreferences
