import FontPreferences.Script
import Mathlib.Data.List.Infix

/-
What saving a file does to the tree.

* `Target t path place name`: a file can be saved at a path, as `name` in the directory at `place`;
  which text it is does not matter (`putAt_of_target`, `putAt_cases`);
* `contentAt_save`: a saved file is what then stands at its path;
* `nodeAt_save`: at every other place saving makes directories where nothing stood, on the way of the
  path, and changes nothing else.

`Separate path other` is said of the two paths alone: neither goes through the place that the other
leads to, and the second goes up from no place of the first.  In a tree where every node stands in a
directory, which every script keeps so (`Rooted.runOn`), saving at the first leaves alone what stands at
the second (`Separate.contentAt_save`).
-/
namespace FontPreferences

namespace Path

theorem parentSteps_prefix (path : String) : parentSteps path <+: steps path := by
  have hsuffix : ((steps path).reverse.dropWhile (· == ".")).tail <:+ (steps path).reverse :=
    (List.tail_suffix _).trans (List.dropWhile_suffix _)
  rw [parentSteps, ← List.reverse_suffix, List.reverse_reverse]
  exact hsuffix

theorem steps_eq_parentSteps {path name : String} (h : (steps path).getLast? = some name)
    (hname : name ≠ ".") : steps path = parentSteps path ++ [name] := by
  obtain ⟨way, hway⟩ := List.getLast?_eq_some_iff.1 h
  -- no step at the end stays in place
  have hparent : parentSteps path = way := by simp [parentSteps, hway, hname]
  rw [hparent, hway]

end Path

namespace FileTree

variable {t u : FileTree} {place : List String} {name : String}

theorem step_of_name (hstay : name ≠ ".") (hup : name ≠ "..") :
    step place name = place ++ [name] := by
  rw [step, if_neg hstay, if_neg hup]

theorem ne_nil_of_nodeAt_eq_none (h : t.nodeAt place = none) : place ≠ [] := fun hroot => by
  rw [hroot, nodeAt_root] at h
  exact absurd h (by simp)

theorem nodeAt_put (t : FileTree) (n : Node) (h : place ≠ []) (other : List String) :
    (t.put place n).nodeAt other = if other = place then some n else t.nodeAt other := by
  split
  · next heq => rw [heq, nodeAt_put_self t n h]
  · next hne => exact nodeAt_put_of_ne t n hne

/-- Every directory of a tree is a directory of another one. -/
def Keeps (t u : FileTree) : Prop :=
  ∀ place, t.nodeAt place = some .directory → u.nodeAt place = some .directory

theorem keeps_put (n : Node) (hfree : t.nodeAt place ≠ some .directory) :
    t.Keeps (t.put place n) := by
  intro other hother
  have hne : other ≠ place := fun heq => hfree (heq ▸ hother)
  rw [nodeAt_put_of_ne t n hne, hother]

/-! ### Making directories -/

/-- At a place, a second tree has what the first one has, or a directory on a way where nothing stood. -/
def MadeAlong (t u : FileTree) (place names other : List String) : Prop :=
  u.nodeAt other = t.nodeAt other ∨
    (∃ way, way <+: names ∧ other = way.foldl step place) ∧ t.nodeAt other = none ∧
      u.nodeAt other = some .directory

theorem MadeAlong.mono {names names' other : List String} (h : t.MadeAlong u place names other)
    (hnames : names <+: names') : t.MadeAlong u place names' other :=
  h.imp_right fun ⟨⟨way, hway, hother⟩, hmade⟩ => ⟨⟨way, hway.trans hnames, hother⟩, hmade⟩

theorem MadeAlong.cons {names other : List String} (h : t.MadeAlong u (step place name) names other) :
    t.MadeAlong u place (name :: names) other :=
  h.imp_right fun ⟨⟨way, hway, hother⟩, hmade⟩ =>
    ⟨⟨name :: way, List.cons_prefix_cons.2 ⟨rfl, hway⟩, hother⟩, hmade⟩

theorem nodeAt_makeDirectories (t : FileTree) (place names other : List String) :
    t.MadeAlong (t.makeDirectories place names).1 place names other := by
  induction names generalizing t place with
  | nil => exact .inl rfl
  | cons name rest ih =>
    rw [makeDirectories]
    split
    · exact .inl rfl
    · split
      · next hnone =>
        have hmade := ih (t.put (step place name) .directory) (step place name)
        rw [MadeAlong, nodeAt_put t .directory (ne_nil_of_nodeAt_eq_none hnone)] at hmade
        split at hmade
        · next heq =>
          -- the directory of this step; it is there already when the rest is made
          rcases hmade with h | ⟨-, h, -⟩
          · exact .inr ⟨⟨[name], by simp, heq⟩, heq ▸ hnone, h⟩
          · exact absurd h (by simp)
        · exact MadeAlong.cons hmade
      · exact (ih t (step place name)).cons
      · exact .inl rfl

theorem keeps_makeDirectories (t : FileTree) (place names : List String) :
    t.Keeps (t.makeDirectories place names).1 := by
  intro other hother
  rcases nodeAt_makeDirectories t place names other with h | ⟨-, h, -⟩
  · rw [h, hother]
  · exact absurd (h.symm.trans hother) (by simp)

theorem contentFrom_cons (h : u.nodeAt place = some .directory) (hname : ¬isOverlong name)
    (rest : List String) :
    u.contentFrom place (name :: rest) = u.contentFrom (step place name) rest := by
  rw [contentFrom, h]
  simp [hname]

/-- A step of a way without obstacles goes to a directory, which was there or has been made. -/
theorem makeDirectories_cons {names last : List String}
    (h : t.makeDirectories place (name :: names) = (u, some last)) :
    ¬isOverlong name ∧ ∃ s : FileTree, t.Keeps s ∧ s.nodeAt (step place name) = some .directory ∧
      s.makeDirectories (step place name) names = (u, some last) := by
  rw [makeDirectories] at h
  split at h
  · exact absurd h (by simp)
  · next hname =>
    refine ⟨hname, ?_⟩
    split at h
    · next hnone =>
      have hfree : t.nodeAt (step place name) ≠ some .directory := by simp [hnone]
      exact ⟨_, keeps_put .directory hfree,
        nodeAt_put_self t .directory (ne_nil_of_nodeAt_eq_none hnone), h⟩
    · next hnext => exact ⟨t, fun _ hdirectory => hdirectory, hnext, h⟩
    · exact absurd h (by simp)

/-- A way without obstacles ends in a directory, and leads there in every tree that keeps the
directories. -/
theorem makeDirectories_spec {names last : List String} (hplace : t.nodeAt place = some .directory)
    (h : t.makeDirectories place names = (u, some last)) :
    last = names.foldl step place ∧ u.nodeAt last = some .directory ∧
      ∀ v, u.Keeps v → ∀ rest, v.contentFrom place (names ++ rest) = v.contentFrom last rest := by
  induction names generalizing t place with
  | nil =>
    cases h
    exact ⟨rfl, hplace, fun v _ rest => rfl⟩
  | cons name names ih =>
    obtain ⟨hname, s, hkeeps, hnext, hs⟩ := makeDirectories_cons h
    obtain ⟨hlast, hdirectory, hwalk⟩ := ih hnext hs
    have hu : s.Keeps u := by
      have hmade := keeps_makeDirectories s (step place name) names
      rwa [hs] at hmade
    refine ⟨hlast, hdirectory, fun v hv rest => ?_⟩
    have hstart : v.nodeAt place = some .directory := hv place (hu place (hkeeps place hplace))
    rw [List.cons_append, contentFrom_cons hstart hname]
    exact hwalk v hv rest

/-! ### Where a file is saved -/

/-- The place that a path leads to. -/
def placeOf (path : String) : List String :=
  (Path.steps path).foldl step []

/-- The tree with the directories on the way to a path, as far as they can be made. -/
def opened (t : FileTree) (path : String) : FileTree :=
  (t.makeDirectories [] (Path.parentSteps path)).1

/-- A file can be saved at a path: as `name`, in the directory at `place`. -/
structure Target (t : FileTree) (path : String) (place : List String) (name : String) : Prop where
  nonempty : path ≠ ""
  isPath : ¬isNoPath path
  way : (t.makeDirectories [] (Path.parentSteps path)).2 = some place
  last : (Path.steps path).getLast? = some name
  ne_stay : name ≠ "."
  ne_up : name ≠ ".."
  fits : ¬isOverlong name
  free : (t.opened path).nodeAt (place ++ [name]) ≠ some .directory

variable {path : String}

theorem putAt_of_target (h : t.Target path place name) (n : Node) :
    t.putAt path n = ((t.opened path).put (place ++ [name]) n, true) := by
  have hpath : ¬(path = "" || isNoPath path) = true := by simp [h.nonempty, h.isPath]
  have hway : t.makeDirectories [] (Path.parentSteps path) = (t.opened path, some place) :=
    Prod.ext rfl h.way
  rw [putAt, if_neg hpath, hway]
  simp only [h.last]
  split
  · next hname => simp at hname
  · next hname => exact absurd (Option.some.inj hname) h.ne_stay
  · next hname => exact absurd (Option.some.inj hname) h.ne_up
  · next hname =>
    cases hname
    rw [if_neg h.fits]
    split
    · next hnode => exact absurd hnode h.free
    · rfl
    · rfl

/-- Where no file can be saved, directories are made at most. -/
theorem putAt_cases (t : FileTree) (path : String) (n : Node) :
    (∃ place name, t.Target path place name) ∨
      (t.putAt path n).2 = false ∧
        ((t.putAt path n).1 = t ∨ (t.putAt path n).1 = t.opened path) := by
  rw [putAt]
  split
  · exact .inr ⟨rfl, .inl rfl⟩
  · next hpath =>
    rw [Bool.or_eq_true, decide_eq_true_iff, not_or] at hpath
    have hopened : t.opened path = (t.makeDirectories [] (Path.parentSteps path)).1 := rfl
    split
    · next hway =>
      rw [hopened, hway]
      exact .inr ⟨rfl, .inr rfl⟩
    · next place hway =>
      rw [hway] at hopened
      rw [hopened]
      split
      iterate 3 exact .inr ⟨rfl, .inr rfl⟩
      next name hstay hup hlast =>
        split
        · exact .inr ⟨rfl, .inr rfl⟩
        · next hfits =>
          have target (hfree : (t.opened path).nodeAt (place ++ [name]) ≠ some .directory) :
              t.Target path place name :=
            ⟨hpath.1, hpath.2, by rw [hway], hlast, hstay, hup, hfits, hfree⟩
          split
          · exact .inr ⟨rfl, .inr rfl⟩
          · next hnode => exact .inl ⟨place, name, target (by rw [hopened, hnode]; simp)⟩
          · next hnode => exact .inl ⟨place, name, target (by rw [hopened, hnode]; simp)⟩

/-! ### Saving -/

/-- Every text can be saved at a path. -/
def CanSave (t : FileTree) (path : String) : Prop :=
  ∀ text, (t.save path text).2 = true

theorem Target.canSave (h : t.Target path place name) : t.CanSave path := fun text => by
  rw [save, putAt_of_target h]

theorem exists_target {text : String} (h : (t.save path text).2 = true) :
    ∃ place name, t.Target path place name := by
  rcases putAt_cases t path (.file text.toUTF8) with htarget | ⟨hfails, -⟩
  · exact htarget
  · rw [save, hfails] at h
    exact absurd h (by simp)

theorem canSave_of_save {text : String} (h : (t.save path text).2 = true) : t.CanSave path := by
  obtain ⟨place, name, htarget⟩ := exists_target h
  exact htarget.canSave

theorem Target.place_eq (h : t.Target path place name) :
    place = (Path.parentSteps path).foldl step [] :=
  (makeDirectories_spec (nodeAt_root t) (Prod.ext rfl h.way)).1

theorem Target.placeOf_eq (h : t.Target path place name) : placeOf path = place ++ [name] := by
  rw [placeOf, Path.steps_eq_parentSteps h.last h.ne_stay, List.foldl_append, ← h.place_eq]
  exact step_of_name h.ne_stay h.ne_up

/-- **A saved file is what then stands at its path.** -/
theorem contentAt_save {text : String} (h : (t.save path text).2 = true) :
    (t.save path text).1.contentAt path = .ofText text := by
  obtain ⟨place, name, target⟩ := exists_target h
  obtain ⟨-, hplace, hwalk⟩ := makeDirectories_spec (nodeAt_root t) (Prod.ext rfl target.way)
  let saved := (t.opened path).put (place ++ [name]) (.file text.toUTF8)
  have hsaved : (t.save path text).1 = saved := by rw [save, putAt_of_target target]
  have hkeeps : (t.opened path).Keeps saved := keeps_put _ target.free
  -- the directories on the way still stand, so the way ends where the file was put
  rw [hsaved, contentAt, if_neg target.nonempty, if_neg target.isPath,
    Path.steps_eq_parentSteps target.last target.ne_stay, hwalk saved hkeeps,
    contentFrom_cons (hkeeps place hplace) target.fits, step_of_name target.ne_stay target.ne_up,
    contentFrom, nodeAt_put_self _ _ (by simp)]
  rfl

/-- At every place but its own, a saved file makes directories on its way at most. -/
theorem nodeAt_save (t : FileTree) (path text : String) {other : List String}
    (h : other ≠ placeOf path) :
    t.MadeAlong (t.save path text).1 [] (Path.steps path) other := by
  have hopened : t.MadeAlong (t.opened path) [] (Path.steps path) other :=
    (nodeAt_makeDirectories t [] _ other).mono (Path.parentSteps_prefix path)
  rw [save]
  rcases putAt_cases t path (.file text.toUTF8) with ⟨place, name, target⟩ | ⟨-, hsame | hmade⟩
  · rw [target.placeOf_eq] at h
    rw [putAt_of_target target, MadeAlong, nodeAt_put_of_ne _ _ h]
    exact hopened
  · rw [hsame]
    exact .inl rfl
  · rw [hmade]
    exact hopened

/-! ### Trees where every node stands in a directory -/

/-- Every node stands in a directory. -/
def Rooted (t : FileTree) : Prop :=
  ∀ place name, t.nodeAt (place ++ [name]) ≠ none → t.nodeAt place = some .directory

theorem rooted_empty : empty.Rooted := by
  intro place name h
  exact absurd (by simp [nodeAt, empty]) h

theorem Rooted.put (h : t.Rooted) (hplace : t.nodeAt place = some .directory)
    (hfree : t.nodeAt (place ++ [name]) ≠ some .directory) (n : Node) :
    (t.put (place ++ [name]) n).Rooted := by
  intro place' name' hnode
  have hnew : place ++ [name] ≠ [] := by simp
  rw [nodeAt_put t n hnew] at hnode
  have hdirectory : t.nodeAt place' = some .directory := by
    split at hnode
    · next heq =>
      obtain ⟨rfl, -⟩ := List.append_inj' heq rfl
      exact hplace
    · exact h place' name' hnode
  exact keeps_put n hfree place' hdirectory

theorem Rooted.step_of_nodeAt_eq_none (h : t.Rooted) (hplace : t.nodeAt place = some .directory)
    (hnone : t.nodeAt (step place name) = none) : step place name = place ++ [name] := by
  rw [step] at hnone ⊢
  split at hnone
  · -- the step stays where a directory stands
    exact absurd (hplace.symm.trans hnone) (by simp)
  · next hstay =>
    split at hnone
    · -- above a directory there is a directory
      obtain rfl | ⟨above, last, rfl⟩ := List.eq_nil_or_concat place
      · exact absurd rfl (ne_nil_of_nodeAt_eq_none hnone)
      · rw [List.concat_eq_append, List.dropLast_concat] at hnone
        have habove := h above last (by rw [← List.concat_eq_append, hplace]; simp)
        exact absurd (habove.symm.trans hnone) (by simp)
    · next hup => rw [if_neg hstay, if_neg hup]

theorem Rooted.makeDirectories (h : t.Rooted) (hplace : t.nodeAt place = some .directory)
    (names : List String) : (t.makeDirectories place names).1.Rooted := by
  induction names generalizing t place with
  | nil => exact h
  | cons name names ih =>
    rw [FileTree.makeDirectories]
    split
    · exact h
    · split
      · next hnone =>
        have hstep : step place name = place ++ [name] := h.step_of_nodeAt_eq_none hplace hnone
        rw [hstep] at hnone ⊢
        refine ih (h.put hplace ?_ .directory) (nodeAt_put_self t .directory (by simp))
        rw [hnone]
        simp
      · next hnext => exact ih h hnext
      · exact h

theorem Rooted.save (h : t.Rooted) (path text : String) : (t.save path text).1.Rooted := by
  have hopened : (t.opened path).Rooted := h.makeDirectories (nodeAt_root t) _
  rw [FileTree.save]
  rcases putAt_cases t path (.file text.toUTF8) with ⟨place, name, target⟩ | ⟨-, hsame | hmade⟩
  · obtain ⟨-, hplace, -⟩ := makeDirectories_spec (nodeAt_root t) (Prod.ext rfl target.way)
    rw [putAt_of_target target]
    exact hopened.put hplace target.free _
  · rw [hsame]
    exact h
  · rw [hmade]
    exact hopened

/-- **Every script keeps every node in a directory.** -/
theorem Rooted.runOn {α : Type} (h : t.Rooted) (s : Script α) : (s.runOn t).1.Rooted := by
  induction s generalizing t with
  | done answer => exact h
  | read path next ih => exact ih _ h
  | write path text next ih => exact ih _ (h.save path text)

theorem contentFrom_of_nodeAt_eq_none (h : t.nodeAt place = none) (names : List String) :
    t.contentFrom place names = .missing := by
  cases names <;> rw [contentFrom, h]

/-- From where nothing stands, every step but the one up leads to where nothing stands. -/
theorem Rooted.nodeAt_step_eq_none (h : t.Rooted) (hnone : t.nodeAt place = none)
    (hup : name ≠ "..") : t.nodeAt (step place name) = none := by
  rw [step, if_neg hup]
  split
  · exact hnone
  · by_contra hsome
    exact absurd ((h place name hsome).symm.trans hnone) (by simp)

/-- Directories that are made on a way, but not where the way goes up nor at its end, do not change what
stands there. -/
theorem Rooted.contentFrom_eq (h : t.Rooted) {names : List String}
    (hnames : ∀ name ∈ names, ¬isOverlong name)
    (hway : ∀ way, way <+: names → u.nodeAt (way.foldl step place) = t.nodeAt (way.foldl step place) ∨
      t.nodeAt (way.foldl step place) = none ∧ u.nodeAt (way.foldl step place) = some .directory)
    (hup : ∀ way, way ++ [".."] <+: names →
      u.nodeAt (way.foldl step place) = t.nodeAt (way.foldl step place))
    (hend : u.nodeAt (names.foldl step place) = t.nodeAt (names.foldl step place)) :
    u.contentFrom place names = t.contentFrom place names := by
  induction names generalizing place with
  | nil =>
    rw [List.foldl_nil] at hend
    rw [contentFrom, contentFrom, hend]
  | cons name names ih =>
    obtain ⟨hfits, hnames⟩ := List.forall_mem_cons.1 hnames
    have hnext : u.contentFrom (step place name) names = t.contentFrom (step place name) names := by
      refine ih hnames (fun way hpre => ?_) (fun way hpre => ?_) hend
      · exact hway (name :: way) (List.cons_prefix_cons.2 ⟨rfl, hpre⟩)
      · exact hup (name :: way) (List.cons_prefix_cons.2 ⟨rfl, hpre⟩)
    rcases hway [] List.nil_prefix with hsame | ⟨hnone, hmade⟩
    · rw [List.foldl_nil] at hsame
      rw [contentFrom, contentFrom, hsame, hnext]
    · rw [List.foldl_nil] at hnone hmade
      -- nothing stands in a directory that had to be made, and the way goes on below it
      have hdown : name ≠ ".." := by
        rintro rfl
        have hsame := hup [] (List.cons_prefix_cons.2 ⟨rfl, List.nil_prefix⟩)
        rw [List.foldl_nil, hnone, hmade] at hsame
        exact absurd hsame (by simp)
      rw [contentFrom_of_nodeAt_eq_none hnone, contentFrom_cons hmade hfits, hnext,
        contentFrom_of_nodeAt_eq_none (h.nodeAt_step_eq_none hnone hdown)]

/-! ### Separate paths -/

/-- The places that a path goes through, from the root to its own. -/
def placesOn (path : String) : List (List String) :=
  (Path.steps path).inits.map (·.foldl step [])

theorem mem_placesOn_iff {path : String} :
    place ∈ placesOn path ↔ ∃ way, way <+: Path.steps path ∧ place = way.foldl step [] := by
  simp only [placesOn, List.mem_map, List.mem_inits, eq_comm]

/-- Two paths of which neither goes through the place of the other.  The names of the second one are
names that a file can have, and it goes up from no place that the first one goes through, the root
apart. -/
structure Separate (path other : String) : Prop where
  below : placeOf path ∉ placesOn other
  above : placeOf other ∉ placesOn path
  names : ∀ name ∈ Path.steps other, ¬isOverlong name
  up : ∀ way, way ++ [".."] <+: Path.steps other → way.foldl step [] ∈ placesOn path →
    way.foldl step [] = []

/-- A path without a step up goes up from nowhere. -/
theorem Separate.of_not_up {path other : String} (hbelow : placeOf path ∉ placesOn other)
    (habove : placeOf other ∉ placesOn path)
    (hnames : ∀ name ∈ Path.steps other, ¬isOverlong name ∧ name ≠ "..") : Separate path other :=
  ⟨hbelow, habove, fun name hname => (hnames name hname).1,
    fun way hway => absurd rfl (hnames ".." (hway.subset (by simp))).2⟩

/-- **Saving at a path leaves alone what stands at a separate one.** -/
theorem Separate.contentAt_save {path other : String} (h : Separate path other) (ht : t.Rooted)
    (text : String) : (t.save path text).1.contentAt other = t.contentAt other := by
  -- on the way to the other path, directories are made at most, and only on the way of the first
  have hnode : ∀ way, way <+: Path.steps other →
      (t.save path text).1.nodeAt (way.foldl step []) = t.nodeAt (way.foldl step []) ∨
        way.foldl step [] ∈ placesOn path ∧ t.nodeAt (way.foldl step []) = none ∧
          (t.save path text).1.nodeAt (way.foldl step []) = some .directory := by
    intro way hway
    have hne : way.foldl step [] ≠ placeOf path :=
      fun heq => h.below (heq ▸ mem_placesOn_iff.2 ⟨way, hway, rfl⟩)
    exact (nodeAt_save t path text hne).imp_right fun ⟨hon, hrest⟩ =>
      ⟨mem_placesOn_iff.2 hon, hrest⟩
  have hup : ∀ way, way ++ [".."] <+: Path.steps other →
      (t.save path text).1.nodeAt (way.foldl step []) = t.nodeAt (way.foldl step []) := by
    intro way hway
    refine (hnode way ((List.prefix_append way [".."]).trans hway)).resolve_right ?_
    rintro ⟨hon, hnone, -⟩
    exact ne_nil_of_nodeAt_eq_none hnone (h.up way hway hon)
  have hend := (hnode _ List.prefix_rfl).resolve_right fun hmade => h.above hmade.1
  rw [contentAt, contentAt, ht.contentFrom_eq h.names
    (fun way hway => (hnode way hway).imp_right fun hmade => hmade.2) hup hend]

end FileTree
end FontPreferences
