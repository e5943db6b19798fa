import FontPreferences.Proofs.Slider.Search

/-
A nudge, seen as a walk.

* `walk`: a step that tries one position after another until the value changes;
* `Lands s step p`: `p` is the first position on the side of `step` whose value lies beyond the one
  that the slider shows; `nudge_cases_lands`, `walk_cases_lands`: both a nudge and a walk go there,
  or stay where they are if there is no such position;
* `Adjacent s step v w`: `w` is the next value after `v` that a position has; `changed_nudge_iff`: this
  is where a nudge goes;
* `climb`: the values that a slider shows while it is nudged up; `exists_climb`: all that are reached,
  from its own on;
* `nudge_walks`: all of it for a reachable slider.

A nudge searches from the value, over all positions, and a walk from the position on; what joins them
is that the value of the slider is the one of its position.
-/
namespace FontPreferences

/-- Whether `b` lies beyond `a` on the side that a step goes to. -/
def Step.Beyond {α : Type} [LT α] : Step → α → α → Prop
  | .increase, a, b => a < b
  | .decrease, a, b => b < a

/-- The step that goes to the other side. -/
def Step.opposite : Step → Step
  | .increase => .decrease
  | .decrease => .increase

theorem Step.beyond_opposite {α : Type} [LT α] {step : Step} {a b : α} :
    step.opposite.Beyond a b ↔ step.Beyond b a := by
  cases step <;> rfl

theorem Step.not_beyond_self (step : Step) (v : Int32) : ¬step.Beyond v v := by
  cases step <;> exact Int32.lt_irrefl

theorem Step.eq_of_not_beyond {step : Step} {v w : Int32} (h : ¬step.Beyond v w)
    (h' : ¬step.Beyond w v) : v = w := by
  cases step with
  | increase => exact Int32.le_antisymm (Int32.not_lt.1 h') (Int32.not_lt.1 h)
  | decrease => exact Int32.le_antisymm (Int32.not_lt.1 h) (Int32.not_lt.1 h')

/-- What a search finds in the order of a step is nearest of all that it looks for. -/
theorem Step.not_beyond_of_find? {step : Step} {l : List Nat} {accept : Nat → Bool} {p q : Nat}
    (hsorted : l.Pairwise step.Beyond) (hfind : l.find? accept = some p) (hq : q ∈ l)
    (haccept : accept q = true) : ¬step.Beyond q p := by
  obtain ⟨-, before, after, rfl, hbefore⟩ := List.find?_eq_some_iff_append.1 hfind
  intro hnearer
  rcases List.mem_append.1 hq with hmem | hmem
  · exact absurd haccept (by simpa using hbefore q hmem)
  · rcases List.mem_cons.1 hmem with rfl | hmem
    · cases step <;> exact Nat.lt_irrefl _ hnearer
    · have hfarther := List.rel_of_pairwise_cons (List.pairwise_append.1 hsorted).2.1 hmem
      cases step <;> exact Nat.lt_asymm hnearer hfarther

namespace Slider

variable {s : Slider} {step : Step} {p q : Nat}

/-- Beyond a value lie the values of positions beyond only. -/
theorem beyond_of_resolve (h : step.Beyond (s.resolve p) (s.resolve q)) : step.Beyond p q := by
  cases step <;> exact lt_of_resolve_lt h

theorem beyond_resolve_of_ne (h : step.Beyond p q) (hne : s.resolve q ≠ s.resolve p) :
    step.Beyond (s.resolve p) (s.resolve q) := by
  cases step with
  | increase =>
    have hle := s.resolve_mono (Nat.le_of_lt h)
    exact Int32.lt_iff_le_and_ne.2 ⟨hle, hne.symm⟩
  | decrease =>
    have hle := s.resolve_mono (Nat.le_of_lt h)
    exact Int32.lt_iff_le_and_ne.2 ⟨hle, hne⟩

/-! ### Walks -/

/-- The positions on the side of a step, beginning with the one next to the position of the slider. -/
def ahead (s : Slider) : Step → List Nat
  | .increase => List.range' (s.position + 1) (s.lastPosition - s.position)
  | .decrease => (List.range s.position).reverse

/-- Where a walk over the positions ends: at the first one with another value than the slider shows. -/
def walk? (s : Slider) (step : Step) : Option Nat :=
  (s.ahead step).find? fun p => s.resolve p ≠ s.value

/-- A step that goes from position to position until the value changes.  Where it ends is the raw
motion. -/
def walk (s : Slider) (step : Step) : Motion :=
  match s.walk? step with
  | some position => s.input position
  | none => s.still

theorem mem_ahead_iff (h : s.position < s.steps) :
    p ∈ s.ahead step ↔ p < s.steps ∧ step.Beyond s.position p := by
  cases step with
  | increase =>
    rw [ahead, List.mem_range'_1, lastPosition, Step.Beyond]
    omega
  | decrease =>
    rw [ahead, List.mem_reverse, List.mem_range, Step.Beyond]
    omega

theorem pairwise_ahead (s : Slider) (step : Step) : (s.ahead step).Pairwise step.Beyond := by
  cases step with
  | increase => exact List.pairwise_lt_range'
  | decrease => exact List.pairwise_reverse.2 List.pairwise_lt_range

/-! ### Where a step lands -/

/-- The first position on the side of a step whose value lies beyond the one that the slider shows. -/
structure Lands (s : Slider) (step : Step) (p : Nat) : Prop where
  position_lt : p < s.steps
  beyond : step.Beyond s.value (s.resolve p)
  first : ∀ q < s.steps, step.Beyond s.value (s.resolve q) → ¬step.Beyond q p

/-- No position has a value beyond the one that the slider shows. -/
def Ends (s : Slider) (step : Step) : Prop :=
  ∀ q < s.steps, ¬step.Beyond s.value (s.resolve q)

theorem Lands.not_ends {p : Nat} (h : s.Lands step p) : ¬s.Ends step :=
  fun hends => hends p h.position_lt h.beyond

theorem Lands.unique {p q : Nat} (hp : s.Lands step p) (hq : s.Lands step q) : p = q := by
  have hqp := hp.first q hq.position_lt hq.beyond
  have hpq := hq.first p hp.position_lt hp.beyond
  cases step <;> exact Nat.le_antisymm (Nat.not_lt.1 ‹_›) (Nat.not_lt.1 ‹_›)

/-- A nudge of an enabled slider is the input of the position where it lands. -/
theorem nudge_cases_lands (henabled : s.disabled = false) (step : Step) :
    (s.Ends step ∧ s.nudge step = s.still) ∨ ∃ p, s.Lands step p ∧ s.nudge step = s.input p := by
  unfold nudge
  rw [if_neg (by simp [henabled])]
  cases step with
  | increase =>
    have hiff := lt_countPositions_le_iff s s.value
    dsimp only
    split
    · next hall =>
      exact .inl ⟨fun q hq hbeyond =>
        Int32.not_lt.2 ((hiff q).1 (hq.trans_le hall)).2 hbeyond, rfl⟩
    · next hsome =>
      rw [not_le] at hsome
      refine .inr ⟨_, ⟨hsome, ?_, fun q hq hbeyond hlt => ?_⟩, rfl⟩
      · exact Int32.not_le.1 fun hle => absurd ((hiff _).2 ⟨hsome, hle⟩) (lt_irrefl _)
      · exact Int32.not_lt.2 ((hiff q).1 hlt).2 hbeyond
  | decrease =>
    have hiff := lt_countPositions_lt_iff s s.value
    dsimp only
    split
    · next hzero =>
      refine .inl ⟨fun q hq hbeyond => ?_, rfl⟩
      have hlt := (hiff q).2 ⟨hq, hbeyond⟩
      omega
    · next previous hcount =>
      obtain ⟨hlt, hbeyond⟩ := (hiff previous).1 (by omega)
      refine .inr ⟨previous, ⟨hlt, hbeyond, fun q hq hq' hlater => ?_⟩, rfl⟩
      have hle := (hiff q).2 ⟨hq, hq'⟩
      change previous < q at hlater
      omega

/-- So is a walk of a slider that stands. -/
theorem walk_cases_lands (h : s.Standing) (step : Step) :
    (s.Ends step ∧ s.walk step = s.still) ∨ ∃ p, s.Lands step p ∧ s.walk step = s.input p := by
  -- a position with a value beyond lies ahead, and the walk does not pass it
  have hmem : ∀ p < s.steps, step.Beyond s.value (s.resolve p) → p ∈ s.ahead step :=
    fun p hp hbeyond => (mem_ahead_iff h.position_lt).2 ⟨hp, beyond_of_resolve (h.value_eq ▸ hbeyond)⟩
  have hstops : ∀ p, step.Beyond s.value (s.resolve p) → decide (s.resolve p ≠ s.value) = true :=
    fun p hbeyond => decide_eq_true fun heq => step.not_beyond_self s.value (heq ▸ hbeyond)
  rw [walk]
  cases hwalk : s.walk? step with
  | none =>
    rw [walk?, List.find?_eq_none] at hwalk
    exact .inl ⟨fun q hq hbeyond => hwalk q (hmem q hq hbeyond) (hstops q hbeyond), rfl⟩
  | some p =>
    rw [walk?] at hwalk
    obtain ⟨hlt, hside⟩ := (mem_ahead_iff h.position_lt).1 (List.mem_of_find?_eq_some hwalk)
    have hne : s.resolve p ≠ s.value := by simpa using List.find?_some hwalk
    refine .inr ⟨p, ⟨hlt, ?_, fun q hq hbeyond => ?_⟩, rfl⟩
    · rw [h.value_eq] at hne ⊢
      exact beyond_resolve_of_ne hside hne
    · exact Step.not_beyond_of_find? (pairwise_ahead s step) hwalk (hmem q hq hbeyond)
        (hstops q hbeyond)

theorem nudge_eq_walk (h : s.Standing) (henabled : s.disabled = false) (step : Step) :
    s.nudge step = s.walk step := by
  rcases nudge_cases_lands henabled step with ⟨hends, hnudge⟩ | ⟨p, hp, hnudge⟩ <;>
  rcases walk_cases_lands h step with ⟨hends', hwalk⟩ | ⟨q, hq, hwalk⟩
  · exact hnudge.trans hwalk.symm
  · exact absurd hends hq.not_ends
  · exact absurd hends' hp.not_ends
  · rw [hnudge, hwalk, hp.unique hq]

/-! ### Neighbouring values -/

/-- The next value after `v` that a position has, on the side of a step. -/
structure Adjacent (s : Slider) (step : Step) (v w : Int32) : Prop where
  reaches : s.Reaches w
  beyond : step.Beyond v w
  between : ∀ u, s.Reaches u → step.Beyond v u → ¬step.Beyond u w

theorem Adjacent.unique {v w w' : Int32} (h : s.Adjacent step v w) (h' : s.Adjacent step v w') :
    w = w' :=
  Step.eq_of_not_beyond (h'.between w h.reaches h.beyond) (h.between w' h'.reaches h'.beyond)

/-- The way back from the next value. -/
theorem Adjacent.opposite {v w : Int32} (h : s.Adjacent step v w) (hv : s.Reaches v) :
    s.Adjacent step.opposite w v := by
  refine ⟨hv, Step.beyond_opposite.2 h.beyond, fun u hu hwu huv => ?_⟩
  exact h.between u hu (Step.beyond_opposite.1 huv) (Step.beyond_opposite.1 hwu)

theorem Adjacent.congr {t : Slider} (ht : s.SameRange t) {v w : Int32} (h : s.Adjacent step v w) :
    t.Adjacent step v w :=
  ⟨ht.reaches_iff.2 h.reaches, h.beyond, fun u hu => h.between u (ht.reaches_iff.1 hu)⟩

theorem Lands.adjacent (h : s.Lands step p) : s.Adjacent step s.value (s.resolve p) := by
  refine ⟨⟨p, h.position_lt, rfl⟩, h.beyond, fun u hu hbeyond hnearer => ?_⟩
  obtain ⟨q, hq, rfl⟩ := hu
  exact h.first q hq hbeyond (beyond_of_resolve hnearer)

theorem Lands.changed_input (h : s.Lands step p) (henabled : s.disabled = false) :
    (s.input p).changed = some (s.resolve p) := by
  have hne : s.resolve p ≠ s.value := fun heq => step.not_beyond_self s.value (heq ▸ h.beyond)
  rw [input, if_neg (by simp [henabled])]
  dsimp only
  rw [resolve_min, if_neg hne]

/-- **A nudge goes to the next value that a position has.** -/
theorem changed_nudge_iff (henabled : s.disabled = false) {w : Int32} :
    (s.nudge step).changed = some w ↔ s.Adjacent step s.value w := by
  rcases nudge_cases_lands henabled step with ⟨hends, hnudge⟩ | ⟨p, hp, hnudge⟩
  · rw [hnudge]
    refine iff_of_false (by simp [still]) fun hw => ?_
    obtain ⟨q, hq, rfl⟩ := hw.reaches
    exact hends q hq hw.beyond
  · rw [hnudge, hp.changed_input henabled, Option.some_inj]
    exact ⟨fun heq => heq ▸ hp.adjacent, fun hw => hp.adjacent.unique hw⟩

theorem nudge_eq_still_iff (henabled : s.disabled = false) :
    s.nudge step = s.still ↔ ∀ w, s.Reaches w → ¬step.Beyond s.value w := by
  rcases nudge_cases_lands henabled step with ⟨hends, hnudge⟩ | ⟨p, hp, hnudge⟩
  · refine iff_of_true hnudge fun w hw => ?_
    obtain ⟨q, hq, rfl⟩ := hw
    exact hends q hq
  · refine iff_of_false (fun hstill => ?_) fun hall => hall _ ⟨p, hp.position_lt, rfl⟩ hp.beyond
    have hchanged := hp.changed_input henabled
    rw [← hnudge, hstill] at hchanged
    exact absurd hchanged (by simp [still])

/-! ### There and back -/

theorem value_nudge {w : Int32} (h : (s.nudge step).changed = some w) :
    (s.nudge step).slider.value = w := by
  rw [(moves_nudge s step).value_eq, h, Option.getD_some]

theorem changed_nudge_opposite (h : s.Standing) (henabled : s.disabled = false) {w : Int32}
    (hnudge : (s.nudge step).changed = some w) :
    ((s.nudge step).slider.nudge step.opposite).changed = some s.value := by
  have hrange := (moves_nudge s step).sameRange
  have henabled' := (moves_nudge s step).disabled_eq.trans henabled
  have hback := ((changed_nudge_iff henabled).1 hnudge).opposite h.reaches
  rw [changed_nudge_iff henabled', value_nudge hnudge]
  exact hback.congr hrange

/-! ### All the way up -/

/-- The values that a slider shows while it is nudged up, its own first. -/
def climb (s : Slider) : Nat → List Int32
  | 0 => [s.value]
  | n + 1 => s.value :: (s.nudge .increase).slider.climb n

/-- The slider after it has been nudged up. -/
def climbed (s : Slider) (n : Nat) : Slider :=
  s.run (List.replicate n (.nudge .increase))

/-- From a value up are this value and those from the next one up. -/
theorem Adjacent.reaches_ge_iff {u v w : Int32} (h : s.Adjacent .increase v w) (hv : s.Reaches v) :
    s.Reaches u ∧ v ≤ u ↔ u = v ∨ s.Reaches u ∧ w ≤ u := by
  constructor
  · rintro ⟨hu, hle⟩
    by_cases heq : u = v
    · exact .inl heq
    · have hlt := Int32.lt_iff_le_and_ne.2 ⟨hle, Ne.symm heq⟩
      exact .inr ⟨hu, Int32.not_lt.1 (h.between u hu hlt)⟩
  · rintro (rfl | ⟨hu, hle⟩)
    · exact ⟨hv, Int32.le_refl _⟩
    · exact ⟨hu, Int32.le_of_lt (Int32.lt_of_lt_of_le h.beyond hle)⟩

/-- A nudge up that does not stay goes to a higher position. -/
theorem Lands.lt_position_input (h : s.Standing) (henabled : s.disabled = false)
    (hp : s.Lands .increase p) : s.position < (s.input p).slider.position := by
  have hbeyond := hp.beyond
  rw [h.value_eq] at hbeyond
  have hlt : s.position < p := lt_of_resolve_lt hbeyond
  have hsteps := hp.position_lt
  rw [(value_input s p henabled).1, lastPosition]
  omega

/-- **Nudges up visit all values that are reached**, from the slider's own on, each once and in
ascending order, until a nudge stays where it is. -/
theorem exists_climb (h : s.Standing) (henabled : s.disabled = false) :
    ∃ n, (s.climb n).Pairwise (· < ·) ∧ (∀ v, v ∈ s.climb n ↔ s.Reaches v ∧ s.value ≤ v) ∧
      (s.climbed n).nudge .increase = (s.climbed n).still := by
  -- on the positions that are left above
  induction hleft : s.steps - s.position using Nat.strong_induction_on generalizing s with
  | h left ih =>
    rcases nudge_cases_lands henabled .increase with ⟨hends, hnudge⟩ | ⟨p, hp, hnudge⟩
    · refine ⟨0, List.pairwise_singleton _ _, fun v => ?_, hnudge⟩
      rw [climb, List.mem_singleton]
      constructor
      · rintro rfl
        exact ⟨h.reaches, Int32.le_refl _⟩
      · rintro ⟨⟨q, hq, rfl⟩, hle⟩
        exact Int32.le_antisymm (Int32.not_lt.1 (hends q hq)) hle
    · have hmoves := moves_nudge s .increase
      have hrange := hmoves.sameRange
      have hadjacent := hp.adjacent
      have hvalue : (s.nudge .increase).slider.value = s.resolve p :=
        value_nudge (by rw [hnudge, hp.changed_input henabled])
      have hhigher : s.steps - (s.nudge .increase).slider.position < left := by
        have hlt := hp.lt_position_input h henabled
        have hposition := h.position_lt
        rw [hnudge]
        omega
      obtain ⟨n, hsorted, hmem, hend⟩ := ih _ hhigher (standing_nudge h .increase)
        (hmoves.disabled_eq.trans henabled) (by rw [hrange.steps])
      rw [hvalue] at hmem
      refine ⟨n + 1, List.pairwise_cons.2 ⟨fun v hv => ?_, hsorted⟩, fun v => ?_, hend⟩
      · exact Int32.lt_of_lt_of_le hadjacent.beyond ((hmem v).1 hv).2
      · rw [climb, List.mem_cons, hmem, hrange.reaches_iff, hadjacent.reaches_ge_iff h.reaches]

/-- At the start of its range a slider shows the least of all values. -/
theorem Standing.value_le (h : s.Standing) (hstart : s.position = 0) {v : Int32}
    (hv : s.Reaches v) : s.value ≤ v := by
  obtain ⟨q, -, rfl⟩ := hv
  rw [h.value_eq, hstart]
  exact s.resolve_mono (Nat.zero_le q)

/-- **A nudge is a walk from position to position**, for every reachable slider that is enabled.

* It has the result, the state and the hook calls of the walk that goes on until the value changes,
  and does nothing at all if no position on its side has another value.
* It goes to the next value that a position has, and the opposite nudge goes back from there.
* Nudges up from the start of the range visit each value that a position has once, in ascending order,
  and then stay where they are. -/
theorem nudge_walks (h : s.Reachable) (henabled : s.disabled = false) :
    (∀ step, s.nudge step = s.walk step) ∧
    (∀ step, (∀ p < s.steps, step.Beyond s.position p → s.resolve p = s.value) →
      s.nudge step = ⟨s, none, []⟩) ∧
    (∀ step w, (s.nudge step).changed = some w ↔ s.Adjacent step s.value w) ∧
    (∀ step w, (s.nudge step).changed = some w → (s.nudge step).slider.value = w ∧
      ((s.nudge step).slider.nudge step.opposite).changed = some s.value ∧
      ((s.nudge step).slider.nudge step.opposite).slider.value = s.value) ∧
    (s.position = 0 → ∃ n, (s.climb n).Pairwise (· < ·) ∧ (∀ v, v ∈ s.climb n ↔ s.Reaches v) ∧
      (s.climbed n).nudge .increase = ⟨s.climbed n, none, []⟩) := by
  have hstanding := h.standing
  refine ⟨nudge_eq_walk hstanding henabled, fun step hsame => ?_, fun step w =>
    changed_nudge_iff henabled, fun step w hw => ?_, fun hstart => ?_⟩
  · refine (nudge_eq_still_iff henabled).2 fun w hw hbeyond => ?_
    obtain ⟨q, hq, rfl⟩ := hw
    have hside : step.Beyond s.position q := beyond_of_resolve (hstanding.value_eq ▸ hbeyond)
    exact step.not_beyond_self s.value (hsame q hq hside ▸ hbeyond)
  · have hback := changed_nudge_opposite hstanding henabled hw
    exact ⟨value_nudge hw, hback, value_nudge hback⟩
  · obtain ⟨n, hsorted, hmem, hend⟩ := exists_climb hstanding henabled
    refine ⟨n, hsorted, fun v => ?_, hend⟩
    rw [hmem]
    exact and_iff_left_of_imp (hstanding.value_le hstart)

/-- Position 10 of the serif slider has the value of position 9 as well; a nudge up from there walks
over it. -/
theorem nudge_walks_over_ten :
    let s := ((create .serifSize .fontSizes false).input 9).slider
    s.Reachable ∧ s.disabled = false ∧ s.value = 18 ∧ s.resolve 10 = 18 ∧
      s.walk? .increase = some 11 ∧ s.nudge .increase = s.walk .increase ∧
      (s.nudge .increase).changed = some 20 := by
  intro s
  have hreachable : s.Reachable := (Reachable.create .serifSize .fontSizes false).handle (.input 9)
  have henabled : s.disabled = false := by decide +kernel +zetaReduce
  exact ⟨hreachable, henabled, by decide +kernel +zetaReduce, by decide +kernel +zetaReduce,
    by decide +kernel +zetaReduce, (nudge_walks hreachable henabled).1 .increase,
    by decide +kernel +zetaReduce⟩

end Slider
end FontPreferences
