import FontPreferences.Proofs.Preference.Loading
import FontPreferences.Proofs.Preference.Representation

/-
What a store reports to its observers, and what it does not.

* `Reports s s'`: in the step from `s` to `s'` whoever listens receives each effective value that
  changed, and nothing about the others;
* `reports_calls`: every call that changes a layer reports what it does;
* `get?_loadUserFile`: what a load does to the effective values, a locked key being spared;
* `reports_load_iff`: the loads that report what they do are those with nobody to tell, and those
  after which every key has the effective value that it had before;
* `load_unreported`: another load.

A load writes to the user layer past the calls, and with them past the observers.
-/
namespace FontPreferences
namespace Preference
namespace Store

variable {s s' : Store}

/-- Whoever listens receives, in the step from `s` to `s'`, the new effective value of each key that
has another one than before, and nothing about any other key. -/
def Reports (s s' : Store) : Prop :=
  ∀ o pending, s.pending? o = some pending → ∃ news, s'.pending? o = some (pending ++ news) ∧
    (∀ key, s'.get? key ≠ s.get? key →
      ∃ value origin, s'.get? key = some value ∧ ⟨key, value, origin⟩ ∈ news) ∧
    ∀ c ∈ news, s'.get? c.key ≠ s.get? c.key

/-! ### Calls -/

theorem Told.reports {told : Option Change} (h : Told s s' told) : s.Reports s' := by
  intro o pending ho
  refine ⟨told.toList, by rw [h.pending, ho]; rfl, fun key hkey => ?_, fun c hc => ?_⟩
  · rw [h.mirror] at hkey ⊢
    cases told with
    | none => exact absurd rfl hkey
    | some c =>
      -- what is told is about the key, or the value would be the one from before
      by_cases heq : key = c.key
      · subst heq
        exact ⟨c.value, c.origin, if_pos rfl, List.mem_singleton_self c⟩
      · exact absurd (if_neg heq) hkey
  · obtain rfl : told = some c := Option.mem_toList.1 hc
    have hvalue : s'.get? c.key = some c.value := by
      rw [h.mirror]
      exact if_pos rfl
    rw [hvalue]
    exact (h.new c rfl).symm

/-- Each call reports what it does to the effective values. -/
theorem reports_calls (s : Store) (key : String) (value : Value) (origin : String) :
    s.Reports (s.attempt key value origin) ∧ s.Reports (s.attemptClear key) ∧
      s.Reports (s.attemptLock key value) := by
  obtain ⟨_, hset⟩ := told_attempt s key value origin
  obtain ⟨_, hclear⟩ := told_attemptClear s key
  obtain ⟨_, hlock⟩ := told_attemptLock s key value
  exact ⟨hset.reports, hclear.reports, hlock.reports⟩

/-- A step that tells nobody anything reports what it does only if there is nobody to tell, or nothing
to be told. -/
theorem reports_iff_of_silent (h : ∀ o, s'.pending? o = s.pending? o) :
    s.Reports s' ↔ (∀ o, s.pending? o = none) ∨ ∀ key, s'.get? key = s.get? key := by
  constructor
  · intro hreports
    by_cases hnobody : ∀ o, s.pending? o = none
    · exact .inl hnobody
    · obtain ⟨o, ho⟩ := not_forall.1 hnobody
      obtain ⟨pending, hpending⟩ := Option.ne_none_iff_exists'.1 ho
      obtain ⟨news, hnews, hchanged, -⟩ := hreports o pending hpending
      -- whoever listens received no news
      rw [h, hpending, Option.some_inj, List.self_eq_append_right] at hnews
      subst hnews
      refine .inr fun key => ?_
      by_contra hkey
      obtain ⟨_, _, -, hmem⟩ := hchanged key hkey
      exact List.not_mem_nil hmem
  · rintro (hnobody | hsame) o pending ho
    · rw [hnobody] at ho
      exact absurd ho (by simp)
    · exact ⟨[], by rw [h, ho, List.append_nil], fun key hkey => absurd (hsame key) hkey,
        fun c hc => absurd hc List.not_mem_nil⟩

/-! ### Loads -/

/-- The value that the members of a file have for a key, if it is usable. -/
def offered? (s : Store) (members : List (String × Json)) (key : String) : Option Value :=
  ((KeyTable.ofList members).get? key).bind (s.usable? key)

section load

variable {file : FileContent} {loaded : Store × Nat} (hload : s.loadUserFile file = .ok loaded)
include hload

theorem pending?_loadUserFile (o : Nat) : loaded.1.pending? o = s.pending? o := by
  rw [pending?, loadUserFile_observers hload, pending?]

/-- **What a load does to the effective values**: a usable member is effective at its key, unless
policy locks the key. -/
theorem get?_loadUserFile {members : List (String × Json)} (h : file.Holds members) (key : String) :
    loaded.1.get? key
      = if s.isManaged key = true then s.get? key else (s.offered? members key).or (s.get? key) := by
  rw [get?, loadUserFile_managed hload, user_loadUserFile h hload, loadUserFile_defaults hload, get?]
  cases hmanaged : s.isManaged key with
  | false =>
    rw [get?_eq_none_of_isManaged hmanaged, Option.none_or, Option.none_or, if_neg (by simp),
      Option.or_assoc, offered?]
  | true =>
    obtain ⟨value, hvalue⟩ := Option.isSome_iff_exists.1 hmanaged
    rw [hvalue, Option.some_or, Option.some_or, if_pos rfl]

theorem reports_loadUserFile_iff {members : List (String × Json)} (h : file.Holds members) :
    s.Reports loaded.1 ↔ (∀ o, s.pending? o = none) ∨
      ∀ key value, s.isManaged key = false → s.offered? members key = some value →
        s.get? key = some value := by
  rw [reports_iff_of_silent (pending?_loadUserFile hload)]
  refine or_congr_right (forall_congr' fun key => ?_)
  rw [get?_loadUserFile hload h]
  cases s.isManaged key with
  | true => simp
  | false => cases s.offered? members key <;> simp [eq_comm]

end load

/-- **When a load reports what it does.**  A file that holds an object is loaded into any store, and
either nobody listens there, or every usable member of a key without a lock was effective before. -/
theorem reports_load_iff {file : FileContent} {members : List (String × Json)}
    (h : file.Holds members) (s : Store) : ∃ loaded, s.loadUserFile file = .ok loaded ∧
      (s.Reports loaded.1 ↔ (∀ o, s.pending? o = none) ∨
        ∀ key value, s.isManaged key = false → s.offered? members key = some value →
          s.get? key = some value) :=
  ⟨_, loadUserFile_of_holds h, reports_loadUserFile_iff (loadUserFile_of_holds h) h⟩

/-- A size that a file merely restates needs no report, whatever is not usable beside it. -/
theorem reports_load_same_size :
    let s := withFontDefaults.observe.1
    let text := "\x7b\"webkit.webprefs.default_font_size\": 16, \"intl.charset_default\": 7\x7d"
    let members := [(fontSizeKey, .integer 16), (charsetKey, .integer 7)]
    (FileContent.ofText text).Holds members ∧ s.pending? 0 = some [] ∧
      ∃ loaded, s.loadUserFile (.ofText text) = .ok loaded ∧ s.Reports loaded.1 := by
  intro s text members
  have hscan : Json.Token.scan text = some [.openBrace, .text fontSizeKey.toList, .colon,
      .integer 16, .comma, .text charsetKey.toList, .colon, .integer 7, .closeBrace] := by
    decide +kernel +zetaReduce
  have hholds : (FileContent.ofText text).Holds members := .object (by rw [Json.read?, hscan]; rfl)
  have heffective : ∀ e ∈ (KeyTable.ofList members).entries, ∀ value ∈ s.usable? e.1 e.2,
      s.get? e.1 = some value := by decide +kernel +zetaReduce
  obtain ⟨loaded, hload, hreports⟩ := reports_load_iff hholds s
  refine ⟨hholds, rfl, loaded, hload, hreports.2 (.inr fun key value _ hoffered => ?_)⟩
  rw [offered?, Option.bind_eq_some_iff] at hoffered
  obtain ⟨stored, hstored, husable⟩ := hoffered
  exact heffective (key, stored) (KeyTable.mem_of_find? hstored) value husable

/-- **A load that reports nothing**: a file has another size than the one that is effective, and an
observer listens. -/
theorem load_unreported :
    let s := withFontDefaults.observe.1
    let text := "\x7b\"webkit.webprefs.default_font_size\": 20\x7d"
    s.Reachable ∧ s.pending? 0 = some [] ∧ s.get? fontSizeKey = some (.integer 16) ∧
      ∃ loaded, s.loadUserFile (.ofText text) = .ok loaded ∧
        loaded.1.get? fontSizeKey = some (.integer 20) ∧ loaded.1.pending? 0 = some [] ∧
        ¬s.Reports loaded.1 := by
  intro s text
  have hscan : Json.Token.scan text = some [.openBrace, .text fontSizeKey.toList, .colon,
      .integer 20, .closeBrace] := by decide +kernel +zetaReduce
  have hholds : (FileContent.ofText text).Holds [(fontSizeKey, .integer 20)] :=
    .object (by rw [Json.read?, hscan]; rfl)
  have hload := loadUserFile_of_holds (s := s) hholds
  have hbefore : s.get? fontSizeKey = some (.integer 16) := by decide +kernel +zetaReduce
  have hfree : s.isManaged fontSizeKey = false := rfl
  have hoffered : s.offered? [(fontSizeKey, .integer 20)] fontSizeKey = some (.integer 20) := by
    decide +kernel +zetaReduce
  have hlistens : s.pending? 0 = some [] := rfl
  have hafter := get?_loadUserFile hload hholds fontSizeKey
  rw [hfree, if_neg (by simp), hoffered, Option.some_or] at hafter
  refine ⟨.edit .fontDefaults .observe, hlistens, hbefore, _, hload, hafter,
    pending?_loadUserFile hload 0, fun hreports => ?_⟩
  rcases (reports_loadUserFile_iff hload hholds).1 hreports with hnobody | hsame
  · rw [hnobody] at hlistens
    exact absurd hlistens (by simp)
  · rw [hsame fontSizeKey _ hfree hoffered] at hbefore
    exact absurd hbefore (by decide)

end Store
end Preference
end FontPreferences
