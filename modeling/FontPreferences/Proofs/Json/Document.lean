import FontPreferences.Json.Reader
import FontPreferences.Proofs.Json.Scanning

/-
Written objects are read back.

* `Writes text token v`: the text is one token, which begins and ends the value;
* `writes_text` and `writes_integer`: so are the texts that are written for strings and integers;
* `read?_writeObject`: an object of such members is read as it was written, member by member.

A `Member` carries the proof that its text stands for its value, so that nothing remains to be assumed
of the members of an object.
-/
namespace FontPreferences
namespace Json

/-- A text that is one token, wherever what follows cannot go on as a numeral, and the value that the
token begins and ends. -/
structure Writes (text : String) (token : Token) (v : Json) : Prop where
  scan : ∀ c rest, isNumeralChar c = false →
    scanFrom .between (text.toList ++ c :: rest)
      = (scanFrom .between (c :: rest)).map (token :: ·)
  value : ∀ limit stack, Reader.beginValue? limit stack token = some (Reader.deliver stack v)
  sound : token ≠ .faulty

theorem writes_text (s : String) : Writes (writeText s) (.text s.toList) (.text s) := by
  refine ⟨fun c rest _ => scanFrom_writeText s _, fun limit stack => ?_, by simp⟩
  rw [Reader.beginValue?, String.ofList_toList]

theorem writes_integer {z : Int} (hz : z.natAbs < 2 ^ 53) :
    Writes (toString z) (.integer z) (.integer z) :=
  ⟨fun _ rest hc => scanFrom_toString hz hc rest, fun _ _ => rfl, by simp⟩

/-- A member of an object, with its value as text, as token and as it is read. -/
structure Member where
  key : String
  text : String
  token : Token
  value : Json
  writes : Writes text token value

namespace Member

/-- A member as the writer takes it. -/
def written (m : Member) : String × String :=
  (m.key, m.text)

/-- A member as it is read. -/
def read (m : Member) : String × Json :=
  (m.key, m.value)

/-- The tokens of a member. -/
def tokens (m : Member) : List Token :=
  [.text m.key.toList, .colon, m.token]

/-- The tokens of an object from the end of one of its members on. -/
def tokensAfter : List Member → List Token
  | [] => [.closeBrace]
  | m :: ms => .comma :: m.tokens ++ tokensAfter ms

/-! ### The tokens of a written object -/

theorem scanFrom_writeMember (m : Member) {c : Char} (hc : isNumeralChar c = false)
    (rest : List Char) :
    scanFrom .between ((writeMember m.written).toList ++ c :: rest)
      = (scanFrom .between (c :: rest)).map (m.tokens ++ ·) := by
  have hspace : start? ' ' = some (none, .between) := rfl
  have hcolon : start? ':' = some (some .colon, .between) := rfl
  have hchars : (writeMember m.written).toList ++ c :: rest = ' ' :: ' ' ::
      ((writeText m.key).toList ++ ':' :: ' ' :: (m.text.toList ++ c :: rest)) := by
    simp [writeMember, written, String.toList_append]
  rw [hchars, scanFrom_between hspace, scanFrom_between hspace, scanFrom_writeText,
    scanFrom_between hcolon, scanFrom_between hspace, m.writes.scan c rest hc]
  cases scanFrom .between (c :: rest) <;> rfl

/-- Each member ends at a comma or at the end of its line, which the next token begins with. -/
theorem scanFrom_members (m : Member) (ms : List Member) :
    scanFrom .between ([',', '\n'].intercalate
        ((m :: ms).map fun m => (writeMember m.written).toList) ++ ['\n', '\x7d'])
      = some (m.tokens ++ tokensAfter ms) := by
  have hline : start? '\n' = some (none, .between) := rfl
  have hcomma : start? ',' = some (some .comma, .between) := rfl
  induction ms generalizing m with
  | nil =>
    rw [List.map_singleton, List.intercalate_singleton, scanFrom_writeMember m (by decide)]
    rfl
  | cons m' ms ih =>
    have hrest := ih m'
    rw [List.map_cons] at hrest
    rw [List.map_cons, List.map_cons, List.intercalate_cons_cons, List.append_assoc,
      List.append_assoc, List.cons_append, scanFrom_writeMember m (by decide),
      scanFrom_between hcomma, List.cons_append, scanFrom_between hline, List.nil_append, hrest]
    rfl

theorem scan_writeObject (m : Member) (ms : List Member) :
    Token.scan (writeObject ((m :: ms).map written))
      = some (.openBrace :: m.tokens ++ tokensAfter ms) := by
  have hopen : start? '\x7b' = some (some .openBrace, .between) := rfl
  have hline : start? '\n' = some (none, .between) := rfl
  have hchars : (writeObject ((m :: ms).map written)).toList = '\x7b' :: '\n' ::
      ([',', '\n'].intercalate ((m :: ms).map fun m => (writeMember m.written).toList)
        ++ ['\n', '\x7d']) := by
    simp [writeObject, String.toList_append, String.toList_intercalate, Function.comp_def]
  rw [Token.scan, hchars, scanFrom_between hopen, scanFrom_between hline, scanFrom_members]
  rfl

theorem faulty_not_mem_tokens (m : Member) : Token.faulty ∉ m.tokens := by
  have hsound := m.writes.sound
  simp [tokens, hsound.symm]

theorem faulty_not_mem_tokensAfter (ms : List Member) : Token.faulty ∉ tokensAfter ms := by
  induction ms with
  | nil => simp [tokensAfter]
  | cons m ms ih => simp [tokensAfter, faulty_not_mem_tokens m, ih]

/-! ### Reading the tokens -/

theorem foldlM_tokens (m : Member) {limit : Nat} {awaiting : Awaiting}
    (h : awaiting = .firstKey ∨ awaiting = .key) (before : List (String × Json)) (key : String) :
    m.tokens.foldlM (Reader.step? limit) ⟨[.object before key true], awaiting⟩
      = some ⟨[.object (m.read :: before) m.key true], .separator⟩ := by
  have hkey : Reader.step? limit ⟨[.object before key true], awaiting⟩ (.text m.key.toList)
      = some ⟨[.object before m.key true], .colon⟩ := by
    rcases h with rfl | rfl <;> simp [Reader.step?, Reader.takeKey?]
  have hvalue := m.writes.value limit [.object before m.key true]
  rw [tokens, List.foldlM_cons, hkey]
  show (Reader.step? limit ⟨[.object before m.key true], .value⟩ m.token).bind some = _
  rw [Reader.step?, hvalue]
  rfl

theorem foldlM_tokensAfter (ms : List Member) (limit : Nat) (before : List (String × Json))
    (key : String) :
    (tokensAfter ms).foldlM (Reader.step? limit) ⟨[.object before key true], .separator⟩
      = some ⟨[], .done (.object (before.reverse ++ ms.map read))⟩ := by
  induction ms generalizing before key with
  | nil =>
    rw [List.map_nil, List.append_nil]
    rfl
  | cons m ms ih =>
    have hcomma : Reader.step? limit ⟨[.object before key true], .separator⟩ .comma
        = some ⟨[.object before key true], .key⟩ := rfl
    rw [tokensAfter, List.cons_append, List.foldlM_cons, hcomma, Option.bind_eq_bind,
      Option.bind_some, List.foldlM_append, foldlM_tokens m (.inr rfl), Option.bind_eq_bind,
      Option.bind_some, ih, List.reverse_cons, List.append_assoc, List.singleton_append,
      List.map_cons]

theorem ofTokens?_object (m : Member) (ms : List Member) :
    ofTokens? maxNesting (.openBrace :: m.tokens ++ tokensAfter ms)
      = some (.object ((m :: ms).map read)) := by
  have hopen : Reader.step? maxNesting Reader.start .openBrace
      = some ⟨[.object [] "" true], .firstKey⟩ := rfl
  rw [ofTokens?, List.cons_append, List.foldlM_cons, hopen, Option.bind_eq_bind,
    Option.bind_some, List.foldlM_append, foldlM_tokens m (.inl rfl), Option.bind_eq_bind,
    Option.bind_some, foldlM_tokensAfter]
  rfl

end Member

/-- **A written object is read back**, with its members in the order written. -/
theorem read?_writeObject (ms : List Member) :
    read? (writeObject (ms.map Member.written)) = some (.object (ms.map Member.read)) := by
  cases ms with
  | nil => rfl
  | cons m ms =>
    have hsound : (Token.openBrace :: m.tokens ++ Member.tokensAfter ms).contains .faulty
        = false := by
      simp [Member.faulty_not_mem_tokens, Member.faulty_not_mem_tokensAfter]
    rw [read?, Member.scan_writeObject]
    show (if _ then none else _) = _
    rw [hsound, if_neg (by decide), Member.ofTokens?_object]

end Json
end FontPreferences
