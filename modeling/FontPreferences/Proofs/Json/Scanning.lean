import FontPreferences.Json.Token
import FontPreferences.Json.Writer
import FontPreferences.Proofs.Binary64.Rounding
import Mathlib.Data.List.TakeWhile

/-
The tokens of written text.

* `scanFrom_writeText`: a written string is one token, the one of the string, whatever comes after it;
* `scanFrom_toString`: so is a written integer of at most fifty-three bits, if what comes after it
  cannot go on as a numeral.

The scan does not read an escape before the string ends: it holds the characters as they stand, and
`pieces?` reads them together.  So a string is followed twice, once up to its closing quote and once
from piece to piece; `Escape` lists the three ways to write a character for both.
-/
namespace FontPreferences
namespace Json

/-! ### Strings -/

/-- The ways in which a character is written in a string. -/
inductive Escape (c : Char) : List Char → Prop where
  | letter (x : Char) (h : simpleEscape? x = some c) : Escape c ['\\', x]
  | number (h : c.toNat < 0x20) :
    Escape c ['\\', 'u', '0', '0', Nat.digitChar (c.toNat / 16), Nat.digitChar (c.toNat % 16)]
  | plain (quote : c ≠ '"') (backslash : c ≠ '\\') (h : 0x20 ≤ c.toNat) : Escape c [c]

theorem escape_escapeChar (c : Char) : Escape c (escapeChar c) := by
  unfold escapeChar
  split
  · exact .letter _ rfl
  · exact .letter _ rfl
  · exact .letter _ rfl
  · exact .letter _ rfl
  · exact .letter _ rfl
  · exact .letter _ rfl
  · exact .letter _ rfl
  · next hquote hbackslash _ _ _ _ _ =>
    split
    · next h => exact .number h
    · next h => exact .plain hquote hbackslash (Nat.le_of_not_lt h)

theorem hexDigit?_digitChar : ∀ d < 16, hexDigit? (Nat.digitChar d) = some d := by
  decide

theorem digitChar_ne : ∀ d < 16, Nat.digitChar d ≠ '"' ∧ Nat.digitChar d ≠ '\\' := by
  decide

theorem scanFrom_string_plain {c : Char} (hquote : c ≠ '"') (hbackslash : c ≠ '\\')
    (held rest : List Char) :
    scanFrom (.string held) (c :: rest) = scanFrom (.string (c :: held)) rest := by
  rw [scanFrom, if_neg hbackslash, if_neg hquote]

/-- The character after a backslash does not end a string. -/
theorem scanFrom_string_backslash (x : Char) (held rest : List Char) :
    scanFrom (.string held) ('\\' :: x :: rest) = scanFrom (.string (x :: '\\' :: held)) rest := by
  rw [scanFrom, if_pos rfl, scanFrom]

theorem Escape.scanFrom_string {c : Char} {w : List Char} (hw : Escape c w)
    (held rest : List Char) :
    scanFrom (.string held) (w ++ rest) = scanFrom (.string (w.reverse ++ held)) rest := by
  cases hw with
  | letter x h => exact scanFrom_string_backslash x held rest
  | number h =>
    obtain ⟨hhigh, hhigh'⟩ := digitChar_ne (c.toNat / 16) (by omega)
    obtain ⟨hlow, hlow'⟩ := digitChar_ne (c.toNat % 16) (by omega)
    simp only [List.cons_append, List.nil_append, List.reverse_cons, List.reverse_nil]
    rw [scanFrom_string_backslash, scanFrom_string_plain (by decide) (by decide),
      scanFrom_string_plain (by decide) (by decide), scanFrom_string_plain hhigh hhigh',
      scanFrom_string_plain hlow hlow']
  | plain hquote hbackslash h => exact scanFrom_string_plain hquote hbackslash held rest

theorem scanFrom_string_escaped (cs held rest : List Char) :
    scanFrom (.string held) (cs.flatMap escapeChar ++ rest)
      = scanFrom (.string ((cs.flatMap escapeChar).reverse ++ held)) rest := by
  induction cs generalizing held with
  | nil => rfl
  | cons c cs ih =>
    rw [List.flatMap_cons, List.append_assoc, (escape_escapeChar c).scanFrom_string, ih,
      List.reverse_append, List.append_assoc]

/-- A piece that stands for a character, whatever comes after it. -/
def Piece.StandsFor (p : Piece) (c : Char) : Prop :=
  ∀ ps, joinPieces? (p :: ps) = (joinPieces? ps).map (c :: ·)

theorem standsFor_char (c : Char) : (Piece.char c).StandsFor c := by
  intro ps
  rw [joinPieces?]

/-- A code unit below the surrogates stands for its character. -/
theorem standsFor_unit {n : Nat} (h : n < 0xd800) : (Piece.unit n).StandsFor (Char.ofNat n) := by
  have hleading : ¬(0xd800 ≤ n ∧ n < 0xdc00) := by omega
  have htrailing : ¬(0xdc00 ≤ n ∧ n < 0xe000) := by omega
  have hsurrogate : ¬(0xd800 ≤ n ∧ n < 0xe000) := by omega
  intro ps
  rcases ps with _ | ⟨d | m, ps⟩
  · simp only [joinPieces?, if_neg hsurrogate]
  · simp only [joinPieces?, if_neg hsurrogate]
  · simp only [joinPieces?, if_neg hleading, if_neg htrailing]

/-- A written character is read as one piece, which stands for it. -/
theorem Escape.exists_piece {c : Char} {w : List Char} (hw : Escape c w) :
    ∃ p : Piece, p.StandsFor c ∧ ∀ rest, pieces? (w ++ rest) = (pieces? rest).map (p :: ·) := by
  cases hw with
  | letter x h =>
    have hu : x ≠ 'u' := by
      rintro rfl
      exact absurd h (by simp [simpleEscape?])
    refine ⟨.char c, standsFor_char c, fun rest => ?_⟩
    show pieces? ('\\' :: x :: rest) = _
    rw [pieces?]
    · rw [h]
      cases pieces? rest <;> rfl
    · intro _ _ _ _ _ hx
      exact absurd hx hu
  | number h =>
    refine ⟨.unit c.toNat, ?_, fun rest => ?_⟩
    · have hunit := standsFor_unit (n := c.toNat) (by omega)
      rwa [Char.ofNat_toNat] at hunit
    · have hzero : hexDigit? '0' = some 0 := by decide
      have hunit : hexUnit? '0' '0' (Nat.digitChar (c.toNat / 16)) (Nat.digitChar (c.toNat % 16))
          = some c.toNat := by
        rw [hexUnit?, hzero, hexDigit?_digitChar _ (by omega), hexDigit?_digitChar _ (by omega)]
        show some _ = some _
        congr 1
        omega
      show pieces? ('\\' :: 'u' :: '0' :: '0' :: _ :: _ :: rest) = _
      rw [pieces?, hunit]
      cases pieces? rest <;> rfl
  | plain hquote hbackslash h =>
    refine ⟨.char c, standsFor_char c, fun rest => ?_⟩
    rw [List.singleton_append, pieces?, if_neg (by omega)]
    -- the readings of a backslash do not apply
    · intro _ _ _ _ _ hc
      exact absurd hc hbackslash
    · intro _ _ hc
      exact absurd hc hbackslash
    · intro hc
      exact absurd hc hbackslash

/-- What stands between the quotes of a written string is the string. -/
theorem stringToken?_escaped (cs : List Char) :
    stringToken? (cs.flatMap escapeChar) = some (.text cs) := by
  have hpieces : ∃ ps, pieces? (cs.flatMap escapeChar) = some ps ∧ joinPieces? ps = some cs := by
    induction cs with
    | nil => exact ⟨[], rfl, rfl⟩
    | cons c cs ih =>
      obtain ⟨ps, hps, hjoin⟩ := ih
      obtain ⟨p, hp, hread⟩ := (escape_escapeChar c).exists_piece
      refine ⟨p :: ps, ?_, ?_⟩
      · rw [List.flatMap_cons, hread, hps, Option.map_some]
      · rw [hp, hjoin, Option.map_some]
  obtain ⟨ps, hps, hjoin⟩ := hpieces
  rw [stringToken?, hps, Option.map_some, hjoin]

theorem toList_writeText (s : String) :
    (writeText s).toList = '"' :: s.toList.flatMap escapeChar ++ ['"'] :=
  String.toList_ofList

/-- A character between tokens begins what `start?` says. -/
theorem scanFrom_between {c : Char} {token : Option Token} {next : Scan}
    (h : start? c = some (token, next)) (cs : List Char) :
    scanFrom .between (c :: cs) = (scanFrom next cs).map (token.toList ++ ·) := by
  rw [scanFrom, h]
  show ((scanFrom next cs).bind fun tail => some (token.toList ++ tail)) = _
  cases scanFrom next cs <;> rfl

/-- **A written string is one token.** -/
theorem scanFrom_writeText (s : String) (rest : List Char) :
    scanFrom .between ((writeText s).toList ++ rest)
      = (scanFrom .between rest).map (.text s.toList :: ·) := by
  have hstart : start? '"' = some (none, .string []) := rfl
  rw [toList_writeText, List.append_assoc, List.cons_append, scanFrom_between hstart,
    scanFrom_string_escaped, List.append_nil, List.singleton_append, scanFrom,
    if_neg (by decide), if_pos rfl, List.reverse_reverse, stringToken?_escaped]
  cases scanFrom .between rest <;> rfl

/-! ### Integers -/

namespace Numeral

/-- The digits of a positive number do not start with a zero. -/
theorem head?_toDigits {n : Nat} (h : 0 < n) : (Nat.toDigits 10 n).head? ≠ some '0' := by
  induction n using Nat.strongRecOn with
  | ind n ih =>
    by_cases hlt : n < 10
    · have hdigit : ∀ d < 10, 0 < d → Nat.digitChar d ≠ '0' := by decide
      rw [Nat.toDigits_of_lt_base hlt, List.head?_cons]
      intro heq
      exact hdigit n hlt h (Option.some_inj.1 heq)
    · rw [Nat.toDigits_of_base_le (by decide) (by omega),
        List.head?_append_of_ne_nil _ Nat.toDigits_ne_nil]
      exact ih (n / 10) (by omega) (by omega)

theorem isWhole_toDigits (n : Nat) : isWhole (Nat.toDigits 10 n) = true := by
  rcases Nat.eq_zero_or_pos n with rfl | h
  · rfl
  · have hhead := head?_toDigits h
    simp [isWhole, hhead]

theorem isDigit_of_mem_toDigits {n : Nat} {c : Char} (h : c ∈ Nat.toDigits 10 n) :
    c.isDigit = true :=
  Nat.isDigit_of_mem_toDigits (by decide) (by decide) h

theorem valueIn_toDigits (n : Nat) : Text.valueIn 10 (Nat.toDigits 10 n) = n := by
  have hfold : Text.valueIn 10 (Nat.toDigits 10 n)
      = Nat.ofDigitChars 10 (Nat.toDigits 10 n) 0 := by
    rw [Nat.ofDigitChars_eq_foldl, Text.valueIn]
    refine List.foldl_ext _ _ _ fun value c hc => ?_
    rw [Text.digitValue, if_pos (isDigit_of_mem_toDigits hc)]
  rw [hfold, Nat.ofDigitChars_ten_toDigits]

theorem le_ofDigitChars (ds : List Char) (start : Nat) : start ≤ Nat.ofDigitChars 10 ds start := by
  induction ds generalizing start with
  | nil => exact Nat.le_refl start
  | cons d ds ih =>
    rw [Nat.ofDigitChars_cons]
    have hnext := ih (10 * start + (d.toNat - '0'.toNat))
    omega

/-- A fold that takes every digit up to a bound takes all digits of a number below it. -/
theorem foldl_ofDigitChars {bound : Nat} {take : Nat × Nat × Nat → Char → Nat × Nat × Nat}
    (htake : ∀ significand taken d, 10 * significand + (d.toNat - '0'.toNat) < bound →
      take (significand, taken, 0) d = (10 * significand + (d.toNat - '0'.toNat), taken + 1, 0))
    {ds : List Char} {start : Nat} (h : Nat.ofDigitChars 10 ds start < bound) (taken : Nat) :
    ds.foldl take (start, taken, 0)
      = (Nat.ofDigitChars 10 ds start, taken + ds.length, 0) := by
  induction ds generalizing start taken with
  | nil => rfl
  | cons d ds ih =>
    rw [Nat.ofDigitChars_cons] at h ⊢
    -- the number of the digits so far is no greater than that of all
    have hnext := le_ofDigitChars ds (10 * start + (d.toNat - '0'.toNat))
    rw [List.foldl_cons, htake start taken d (by omega), ih h, List.length_cons, Nat.add_assoc,
      Nat.add_comm 1]

/-- Digits whose number fits in sixty-four bits are all taken. -/
theorem fill_eq {ds : List Char} {start : Nat} (h : Nat.ofDigitChars 10 ds start < UInt64.size) :
    fill ds start = (Nat.ofDigitChars 10 ds start, ds.length, 0) := by
  rw [fill, foldl_ofDigitChars (fun significand taken d hnext => if_pos ⟨rfl, hnext⟩) h 0,
    Nat.zero_add]

/-- A number of at most fifty-three bits is exact and far below the bound of the format. -/
theorem inRange_toDigits (negative : Bool) {n : Nat} (h : n < 2 ^ 53) :
    inRange ⟨negative, Nat.toDigits 10 n, none, none⟩ = true := by
  have hsize : n < UInt64.size := h.trans (by decide)
  have hfill : fill (Nat.toDigits 10 n) 0 = (n, (Nat.toDigits 10 n).length, 0) := by
    have hvalue : Nat.ofDigitChars 10 (Nat.toDigits 10 n) 0 = n := Nat.ofDigitChars_ten_toDigits
    rw [fill_eq (hvalue.symm ▸ hsize), hvalue]
  have hone : Binary64.nearest (1 : Rat) = 1 := Binary64.representable_one.nearest_eq
  have hnearest : Binary64.nearest (n : Rat) = n := by
    exact_mod_cast Binary64.nearest_intCast (k := n) (by simpa using h)
  have hbound : (n : Rat) < Binary64.twoPow 1024 :=
    calc (n : Rat) < Binary64.twoPow 53 := by
          rw [Binary64.twoPow_eq_zpow]
          exact_mod_cast h
      _ < Binary64.twoPow 1024 := Binary64.twoPow_lt_twoPow.2 (by decide)
  unfold inRange
  rw [hfill]
  simp [fill, hone, hnearest, hbound]

/-- The numeral of an integer, without a fraction and an exponent. -/
def ofInt (z : Int) : Numeral :=
  ⟨z < 0, Nat.toDigits 10 z.natAbs, none, none⟩

theorem token_ofInt {z : Int} (h : z.natAbs < 2 ^ 53) : (ofInt z).token = .integer z := by
  have hrange : (ofInt z).inRange = true := inRange_toDigits _ h
  have hvalue : Text.valueIn 10 (ofInt z).whole = z.natAbs := valueIn_toDigits _
  rw [token, hrange, hvalue]
  by_cases hz : z < 0
  · have hnegative : (ofInt z).negative = true := decide_eq_true hz
    obtain ⟨n, hn⟩ : ∃ n, z.natAbs = n + 1 := ⟨z.natAbs - 1, by omega⟩
    rw [hnegative, hn]
    show Token.integer (-((n + 1 : Nat) : Int)) = .integer z
    congr 1
    omega
  · have hnegative : (ofInt z).negative = false := decide_eq_false hz
    rw [hnegative]
    show Token.integer (z.natAbs : Int) = .integer z
    congr 1
    omega

/-- Digits are read as a numeral of their own, with and without a minus before them. -/
theorem ofChars?_digits {ds : List Char} (hwhole : isWhole ds = true)
    (hdigits : ∀ c ∈ ds, c.isDigit = true) :
    ofChars? ds = some ⟨false, ds, none, none⟩ ∧
      ofChars? ('-' :: ds) = some ⟨true, ds, none, none⟩ := by
  have htake : ds.takeWhile Char.isDigit = ds := List.takeWhile_eq_self_iff.2 hdigits
  have hdrop : ds.dropWhile Char.isDigit = [] := List.dropWhile_eq_nil_iff.2 hdigits
  have hparts : parts? [] = some (none, none) := rfl
  have hminus : ∀ cs, ds ≠ '-' :: cs := by
    rintro cs rfl
    exact absurd (hdigits '-' List.mem_cons_self) (by decide)
  constructor
  · unfold ofChars?
    split
    next negative cs heq =>
    split at heq
    · exact absurd rfl (hminus _)
    · cases heq
      dsimp only
      rw [htake, hdrop, if_pos hwhole, hparts]
      rfl
  · show (if isWhole (ds.takeWhile Char.isDigit) then (parts? (ds.dropWhile Char.isDigit)).map
      (fun p => (⟨true, ds.takeWhile Char.isDigit, p.1, p.2⟩ : Numeral)) else none) = _
    rw [htake, hdrop, if_pos hwhole, hparts]
    rfl

theorem toList_toString (z : Int) : (toString z).toList
    = if z < 0 then '-' :: Nat.toDigits 10 z.natAbs else Nat.toDigits 10 z.natAbs := by
  rw [Int.toString_eq_repr, Int.repr_eq_if]
  by_cases hz : z < 0
  · have habs : (-z).toNat = z.natAbs := by omega
    rw [if_neg (by omega), if_pos hz, habs, Nat.repr_eq_ofList_toDigits, String.toList_append,
      String.toList_ofList, String.toList_ofList, List.singleton_append]
  · have habs : z.toNat = z.natAbs := by omega
    rw [if_pos (by omega), if_neg hz, habs, Nat.repr_eq_ofList_toDigits, String.toList_ofList]

theorem ofChars?_toString (z : Int) : ofChars? (toString z).toList = some (ofInt z) := by
  obtain ⟨hpositive, hnegative⟩ := ofChars?_digits (isWhole_toDigits z.natAbs)
    fun c hc => isDigit_of_mem_toDigits hc
  rw [toList_toString, ofInt]
  by_cases hz : z < 0
  · rw [if_pos hz, hnegative, decide_eq_true hz]
  · rw [if_neg hz, hpositive, decide_eq_false hz]

end Numeral

theorem scanFrom_numeral {ds : List Char} (h : ∀ c ∈ ds, isNumeralChar c = true)
    (held rest : List Char) :
    scanFrom (.numeral held) (ds ++ rest) = scanFrom (.numeral (ds.reverse ++ held)) rest := by
  induction ds generalizing held with
  | nil => rfl
  | cons d ds ih =>
    rw [List.cons_append, scanFrom, if_pos (h d List.mem_cons_self),
      ih fun c hc => h c (List.mem_cons_of_mem _ hc), List.reverse_cons, List.append_assoc,
      List.singleton_append]

/-- A numeral ends before the first character that cannot stand in one. -/
theorem scanFrom_numeral_end {held : List Char} {n : Numeral}
    (hn : Numeral.ofChars? held.reverse = some n) {c : Char} (hc : isNumeralChar c = false)
    (cs : List Char) :
    scanFrom (.numeral held) (c :: cs) = (scanFrom .between (c :: cs)).map (n.token :: ·) := by
  have hstep : scanFrom (.numeral held) (c :: cs) = (start? c).bind fun begun =>
      (scanFrom begun.2 cs).bind fun tail => some (n.token :: begun.1.toList ++ tail) := by
    rw [scanFrom, hc, if_neg (by decide), hn]
    rfl
  rw [hstep]
  cases hstart : start? c with
  | none => simp [scanFrom, hstart]
  | some begun =>
    rw [scanFrom_between hstart, Option.bind_some]
    cases scanFrom begun.2 cs <;> rfl

theorem start?_of_isDigit {c : Char} (h : c.isDigit = true) :
    start? c = some (none, .numeral [c]) := by
  have hne : ∀ d : Char, d.isDigit = false → c ≠ d := by
    rintro d hd rfl
    rw [h] at hd
    exact absurd hd (by decide)
  simp [start?, isSpace, h, hne ' ' rfl, hne '\n' rfl, hne '\t' rfl, hne '\r' rfl, hne '"' rfl]

/-- **A written integer is one token**, if the text does not go on as a numeral. -/
theorem scanFrom_toString {z : Int} (hz : z.natAbs < 2 ^ 53) {c : Char}
    (hc : isNumeralChar c = false) (rest : List Char) :
    scanFrom .between ((toString z).toList ++ c :: rest)
      = (scanFrom .between (c :: rest)).map (.integer z :: ·) := by
  have hdigit : ∀ d ∈ Nat.toDigits 10 z.natAbs, isNumeralChar d = true := by
    intro d hd
    simp [isNumeralChar, Numeral.isDigit_of_mem_toDigits hd]
  -- the first character begins a numeral, and the others go on with it
  obtain ⟨first, others, htext, hfirst, hothers⟩ : ∃ first others,
      (toString z).toList = first :: others ∧ start? first = some (none, .numeral [first]) ∧
        ∀ d ∈ others, isNumeralChar d = true := by
    rw [Numeral.toList_toString]
    by_cases hneg : z < 0
    · rw [if_pos hneg]
      exact ⟨'-', _, rfl, rfl, hdigit⟩
    · rw [if_neg hneg]
      obtain ⟨first, others, htext⟩ := List.exists_cons_of_ne_nil
        (Nat.toDigits_ne_nil (n := z.natAbs) (b := 10))
      refine ⟨first, others, htext, ?_, fun d hd => ?_⟩
      · have hmem : first ∈ Nat.toDigits 10 z.natAbs := htext ▸ List.mem_cons_self
        exact start?_of_isDigit (Numeral.isDigit_of_mem_toDigits hmem)
      · exact hdigit d (htext ▸ List.mem_cons_of_mem _ hd)
  have hread := Numeral.ofChars?_toString z
  rw [htext] at hread
  have hheld : (others.reverse ++ [first]).reverse = first :: others := by simp
  rw [htext, List.cons_append, scanFrom_between hfirst, scanFrom_numeral hothers,
    scanFrom_numeral_end (hheld ▸ hread) hc, Numeral.token_ofInt hz]
  cases scanFrom .between (c :: rest) <;> rfl

end Json
end FontPreferences
