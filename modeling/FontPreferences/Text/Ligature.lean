import FontPreferences.Text.Basic
import FontPreferences.Text.CharWidth

/-
Letters that are drawn as a ligature, in the cells of one letter.

* Arabic: lam and alef, with marks between them;
* Hebrew: alef and lamed with a joiner between them;
* Buginese: the letter a with the vowel sign i, a joiner and ya;
* Khmer: a letter with a sign that puts the next letter below it;
* Tifinagh: two consonants with a joiner or the consonant joiner between them;
* Lisu: two tone letters;
* Old Turkic: ec and i with a joiner between them.

A ligature is read from its end.  `LigatureRest` is what has been read of it, and
`LigatureRest.before?` tells how it goes on with the character before.
-/
namespace FontPreferences
namespace Text

/-- The code points of the forms of the Arabic letter alef. -/
def alefRanges : CodeRanges := [
  (0x622, 0x623), (0x625, 0x625), (0x627, 0x627), (0x671, 0x673), (0x675, 0x675), (0x773, 0x774),
  (0x870, 0x882)]

/-- The code points of the forms of the Arabic letter lam. -/
def lamRanges : CodeRanges := [
  (0x644, 0x644), (0x6b5, 0x6b8), (0x76a, 0x76a), (0x8a6, 0x8a6), (0x8c7, 0x8c7)]

/-- The code points of Khmer letters that can stand below another one. -/
def khmerLetterRanges : CodeRanges := [
  (0x1780, 0x1782), (0x1784, 0x1787), (0x1789, 0x178c), (0x178e, 0x1793), (0x1795, 0x1798),
  (0x179b, 0x179d), (0x17a0, 0x17a0), (0x17a2, 0x17a2), (0x17a7, 0x17a7), (0x17ab, 0x17ac),
  (0x17af, 0x17af)]

/-- The code points of Tifinagh consonants. -/
def tifinaghConsonantRanges : CodeRanges := [(0x2d31, 0x2d65), (0x2d6f, 0x2d6f)]

/-- The code points of marks that are not shown. -/
def ignorableMarkRanges : CodeRanges := [
  (0x34f, 0x34f), (0x17b4, 0x17b5), (0x180b, 0x180d), (0x180f, 0x180f), (0xfe00, 0xfe0f),
  (0xe0100, 0xe01ef)]

/-- The end of a ligature. -/
inductive LigatureRest where
  /-- Arabic alef. -/
  | alef
  /-- Hebrew lamed. -/
  | lamed
  /-- Buginese ya. -/
  | buginese
  /-- The Buginese vowel sign i, a joiner and ya. -/
  | bugineseVowel
  /-- A Khmer letter. -/
  | khmer
  /-- A Tifinagh consonant. -/
  | tifinagh
  /-- The Tifinagh consonant joiner and a consonant. -/
  | tifinaghJoiner
  /-- A Lisu tone letter. -/
  | lisu
  /-- Old Turkic i. -/
  | oldTurkic
deriving DecidableEq, Repr

namespace LigatureRest

/-- The rest that one character alone is. -/
def ofChar? (c : Char) : Option LigatureRest :=
  if alefRanges.contains c then some .alef
  else if c = '\u05dc' then some .lamed
  else if c = '\u1a10' then some .buginese
  else if khmerLetterRanges.contains c then some .khmer
  else if tifinaghConsonantRanges.contains c then some .tifinagh
  else if c = '\ua4fc' ∨ c = '\ua4fd' then some .lisu
  else if c.toNat = 0x10c03 then some .oldTurkic
  else none

/-- Whether a mark between the characters of a ligature is skipped. -/
def skips (rest : LigatureRest) (c : Char) : Bool :=
  if rest = .alef then isJoinedAcross c else ignorableMarkRanges.contains c

/-- The cells that the first characters of a ligature add before its rest, and whether there is a
second one that goes on with the ligature.  `joined` tells whether a joiner stands between. -/
def before? (rest : LigatureRest) (joined : Bool) (c : Char) : Option (Int × Option LigatureRest) :=
  match rest with
  | .alef => if lamRanges.contains c then some (0, none) else none
  | .lamed => if joined && c = '\u05d0' then some (0, none) else none
  | .buginese => if joined && c = '\u1a17' then some (0, some .bugineseVowel) else none
  | .bugineseVowel => if c = '\u1a15' then some (0, none) else none
  | .khmer => if c = '\u17d2' then some (-1, none) else none
  | .tifinagh =>
    if c = '\u2d7f' then some (1, some .tifinaghJoiner)
    else if joined && tifinaghConsonantRanges.contains c then some (0, none)
    else none
  | .tifinaghJoiner => if tifinaghConsonantRanges.contains c then some (-1, none) else none
  | .lisu => if '\ua4f8' ≤ c && c ≤ '\ua4fb' then some (0, none) else none
  | .oldTurkic => if joined && c.toNat = 0x10c32 then some (0, none) else none

end LigatureRest
end Text
end FontPreferences
