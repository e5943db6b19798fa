import FontPreferences.Text.Emoji
import FontPreferences.Text.Ligature

/-
The width of text in the cells of a screen.

`width` measures a text from its end, since what a character adds depends on what follows it: a
selector chooses the form of the character before it, an emoji sequence takes two cells as a whole,
and a ligature takes the cells of one letter.
-/
namespace FontPreferences
namespace Text

/-- What follows a character, as far as the cells that it takes depend on it. -/
inductive Following where
  /-- Nothing that matters. -/
  | other
  | lineFeed
  | selector (form : Form)
  | emoji (rest : EmojiRest)
  /-- The rest of a ligature, perhaps with a joiner, and perhaps with a selector, before it. -/
  | ligature (rest : LigatureRest) (joined : Bool) (form : Option Form)
deriving DecidableEq, Repr

namespace Following

/-- The form that is chosen for the character before. -/
def form? : Following → Option Form
  | .selector form => some form
  | .emoji rest => if rest.isSelected then some .emoji else none
  | .ligature _ _ form => form
  | _ => none

/-- What follows, but for the choice of a form. -/
def withoutForm : Following → Following
  | .ligature rest joined _ => .ligature rest joined none
  | f => if f.form?.isSome then .other else f

/-- What follows a character before a selector. -/
def select (form : Form) : Following → Following
  | .ligature rest joined _ => .ligature rest joined (some form)
  | .emoji rest =>
    match form, rest.select? with
    | .emoji, some rest => .emoji rest
    | form, _ => .selector form
  | _ => .selector form

/-- The cells of a character that what follows does not change, and what it is for the character
before it. -/
def alone (c : Char) : Int × Following :=
  match EmojiRest.ofChar? c, LigatureRest.ofChar? c with
  | some rest, _ => (charWidth c, .emoji rest)
  | none, some rest => (charWidth c, .ligature rest false none)
  | none, none => (charWidth c, .other)

/-- The cells that a character of ASCII or a control adds.  A line end of two characters takes one. -/
def basicBefore (f : Following) (c : Char) : Int × Following :=
  if c = '\n' then (1, .lineFeed)
  else if c = '\r' ∧ f = .lineFeed then (0, .other)
  else (1, .other)

/-- The cells that a character adds in its own form, and what it and the rest are for the character
before it. -/
def plainBefore (f : Following) (c : Char) : Int × Following :=
  if c.toNat ≤ 0xa0 then f.basicBefore c
  else
    match Form.ofSelector? c, f with
    | some form, f => (0, f.select form)
    | none, .emoji rest =>
      match rest.before? c with
      | some (cells, rest) => (cells, .emoji rest)
      | none => alone c
    | none, .ligature rest joined _ =>
      match rest.before? joined c with
      | some (cells, some rest) => (cells, .ligature rest false none)
      | some (cells, none) => (cells, .other)
      | none =>
        if c = '\u200d' ∧ rest ≠ .alef then (0, .ligature rest true none)
        else if rest.skips c then (0, .ligature rest joined none)
        else alone c
    | none, _ => alone c

/-- The cells that a character adds before the rest of a text, and what it and the rest are for the
character before it. -/
def before (f : Following) (c : Char) : Int × Following :=
  match f.form? with
  | some .emoji =>
    if !hasTwoForms c then f.withoutForm.plainBefore c
    else (match f with | .emoji _ => 0 | _ => 2, .emoji .emoji)
  | some .text => if isNarrowAsText c then (1, .other) else f.withoutForm.plainBefore c
  | none => f.plainBefore c

end Following

/-- The cells that characters take, and what they are for a character before them. -/
def measure : List Char → Int × Following
  | [] => (0, .other)
  | c :: rest =>
    let (cells, following) := measure rest
    let (added, following) := following.before c
    (cells + added, following)

/-- The number of cells that characters in a row take. -/
def width (cs : List Char) : Nat :=
  (measure cs).1.toNat

end Text
end FontPreferences
