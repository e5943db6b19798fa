import FontPreferences.Command
import Mathlib.Data.List.Forall2
import Mathlib.Data.List.Infix

/-
What a listing of the preferences shows.

A listing is described apart from the function that prints it, from its smallest parts up.

* `Text.Column n s t`: the text `t` is `s` with spaces behind it, up to `n` characters;
* `Value.ShownAs`, `Source.ShownAs`: the texts that stand for a value and for a layer;
* `Entry.Line e line`: the key in a column of 44 characters, the value in one of 24, the layer in
  brackets;
* `Store.Listing s text`: one line for each row of the store, in order.

The printed texts are the only ones of these shapes: `column_iff`, `line_iff`, `listing_iff`.
-/
namespace FontPreferences

namespace Text

/-- A text at the left of a column of `n` characters, with nothing but spaces behind it.  A longer text
takes as many characters as it has. -/
structure Column (n : Nat) (s column : String) : Prop where
  starts : s.toList <+: column.toList
  length : column.length = max n s.length
  spaces : ∀ c ∈ column.toList.drop s.length, c = ' '

theorem column_iff {n : Nat} {s column : String} : Column n s column ↔ column = padRight n s := by
  rw [padRight, ← String.toList_inj, String.toList_append, String.toList_ofList]
  constructor
  · rintro ⟨⟨rest, hrest⟩, hlength, hspaces⟩
    rw [← String.length_toList, ← hrest, List.length_append, String.length_toList] at hlength
    rw [← hrest, ← String.length_toList, List.drop_left] at hspaces
    have hcount : rest.length = n - s.length := by omega
    rw [← hrest, List.eq_replicate_iff.2 ⟨hcount, hspaces⟩]
  · intro heq
    refine ⟨⟨_, heq.symm⟩, ?_, ?_⟩
    · rw [← String.length_toList, heq, List.length_append, List.length_replicate,
        String.length_toList]
      omega
    · rw [heq, ← String.length_toList, List.drop_left]
      exact fun c hc => List.eq_of_mem_replicate hc

end Text

namespace Preference

/-- The text that stands for a value: an integer in decimal, a text in quotes. -/
inductive Value.ShownAs : Value → String → Prop where
  | integer (n : Int32) : ShownAs (.integer n) (toString n.toInt)
  | text (s : String) : ShownAs (.text s) (Text.quoted s)

theorem Value.shownAs_iff {value : Value} {shown : String} :
    value.ShownAs shown ↔ shown = value.display := by
  constructor
  · rintro (_ | _) <;> rfl
  · rintro rfl
    cases value with
    | integer n => exact .integer n
    | text s => exact .text s

/-- The text that stands for a layer. -/
inductive Source.ShownAs : Source → String → Prop where
  | default : ShownAs .default "default"
  | user : ShownAs .user "user"
  | policy : ShownAs .policy "policy"

theorem Source.shownAs_iff {source : Source} {shown : String} :
    source.ShownAs shown ↔ shown = source.label := by
  constructor
  · rintro (_ | _ | _) <;> rfl
  · rintro rfl
    cases source with
    | default => exact .default
    | user => exact .user
    | policy => exact .policy

/-- The line of a row: the key and the value in columns, and the layer in brackets. -/
inductive Entry.Line (e : Entry) : String → Prop where
  | columns {key shown value source : String} (hkey : Text.Column 44 e.key key)
    (hshown : e.value.ShownAs shown) (hvalue : Text.Column 24 shown value)
    (hsource : e.source.ShownAs source) :
    Line e (key ++ " " ++ value ++ " [" ++ source ++ "]\n")

theorem Entry.line_iff {e : Entry} {line : String} : e.Line line ↔ line = entryText e := by
  constructor
  · rintro ⟨hkey, hshown, hvalue, hsource⟩
    rw [Value.shownAs_iff] at hshown
    rw [Text.column_iff, hshown] at hvalue
    rw [Text.column_iff] at hkey
    rw [Source.shownAs_iff] at hsource
    rw [hkey, hvalue, hsource, entryText]
  · rintro rfl
    exact .columns (Text.column_iff.2 rfl) (Value.shownAs_iff.2 rfl) (Text.column_iff.2 rfl)
      (Source.shownAs_iff.2 rfl)

/-- A text that lists the rows of a store, line by line. -/
def Store.Listing (s : Store) (text : String) : Prop :=
  ∃ lines, List.Forall₂ Entry.Line s.entries lines ∧ text = String.join lines

theorem Entry.forall₂_line_iff {entries : List Entry} {lines : List String} :
    List.Forall₂ Entry.Line entries lines ↔ entries.map entryText = lines := by
  have hline : Entry.Line = fun e line => entryText e = line := by
    funext e line
    exact propext (Entry.line_iff.trans eq_comm)
  rw [hline, ← List.forall₂_eq_eq_eq, List.forall₂_map_left_iff]

/-- **The printed listing is the one text that lists the rows of a store.** -/
theorem Store.listing_iff {s : Store} {text : String} :
    s.Listing text ↔ text = storeListing s := by
  simp only [Listing, storeListing, Entry.forall₂_line_iff, exists_eq_left']

end Preference
end FontPreferences
