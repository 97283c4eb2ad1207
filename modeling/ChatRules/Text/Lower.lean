import ChatRules.Text.Case.Table
import ChatRules.Text.Property

/-!
# Lower case

The full lower-casing of a text. Every character is mapped on its own, with two
exceptions: U+0130 becomes two characters, and a capital sigma at the end of a
word becomes a final sigma.

Results:

* `lowerFrom_append`: lower-casing a text in two parts, the second one knowing
  what stands before it and the first one what follows it.
-/

namespace ChatRules.Text

/-- Whether the first character that is not case-ignorable is cased. -/
def meetsCased : List Char → Bool
  | [] => false
  | c :: rest => if isCaseIgnorable c then meetsCased rest else isCased c

/-- Whether a sigma between these texts ends a word: a cased letter stands before
    it, the text before being given backwards, and none after it. -/
def endsWord (before after : List Char) : Bool := meetsCased before && !meetsCased after

/-- The lower case of one character in its surroundings. -/
def lowerAt (before : List Char) (c : Char) (after : List Char) : List Char :=
  if c = 'Σ' then [if endsWord before after then 'ς' else 'σ']
  else if c = '\u0130' then ['i', '\u0307']
  else [shift Case.lower c]

/-- The lower case of `text`, which stands between `before`, given backwards, and
    `after`. -/
def lowerFrom (before text after : List Char) : List Char :=
  match text with
  | [] => []
  | c :: rest => lowerAt before c (rest ++ after) ++ lowerFrom (c :: before) rest after

/-- The lower case of a list of characters. -/
def lowerChars (text : List Char) : List Char := lowerFrom [] text []

/-- The lower case of a text. -/
def lower (text : String) : String := String.ofList (lowerChars text.toList)

theorem lowerFrom_append (before a b after : List Char) :
    lowerFrom before (a ++ b) after =
      lowerFrom before a (b ++ after) ++ lowerFrom (a.reverse ++ before) b after := by
  induction a generalizing before with
  | nil => simp [lowerFrom]
  | cons c a ih => simp [lowerFrom, ih]

end ChatRules.Text
