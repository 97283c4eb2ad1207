import ChatRules.Text.Category.Letters
import ChatRules.Text.Category.Marks
import ChatRules.Text.Category.Symbols
import ChatRules.Text.Category.Others

/-!
# General categories

The general category of a character, and the groups that the standard forms of
them. A character of no category is unassigned.
-/

namespace ChatRules.Text.Category

/-- The letters of every kind. -/
def letter : List (List Run) :=
  [uppercaseLetter, lowercaseLetter, titlecaseLetter, modifierLetter, otherLetter]

/-- The letters that come in cases. -/
def casedLetter : List (List Run) := [uppercaseLetter, lowercaseLetter, titlecaseLetter]

/-- The marks of every kind. -/
def mark : List (List Run) := [nonspacingMark, spacingMark, enclosingMark]

/-- The numbers of every kind. -/
def number : List (List Run) := [decimalNumber, letterNumber, otherNumber]

/-- The punctuation of every kind. -/
def punctuation : List (List Run) :=
  [connectorPunctuation, dashPunctuation, openPunctuation, closePunctuation,
   initialPunctuation, finalPunctuation, otherPunctuation]

/-- The symbols of every kind. -/
def symbol : List (List Run) := [mathSymbol, currencySymbol, modifierSymbol, otherSymbol]

/-- The separators of every kind. -/
def separator : List (List Run) := [spaceSeparator, lineSeparator, paragraphSeparator]

/-- The assigned characters that show nothing by themselves. -/
def other : List (List Run) := [control, formatCharacter, surrogate, privateUse]

/-- All categories: a code point outside them is unassigned. -/
def assigned : List (List Run) :=
  letter ++ mark ++ number ++ punctuation ++ symbol ++ separator ++ other

end ChatRules.Text.Category
