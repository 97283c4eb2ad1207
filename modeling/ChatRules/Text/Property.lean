import ChatRules.Text.Category
import ChatRules.Text.Additions

/-!
# Properties of characters

The character properties that words, case and quoting rest on. Each is a union
of general categories and of a list of further code points.
-/

namespace ChatRules.Text

open Category Additions

/-- Property `White_Space`. -/
def blank : List Run :=
  [⟨0x9, 0xD, 1⟩, ⟨0x20, 0x20, 1⟩, ⟨0x85, 0x85, 1⟩, ⟨0xA0, 0xA0, 1⟩, ⟨0x1680, 0x1680, 1⟩,
   ⟨0x2000, 0x200A, 1⟩, ⟨0x2028, 0x2029, 1⟩, ⟨0x202F, 0x202F, 1⟩, ⟨0x205F, 0x205F, 1⟩,
   ⟨0x3000, 0x3000, 1⟩]

/-- The blanks that words are split at. -/
def isBlank (c : Char) : Bool := contains blank c.toNat

/-- The classes that make up property `Alphabetic`. -/
def alphabetic : List (List Run) := letter ++ [letterNumber, otherAlphabetic]

/-- Property `Alphabetic`. -/
def isAlphabetic (c : Char) : Bool := inAny alphabetic c

/-- A decimal digit, a letter number or another number. -/
def isNumeric (c : Char) : Bool := inAny number c

/-- Alphabetic or numeric. -/
def isAlphanumeric (c : Char) : Bool := isAlphabetic c || isNumeric c

/-- The classes that make up property `Cased`. -/
def cased : List (List Run) := casedLetter ++ [otherCased]

/-- Property `Cased`. -/
def isCased (c : Char) : Bool := inAny cased c

/-- The classes that make up property `Case_Ignorable`. -/
def caseIgnorable : List (List Run) :=
  [nonspacingMark, enclosingMark, formatCharacter, modifierLetter, modifierSymbol,
   otherCaseIgnorable]

/-- Property `Case_Ignorable`: casing looks through such a character. -/
def isCaseIgnorable (c : Char) : Bool := inAny caseIgnorable c

/-- The classes that make up property `Grapheme_Extend`. -/
def graphemeExtend : List (List Run) := [nonspacingMark, enclosingMark, otherGraphemeExtend]

/-- Property `Grapheme_Extend`: the character combines with the one before it. -/
def isGraphemeExtend (c : Char) : Bool := inAny graphemeExtend c

/-- The upper-case numerals and enclosed letters, which are no letters. -/
def otherUppercase : List Run :=
  [⟨0x2160, 0x216F, 1⟩, ⟨0x24B6, 0x24CF, 1⟩, ⟨0x1F130, 0x1F149, 1⟩, ⟨0x1F150, 0x1F169, 1⟩,
   ⟨0x1F170, 0x1F189, 1⟩]

/-- The character shows as itself: it is assigned, and neither a control, a
    format character, private use nor a separator other than the space. -/
def isPrintable (c : Char) : Bool :=
  c == ' ' || inAny (letter ++ mark ++ number ++ punctuation ++ symbol) c

end ChatRules.Text
