import ChatRules.Text.Lower

/-!
# Words

Words are split at blanks, tokens at every character that is neither a letter,
a number, an apostrophe nor an underscore. A normalized text is in lower case,
holds no punctuation but apostrophes, and has single spaces between its words.

Models `collapse_whitespace`, `normalize_text` and what `tokens` splits at (`SPEC_FULL.md`
§2.1.1, §2.2).

Results:

* `splitWhere_ne_nil`: every piece of a split is non-empty.
* `toList_spaces`: the spaces that a line is indented with.
-/

namespace ChatRules.Text

/-- The maximal stretches of characters that are no separators, `piece` being the
    stretch under way. -/
def splitFrom (isSeparator : Char → Bool) (piece : List Char) : List Char → List (List Char)
  | [] => if piece.isEmpty then [] else [piece]
  | c :: rest =>
    if isSeparator c then
      if piece.isEmpty then splitFrom isSeparator [] rest
      else piece :: splitFrom isSeparator [] rest
    else splitFrom isSeparator (piece ++ [c]) rest

/-- The maximal stretches of characters that are no separators. -/
def splitWhere (isSeparator : Char → Bool) (text : List Char) : List (List Char) :=
  splitFrom isSeparator [] text

/-- The stretches between blanks. -/
def wordChars (text : List Char) : List (List Char) := splitWhere isBlank text

/-- The words of a text. -/
def words (text : String) : List String := (wordChars text.toList).map String.ofList

/-- The words joined by single spaces. -/
def collapseChars (text : List Char) : List Char :=
  (wordChars text).intersperse [' '] |>.flatten

/-- Runs of blanks become single spaces, those at the ends nothing. -/
def collapse (text : String) : String := String.ofList (collapseChars text.toList)

/-- The text without the blanks at its ends. -/
def trimChars (text : List Char) : List Char :=
  ((text.dropWhile isBlank).reverse.dropWhile isBlank).reverse

/-- The text without the blanks at its ends. -/
def trim (text : String) : String := String.ofList (trimChars text.toList)

/-- Whether a text holds nothing but blanks. -/
def isAllBlank (text : String) : Bool := text.toList.all isBlank

/-- Letters, numbers and apostrophes stay, all else becomes a space. -/
def keepWordChar (c : Char) : Char := if isAlphanumeric c || c == '\'' then c else ' '

/-- Punctuation out, lower case, single spaces. -/
def normalizeChars (text : List Char) : List Char :=
  collapseChars (lowerChars (text.map keepWordChar))

/-- The normalized form of a text. -/
def normalize (text : String) : String := String.ofList (normalizeChars text.toList)

/-- Whether a character may stand in a token. -/
def isTokenChar (c : Char) : Bool := isAlphanumeric c || c == '\'' || c == '_'

/-- The tokens of a text, in lower case. -/
def tokenChars (text : List Char) : List (List Char) :=
  (splitWhere (fun c => !isTokenChar c) text).map lowerChars

/-- The tokens of a text, in lower case. -/
def tokens (text : String) : List String := (tokenChars text.toList).map String.ofList

theorem splitFrom_ne_nil {isSeparator : Char → Bool} {piece text p : List Char}
    (h : p ∈ splitFrom isSeparator piece text) : p ≠ [] := by
  induction text generalizing piece with
  | nil =>
    unfold splitFrom at h
    split at h <;> simp_all
  | cons c rest ih =>
    unfold splitFrom at h
    split at h
    · split at h
      · exact ih h
      · rcases List.mem_cons.1 h with rfl | h
        · simp_all
        · exact ih h
    · exact ih h

theorem splitWhere_ne_nil {isSeparator : Char → Bool} {text p : List Char}
    (h : p ∈ splitWhere isSeparator text) : p ≠ [] :=
  splitFrom_ne_nil h

theorem toList_spaces (n : Nat) : ("".pushn ' ' n).toList = List.replicate n ' ' := by
  induction n with
  | zero => rfl
  | succ n ih =>
    have pushed : "".pushn ' ' (n + 1) = ("".pushn ' ' n).push ' ' := rfl
    rw [pushed, String.toList_push, ih, List.replicate_succ']

end ChatRules.Text
