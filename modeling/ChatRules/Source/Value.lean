import ChatRules.Decimal.Read
import ChatRules.Text.Words

/-!
# Source values

What a condition reads: a number, a text, or a list of texts. Each of them can
be read as a text and as a list; a list is no number.

Models `SourceValue` (`SPEC_FULL.md` §2.1).
-/

namespace ChatRules

/-- A value that a source gives. -/
inductive SourceValue where
  | number (x : Float)
  | text (s : String)
  | list (items : List String)
deriving DecidableEq

namespace SourceValue

/-- The value as a text. The items of a list stand on lines of their own. -/
def asText : SourceValue → String
  | .number x => Decimal.Spelling.plain.write x
  | .text s => s
  | .list items => "\n".intercalate items

/-- The value as a list. What is no list is its only item. -/
def asList : SourceValue → List String
  | .number x => [Decimal.Spelling.plain.write x]
  | .text s => [s]
  | .list items => items

/-- The value as a number, if it is one or is the text of one. -/
def asNumber? : SourceValue → Option Float
  | .number x => some x
  | .text s => Decimal.read? (Text.trim s)
  | .list _ => none

/-- The value with a function applied to each of its texts. -/
def mapText (f : String → String) : SourceValue → SourceValue
  | .number x => .number x
  | .text s => .text (f s)
  | .list items => .list (items.map f)

end SourceValue

/-- The declared form of a source. -/
inductive SourceKind where
  | text | list | number
deriving DecidableEq, Repr

/-- The word for a form. -/
def SourceKind.word : SourceKind → String
  | .text => "text"
  | .list => "list"
  | .number => "number"

/-- All forms with their words. -/
def SourceKind.words : List (String × SourceKind) :=
  [.text, .list, .number].map fun k => (k.word, k)

end ChatRules
