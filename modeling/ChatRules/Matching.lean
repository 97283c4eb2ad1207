import ChatRules.Text.Search

/-!
# Matching terms and numbers

A term is looked for without regard to case and without the blanks around it,
either anywhere in a text or as one of its tokens. A term of blanks is nowhere.

Models `find_term`, `tokens`, `MatchMode` and `CompareOp` (`SPEC_FULL.md` §2.2).

Results:

* `findTerm?_blank`: a blank term is found in no text.
-/

namespace ChatRules

/-- Where a term has to stand: anywhere in the text, or as a token of it. -/
inductive MatchMode where
  | contains | word
deriving DecidableEq, Repr

/-- The word for a mode. -/
def MatchMode.name : MatchMode → String
  | .contains => "contains"
  | .word => "word"

/-- The modes by their words. -/
def MatchMode.words : List (String × MatchMode) :=
  [("contains", .contains), ("word", .word)]

/-- The place of a term in a text: bytes of the lower-case text before it, or tokens
    before it. -/
def findTerm? (text term : String) (mode : MatchMode) : Option Nat :=
  let term := Text.lower (Text.trim term)
  if term.isEmpty then none
  else
    match mode with
    | .contains => Text.find? (Text.lower text) term
    | .word => (Text.tokens text).findIdx? (· == term)

/-- Whether a text has a term. -/
def hasTerm (text term : String) (mode : MatchMode) : Bool := (findTerm? text term mode).isSome

/-- A comparison of numbers. -/
inductive CompareOp where
  | less | lessEqual | greater | greaterEqual | equal | notEqual
deriving DecidableEq, Repr

namespace CompareOp

/-- The sign of a comparison. -/
def sign : CompareOp → String
  | .less => "<"
  | .lessEqual => "<="
  | .greater => ">"
  | .greaterEqual => ">="
  | .equal => "=="
  | .notEqual => "!="

/-- The comparisons by their signs and words. -/
def words : List (String × CompareOp) :=
  [("<", .less), ("lt", .less), ("<=", .lessEqual), ("le", .lessEqual), ("lte", .lessEqual),
   (">", .greater), ("gt", .greater), (">=", .greaterEqual), ("ge", .greaterEqual),
   ("gte", .greaterEqual), ("==", .equal), ("eq", .equal), ("!=", .notEqual), ("ne", .notEqual),
   ("neq", .notEqual)]

/-- Whether two numbers compare so. What is no number compares only as different. -/
def holds : CompareOp → Float → Float → Bool
  | .less, a, b => a < b
  | .lessEqual, a, b => a ≤ b
  | .greater, a, b => b < a
  | .greaterEqual, a, b => b ≤ a
  | .equal, a, b => a == b
  | .notEqual, a, b => a != b

end CompareOp

theorem trimChars_of_all_blank {text : List Char} (h : text.all Text.isBlank = true) :
    Text.trimChars text = [] := by
  have : text.dropWhile Text.isBlank = [] := by
    induction text with
    | nil => rfl
    | cons c rest ih => simp_all [List.dropWhile]
  simp [Text.trimChars, this]

theorem findTerm?_blank {term : String} (h : Text.isAllBlank term = true) (text : String)
    (mode : MatchMode) : findTerm? text term mode = none := by
  have : Text.trim term = "" := by
    simp [Text.trim, trimChars_of_all_blank (by simpa [Text.isAllBlank] using h)]
  have lowered : (Text.lower "").isEmpty = true := by decide +kernel
  simp [findTerm?, this, lowered]

end ChatRules
