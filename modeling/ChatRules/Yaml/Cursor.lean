import ChatRules.Document.Basic

/-!
# Places in YAML texts

The layout of a YAML text has meaning, so a reader has to know at which column it
stands. A cursor is the rest of the text with the place where it begins.
-/

namespace ChatRules.Yaml

/-- Whether a character ends a line. -/
def isBreak (c : Char) : Bool :=
  c == '\n' || c == '\r' || c == '\u0085' || c == '\u2028' || c == '\u2029'

/-- Whether a character separates words on a line. -/
def isBlank (c : Char) : Bool := c == ' ' || c == '\t'

/-- Whether no word goes on here. -/
def endsWord : List Char → Bool
  | [] => true
  | c :: _ => isBlank c || isBreak c

/-- Whether no line goes on here. -/
def endsLine : List Char → Bool
  | [] => true
  | c :: _ => isBreak c

/-- Whether a character may stand in a text at all. -/
def isAllowed (c : Char) : Bool :=
  c == '\t' || c == '\n' || c == '\r' || (' ' ≤ c && c ≤ '~') || c == '\u0085' ||
    ('\u00A0' ≤ c && c ≤ '\uFFFD') || 0x10000 ≤ c.toNat

/-- The mark that may stand at the beginning of a text or of a line. -/
def byteOrderMark : Char := '\uFEFF'

/-- The rest of a text and the place where it begins. -/
structure Cursor where
  rest : List Char
  line : Nat := 0
  column : Nat := 0
  index : Nat := 0
deriving Repr

namespace Cursor

/-- The cursor behind some characters of its line. -/
def skip (n : Nat) (c : Cursor) : Cursor :=
  { c with rest := c.rest.drop n, column := c.column + n, index := c.index + n }

/-- The cursor behind the characters that have a property, none of which ends a line. -/
def skipWhile (p : Char → Bool) (c : Cursor) : Cursor := c.skip (c.rest.takeWhile p).length

/-- The cursor in front of the end of its line. -/
def toLineEnd (c : Cursor) : Cursor := c.skipWhile fun x => !isBreak x

/-- The end of a line, as it is kept in a scalar, and the cursor behind it. -/
def takeBreak (c : Cursor) : List Char × Cursor :=
  match c.rest with
  | '\r' :: '\n' :: rest => (['\n'], ⟨rest, c.line + 1, 0, c.index + 2⟩)
  | x :: rest =>
    (if x == '\u2028' || x == '\u2029' then [x] else ['\n'], ⟨rest, c.line + 1, 0, c.index + 1⟩)
  | [] => ([], c)

/-- Whether a mark between documents begins here. -/
def atMark (mark : List Char) (c : Cursor) : Bool :=
  c.column == 0 && c.rest.take 3 == mark && endsWord (c.rest.drop 3)

/-- The mark before a document. -/
def startMark : List Char := ['-', '-', '-']

/-- The mark after a document. -/
def endMark : List Char := ['.', '.', '.']

/-- Whether a mark before or after a document begins here. -/
def atAnyMark (c : Cursor) : Bool := c.atMark startMark || c.atMark endMark

end Cursor

end ChatRules.Yaml
