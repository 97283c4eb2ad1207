/-!
# Errors in patterns

An error names a stretch of the pattern, sometimes two. The report shows the
pattern with a mark under each stretch, and numbers its lines when there are
several.
-/

namespace ChatRules.Regex

/-- A place in a pattern: line and column, both from 1. -/
structure Position where
  line : Nat
  column : Nat
deriving DecidableEq, Repr

/-- The beginning of a pattern. -/
def Position.start : Position := ⟨1, 1⟩

/-- The place after a character. -/
def Position.after (p : Position) (c : Char) : Position :=
  if c = '\n' then ⟨p.line + 1, 1⟩ else ⟨p.line, p.column + 1⟩

/-- A stretch of a pattern, without its end. -/
structure Span where
  first : Position
  stop : Position
deriving DecidableEq, Repr

/-- What is wrong with a pattern. -/
inductive ErrorKind where
  | classEscapeInvalid | classRangeInvalid | classRangeLiteral | classUnclosed
  | decimalInvalid | hexEmpty | hexInvalid | hexInvalidDigit | escapeUnexpectedEnd
  | escapeUnrecognized | flagDanglingNegation | flagDuplicate | flagRepeatedNegation
  | flagUnexpectedEnd | flagUnrecognized | groupNameDuplicate | groupNameEmpty
  | groupNameInvalid | groupNameUnexpectedEnd | groupUnclosed | groupUnopened
  | nestedTooDeep | countInvalid | countEmpty | countUnclosed | repetitionMissing
  | boundaryUnclosed | boundaryUnrecognized | boundaryUnexpectedEnd | unicodeClassInvalid
  | backreference | lookAround
  | unicodeNotAllowed | invalidUtf8 | propertyNotFound | propertyValueNotFound
deriving DecidableEq, Repr

/-- How deep groups and classes may be nested. -/
def nestLimit : Nat := 250

/-- The sentence for an error. -/
def ErrorKind.message : ErrorKind → String
  | .classEscapeInvalid => "invalid escape sequence found in character class"
  | .classRangeInvalid => "invalid character class range, the start must be <= the end"
  | .classRangeLiteral => "invalid range boundary, must be a literal"
  | .classUnclosed => "unclosed character class"
  | .decimalInvalid => "decimal literal invalid"
  | .hexEmpty => "hexadecimal literal empty"
  | .hexInvalid => "hexadecimal literal is not a Unicode scalar value"
  | .hexInvalidDigit => "invalid hexadecimal digit"
  | .escapeUnexpectedEnd => "incomplete escape sequence, reached end of pattern prematurely"
  | .escapeUnrecognized => "unrecognized escape sequence"
  | .flagDanglingNegation => "dangling flag negation operator"
  | .flagDuplicate => "duplicate flag"
  | .flagRepeatedNegation => "flag negation operator repeated"
  | .flagUnexpectedEnd => "expected flag but got end of regex"
  | .flagUnrecognized => "unrecognized flag"
  | .groupNameDuplicate => "duplicate capture group name"
  | .groupNameEmpty => "empty capture group name"
  | .groupNameInvalid => "invalid capture group character"
  | .groupNameUnexpectedEnd => "unclosed capture group name"
  | .groupUnclosed => "unclosed group"
  | .groupUnopened => "unopened group"
  | .nestedTooDeep =>
    "exceed the maximum number of nested parentheses/brackets (" ++ toString nestLimit ++ ")"
  | .countInvalid => "invalid repetition count range, the start must be <= the end"
  | .countEmpty => "repetition quantifier expects a valid decimal"
  | .countUnclosed => "unclosed counted repetition"
  | .repetitionMissing => "repetition operator missing expression"
  | .boundaryUnclosed =>
    "special word boundary assertion is either unclosed or contains an invalid character"
  | .boundaryUnrecognized =>
    "unrecognized special word boundary assertion, valid choices are: start, end, " ++
      "start-half or end-half"
  | .boundaryUnexpectedEnd =>
    "found either the beginning of a special word boundary or a bounded repetition on a " ++
      "\\b with an opening brace, but no closing brace"
  | .unicodeClassInvalid => "invalid Unicode character class"
  | .backreference => "backreferences are not supported"
  | .lookAround => "look-around, including look-ahead and look-behind, is not supported"
  | .unicodeNotAllowed => "Unicode not allowed here"
  | .invalidUtf8 => "pattern can match invalid UTF-8"
  | .propertyNotFound => "Unicode property not found"
  | .propertyValueNotFound => "Unicode property value not found"

/-- An error at a stretch of a pattern, and perhaps a second stretch that it concerns. -/
structure Error where
  kind : ErrorKind
  span : Span
  other : Option Span := none
deriving DecidableEq, Repr

/-- The lines of a text. A line break at the end ends the last line. -/
def textLines : List Char → List (List Char)
  | [] => []
  | c :: rest =>
    if c = '\n' then [] :: textLines rest
    else
      match textLines rest with
      | [] => [[c]]
      | l :: ls => (c :: l) :: ls

/-- A line as it is shown: without the carriage return at its end. -/
def shownLine (line : List Char) : List Char :=
  if line.getLast? = some '\r' then line.dropLast else line

/-- The marks under a line, from a column on. -/
def marks (column : Nat) : List Span → List Char
  | [] => []
  | s :: rest =>
    let gap := s.first.column - 1 - column
    let length := max 1 (s.stop.column - s.first.column)
    List.replicate gap ' ' ++ List.replicate length '^' ++ marks (column + gap + length) rest

/-- Two stretches in the order of their beginnings. -/
def spansInOrder (e : Error) : List Span :=
  match e.other with
  | none => [e.span]
  | some o =>
    let before : Bool := o.first.line < e.span.first.line ||
      (o.first.line == e.span.first.line && o.first.column < e.span.first.column)
    if before then [o, e.span] else [e.span, o]

/-- The lines of a pattern, each with its number where there are several, and with the
    marks below it. -/
def notatedLines (width : Nat) (spans : List Span) : Nat → List (List Char) → List (List Char)
  | _, [] => []
  | n, line :: rest =>
    let label := toString n
    let start := if width = 0 then "".pushn ' ' 4
      else "".pushn ' ' (width - label.length) ++ label ++ ": "
    let padding := if width = 0 then 4 else width + 2
    let here := spans.filter fun s => s.first.line == n && s.stop.line == n
    let notes := if here.isEmpty then []
      else [List.replicate padding ' ' ++ marks 0 here]
    (start.toList ++ shownLine line) :: notes ++ notatedLines width spans (n + 1) rest

/-- The report of an error in a pattern. -/
def Error.report (e : Error) (pattern : String) : String :=
  let chars := pattern.toList
  let lines := textLines chars
  let count := lines.length + (if chars.getLast? = some '\n' then 1 else 0)
  let width := if count ≤ 1 then 0 else (toString count).length
  let spans := spansInOrder e
  let shown := (notatedLines width spans 1 lines).map fun l => String.ofList l ++ "\n"
  let body := String.join shown
  let sentence := "error: " ++ e.kind.message
  if chars.contains '\n' then
    let divider := "".pushn '~' 79 ++ "\n"
    let long := spans.filter fun s => s.first.line != s.stop.line
    let notes := long.map fun s =>
      "on line " ++ toString s.first.line ++ " (column " ++ toString s.first.column ++
        ") through line " ++ toString s.stop.line ++ " (column " ++
        toString (s.stop.column - 1) ++ ")"
    "regex parse error:\n" ++ divider ++ body ++ divider ++
      (if notes.isEmpty then "" else "\n".intercalate notes ++ "\n") ++ sentence
  else "regex parse error:\n" ++ body ++ sentence

end ChatRules.Regex
