import ChatRules.Json.Value
import ChatRules.Yaml.Cursor
import ChatRules.Yaml.Scalar

/-!
# Writing YAML texts

Collections are written as blocks, empty ones between brackets. The items of a
sequence stand below the key of their field, not right of it. A text is written
plain if it reads back as itself; line breaks make it a block, and what can be
written in no other way stands in double quotes with escapes.

Models the writer of YAML that the persisted types are stored with (`SPEC_FULL.md` §3.4).

Results:

* `resolve_of_styleOf`: a text that is written plain reads back as itself.
-/

namespace ChatRules.Yaml

/-! ## Styles -/

/-- The ways to write a text. -/
inductive Style where
  | plain | single | double | literal
deriving DecidableEq, Repr

/-- Whether a character can be written without an escape. -/
def isPrintable (c : Char) : Bool :=
  c == '\n' || (' ' ≤ c && c ≤ '~') ||
    ('\u00A0' ≤ c && c ≤ '\uFFFD' && c != byteOrderMark) || 0x10000 ≤ c.toNat

/-- Whether no plain text begins with a character. -/
def isIndicator (c : Char) : Bool := "#,[]{}&*!|>'\"%@`".toList.contains c

/-- Whether a text that begins a plain one would be taken for a sign. -/
def beginsAsSign (text : List Char) : Bool :=
  text.take 3 == ['-', '-', '-'] || text.take 3 == ['.', '.', '.'] ||
    match text with
    | [] => false
    | x :: rest => isIndicator x || ((x == '?' || x == ':' || x == '-') && endsWord rest)

/-- Whether a sign occurs in the text after a character. -/
def hasSign (before : Char) : List Char → Bool
  | [] => false
  | x :: rest =>
    (x == ':' && endsWord rest) || (x == '#' && (isBlank before || isBreak before)) ||
      hasSign x rest

/-- Whether some character is followed by another one. -/
def hasPair (p q : Char → Bool) : List Char → Bool
  | x :: y :: rest => (p x && q y) || hasPair p q (y :: rest)
  | _ => false

/-- Whether a character is a space. -/
def isSpace (c : Char) : Bool := c == ' '

/-- Whether a space or a line break begins or ends a text. -/
def hasOpenEnd (text : List Char) : Bool :=
  text.head?.any (fun c => isSpace c || isBreak c) ||
    text.getLast?.any (fun c => isSpace c || isBreak c)

/-- Whether a text has something that only escapes can write. -/
def needsEscape (text : List Char) : Bool :=
  hasPair isSpace isBreak text || !text.all isPrintable

/-- Whether a text has several lines. -/
def isMultiline (text : List Char) : Bool := text.any isBreak

/-- Whether a text may be written plain. -/
def mayBePlain (text : List Char) : Bool :=
  !hasOpenEnd text && !needsEscape text && !isMultiline text && !beginsAsSign text &&
    match text with
    | [] => true
    | x :: rest => !hasSign x rest

/-- Whether a text may be written in single quotes. -/
def mayBeSingle (text : List Char) : Bool := !hasPair isBreak isSpace text && !needsEscape text

/-- Whether a text may be written as a block. -/
def mayBeLiteral (text : List Char) : Bool :=
  !text.getLast?.any isSpace && !needsEscape text

/-- Whether a plain text would be read as something else. -/
def isAmbiguous (s : String) : Bool :=
  match resolve s with
  | .text _ => hasLeadingZero s.toList
  | _ => true

/-- The style of a text. -/
def styleOf (s : String) : Style :=
  let text := s.toList
  if text.contains '\n' then if mayBeLiteral text then .literal else .double
  else if !isAmbiguous s && mayBePlain text then .plain
  else if mayBeSingle text then .single
  else .double

/-- A text that is written plain reads back as itself. -/
theorem resolve_of_styleOf {s : String} (h : styleOf s = .plain) : resolve s = .text s := by
  have plain : isAmbiguous s = false := by grind [styleOf]
  unfold isAmbiguous at plain
  split at plain
  next t ht => rw [ht, text_of_resolve ht]
  next => cases plain

example : (styleOf "cake", styleOf "null", styleOf "007") = (.plain, .single, .single) := by
  decide +kernel

/-- How many bytes a key may have that is written on the line of its value. -/
def simpleKeyLimit : Nat := 128

/-- Whether a key is written on the line of its value. -/
def isSimpleKey (s : String) : Bool := !isMultiline s.toList && s.utf8ByteSize ≤ simpleKeyLimit

/-! ## Texts -/

/-- A number to base 16 with so many digits. -/
def hexText (digits n : Nat) : String :=
  let ds := (Nat.toDigits 16 n).map Char.toUpper
  String.ofList (List.replicate (digits - ds.length) '0' ++ ds)

/-- A character in double quotes. -/
def escaped (c : Char) : String :=
  if c == '"' then "\\\""
  else if c == '\\' then "\\\\"
  else if isPrintable c && !isBreak c then String.singleton c
  else
    match c.toNat with
    | 0x00 => "\\0"
    | 0x07 => "\\a"
    | 0x08 => "\\b"
    | 0x09 => "\\t"
    | 0x0A => "\\n"
    | 0x0B => "\\v"
    | 0x0C => "\\f"
    | 0x0D => "\\r"
    | 0x1B => "\\e"
    | 0x85 => "\\N"
    | 0x2028 => "\\L"
    | 0x2029 => "\\P"
    | n => if n ≤ 0xFF then "\\x" ++ hexText 2 n else "\\u" ++ hexText 4 n

/-- A text in double quotes. -/
def doubleText (s : String) : String := "\"" ++ String.join (s.toList.map escaped) ++ "\""

/-- Spaces. -/
def spaces (n : Nat) : String := "".pushn ' ' n

/-- Characters in which the line after every break is indented, unless it is empty. -/
def indented (indent : Nat) (afterBreak : Bool) : List Char → String
  | [] => ""
  | c :: rest =>
    if isBreak c then String.singleton c ++ indented indent true rest
    else (if afterBreak then spaces indent else "") ++ String.singleton c ++
      indented indent false rest

/-- A text in single quotes, in which the quotes are doubled. -/
def singleText (indent : Nat) (s : String) : String :=
  let text := s.toList.flatMap fun c => if c == '\'' then ['\'', '\''] else [c]
  let close := if text.getLast?.any isBreak then spaces indent else ""
  "'" ++ indented indent false text ++ close ++ "'"

/-- The signs of a block: its indentation if it cannot be told from the first line, and
    what happens to the line breaks at its end. -/
def blockSigns (text : List Char) : String :=
  let indent := if text.head?.any fun c => isSpace c || isBreak c then "2" else ""
  let chomp := match text.reverse with
    | a :: b :: _ => if !isBreak a then "-" else if isBreak b then "+" else ""
    | [a] => if isBreak a then "+" else "-"
    | [] => "-"
  indent ++ chomp

/-- A text as a block. -/
def literalText (indent : Nat) (s : String) : String :=
  "|" ++ blockSigns s.toList ++ "\n" ++ indented indent true s.toList

/-- A text whose further lines are indented. -/
def textOf (indent : Nat) (s : String) : String :=
  match styleOf s with
  | .plain => s
  | .single => singleText indent s
  | .double => doubleText s
  | .literal => literalText indent s

/-- A key on the line of its value. -/
def keyText (s : String) : String :=
  match styleOf s with
  | .plain => s
  | .single => singleText 0 s
  | .double | .literal => doubleText s

/-- A number. -/
def numberText : Number → String
  | .int i => toString i
  | .float x => Decimal.Spelling.yaml.write x

/-! ## Documents -/

/-- What was written before, with a line begun at an indentation. -/
def line (indent : Nat) (out : String) : String :=
  (if out.back?.all isBreak then out else out ++ "\n") ++ spaces indent

/-- A key written where its line has begun. A key that is not simple has a line of its
    own, and its value then stands behind a sign of its own. -/
def writeKey (indent : Nat) (key out : String) : String :=
  if isSimpleKey key then out ++ keyText key ++ ":"
  else line indent (out ++ "? " ++ textOf (indent + 2) key) ++ ":"

mutual

/-- Writes a value behind the colon of a field or behind another sign, in a block with an
    indentation. Behind another sign a collection begins on the same line. -/
def writeNode (indent : Nat) (isField : Bool) : Json → String → String
  | .null, out => out ++ " null"
  | .bool b, out => out ++ (if b then " true" else " false")
  | .number n, out => out ++ " " ++ numberText n
  | .string s, out => out ++ " " ++ textOf (indent + 2) s
  | .array [], out => out ++ " []"
  | .object [], out => out ++ " \x7b\x7d"
  | .array (j :: rest), out =>
    if isField then writeItems indent rest (writeNode indent false j (line indent out ++ "-"))
    else writeItems (indent + 2) rest (writeNode (indent + 2) false j (out ++ " -"))
  | .object ((k, j) :: rest), out =>
    let start := if isField then line (indent + 2) out else out ++ " "
    writeFields (indent + 2) rest
      (writeNode (indent + 2) (isSimpleKey k) j (writeKey (indent + 2) k start))

/-- Writes items, each on lines of its own. -/
def writeItems (indent : Nat) : List Json → String → String
  | [], out => out
  | j :: rest, out => writeItems indent rest (writeNode indent false j (line indent out ++ "-"))

/-- Writes fields, each on lines of its own. -/
def writeFields (indent : Nat) : List (String × Json) → String → String
  | [], out => out
  | (k, j) :: rest, out =>
    writeFields indent rest
      (writeNode indent (isSimpleKey k) j (writeKey indent k (line indent out)))

end

/-- An object as a text. -/
def print (fields : List (String × Json)) : String := line 0 (writeFields 0 fields "")

end ChatRules.Yaml
