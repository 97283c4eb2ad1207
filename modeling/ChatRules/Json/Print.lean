import ChatRules.Json.Value

/-!
# Printing JSON

Two layouts: on one line without blanks, and indented by two spaces with a line
for every item.

Results:

* `toList_numberText_ofNat`, `toList_numberText_negSucc`: the digits of whole numbers.
-/

namespace ChatRules.Json

/-- The digit of a number below 16, in lower case. -/
def hexDigit (n : Nat) : Char := if n < 10 then Char.ofNat (48 + n) else Char.ofNat (87 + n)

/-- A character inside a JSON string. -/
def escapeChar (c : Char) : List Char :=
  if c = '"' then ['\\', '"']
  else if c = '\\' then ['\\', '\\']
  else if c = '\x08' then ['\\', 'b']
  else if c = '\t' then ['\\', 't']
  else if c = '\n' then ['\\', 'n']
  else if c = '\x0c' then ['\\', 'f']
  else if c = '\r' then ['\\', 'r']
  else if c.toNat < 32 then
    ['\\', 'u', '0', '0', hexDigit (c.toNat / 16), hexDigit (c.toNat % 16)]
  else [c]

/-- A text as a JSON string. -/
def quote (s : String) : String :=
  String.ofList ('"' :: s.toList.flatMap escapeChar ++ ['"'])

/-- The text of a number. -/
def numberText : Number → String
  | .int i => toString i
  | .float x => Decimal.Spelling.json.write x

theorem toList_numberText_ofNat (n : Nat) :
    (numberText (.int (.ofNat n))).toList = Nat.toDigits 10 n := Nat.toList_repr

theorem toList_numberText_negSucc (n : Nat) :
    (numberText (.int (.negSucc n))).toList = '-' :: Nat.toDigits 10 (n + 1) := by
  rw [← Nat.toList_repr]
  exact String.toList_append

mutual

/-- The value on one line, without blanks. -/
def compact : Json → String
  | .null => "null"
  | .bool true => "true"
  | .bool false => "false"
  | .number n => numberText n
  | .string s => quote s
  | .array items => "[" ++ ",".intercalate (compactItems items) ++ "]"
  | .object fields => "\x7b" ++ ",".intercalate (compactFields fields) ++ "\x7d"

/-- The items, each on one line. -/
def compactItems : List Json → List String
  | [] => []
  | j :: rest => j.compact :: compactItems rest

/-- The fields, each on one line. -/
def compactFields : List (String × Json) → List String
  | [] => []
  | (k, j) :: rest => (quote k ++ ":" ++ j.compact) :: compactFields rest

end

/-- The beginning of a line at a depth. -/
def newline (depth : Nat) : String := "\n" ++ "".pushn ' ' (2 * depth)

mutual

/-- The value with a line for every item, beginning at a depth. -/
def prettyAt (depth : Nat) : Json → String
  | .array [] => "[]"
  | .array items =>
    "[" ++ ",".intercalate (prettyItems (depth + 1) items) ++ newline depth ++ "]"
  | .object [] => "\x7b\x7d"
  | .object fields =>
    "\x7b" ++ ",".intercalate (prettyFields (depth + 1) fields) ++ newline depth ++ "\x7d"
  | .null => "null"
  | .bool true => "true"
  | .bool false => "false"
  | .number n => numberText n
  | .string s => quote s

/-- The items, each on lines of its own. -/
def prettyItems (depth : Nat) : List Json → List String
  | [] => []
  | j :: rest => (newline depth ++ j.prettyAt depth) :: prettyItems depth rest

/-- The fields, each on lines of its own. -/
def prettyFields (depth : Nat) : List (String × Json) → List String
  | [] => []
  | (k, j) :: rest =>
    (newline depth ++ quote k ++ ": " ++ j.prettyAt depth) :: prettyFields depth rest

end

/-- The value with a line for every item. -/
def pretty (j : Json) : String := j.prettyAt 0

end ChatRules.Json
