import ChatRules.Yaml.Token

/-!
# From layout to signs

Scanning goes through a text once. Outside of brackets the columns at which
blocks begin are kept on a stack: what stands further left closes them. Whether
something is the key of a field is only known at the colon behind it, so every
place where a key may begin is a candidate until its line ends. The keys that
were found are put in between the other signs at the end.
-/

namespace ChatRules.Yaml

/-- A place where a key may begin: the number of the signs before it, and where it is. -/
structure Candidate where
  place : Nat
  line : Nat
  column : Nat
  index : Nat
  /-- Whether the layout asks for a key here. -/
  isRequired : Bool
deriving Repr

/-- The length that a key may have on its line. -/
def keyLimit : Nat := 1024

/-- A scan so far. -/
structure Scan where
  cursor : Cursor
  /-- The first column to the right of where the current block begins; 0 outside of any. -/
  margin : Nat := 0
  /-- The margins around the current one. -/
  margins : List Nat := []
  /-- Whether a key may begin here. -/
  mayBeKey : Bool := true
  candidate : Option Candidate := none
  /-- The candidates outside of the brackets, from the innermost pair on. -/
  outer : List (Option Candidate) := []
  tokens : Array Token := #[]
  /-- The keys that were found: the number of the signs before one, and whether it begins
      a mapping. -/
  keys : List (Nat × Bool) := []

namespace Scan

/-- Whether the scan is between brackets. -/
def inBrackets (s : Scan) : Bool := !s.outer.isEmpty

/-- The scan with one more sign. -/
def push (token : Token) (s : Scan) : Scan := { s with tokens := s.tokens.push token }

/-- The scan with one more sign, which is so many characters long. -/
def take (n : Nat) (token : Token) (s : Scan) : Scan :=
  { s.push token with cursor := s.cursor.skip n }

/-- Whether a candidate is too far away for a colon to make it a key. -/
def isStale (c : Cursor) (k : Candidate) : Bool := k.line < c.line || k.index + keyLimit < c.index

/-- Gives up a candidate that is too far away. -/
def refresh (c : Cursor) : Option Candidate → Option (Option Candidate)
  | none => some none
  | some k => if isStale c k then if k.isRequired then none else some none else some (some k)

/-- Gives up all candidates that are too far away. -/
def refreshAll (s : Scan) : Option Scan := do
  let candidate ← refresh s.cursor s.candidate
  let outer ← s.outer.mapM (refresh s.cursor)
  return { s with candidate, outer }

/-- Gives up the current candidate; a required one cannot be given up. -/
def dropCandidate (s : Scan) : Option Scan :=
  if s.candidate.any (·.isRequired) then none else some { s with candidate := none }

/-- Makes the current place a candidate, if a key may begin here. -/
def addCandidate (s : Scan) : Option Scan :=
  if s.mayBeKey then
    s.dropCandidate.map fun s =>
      let c := s.cursor
      let isRequired := !s.inBrackets && s.margin == c.column + 1
      { s with candidate := some ⟨s.tokens.size, c.line, c.column, c.index, isRequired⟩ }
  else some s

/-- Closes the blocks that begin right of a margin. -/
def closeTo (margin : Nat) (s : Scan) : Scan :=
  let closed := (s.margin :: s.margins).takeWhile (margin < ·)
  let kept := (s.margin :: s.margins).dropWhile (margin < ·)
  { s with
    tokens := closed.foldl (fun ts _ => ts.push .blockEnd) s.tokens
    margin := kept.headD 0
    margins := kept.drop 1 }

/-- Closes the blocks that a sign at the current column ends. -/
def close (s : Scan) : Scan := if s.inBrackets then s else s.closeTo (s.cursor.column + 1)

/-- Whether a block that begins at a column lies inside the current one. -/
def isDeeper (column : Nat) (s : Scan) : Bool := !s.inBrackets && s.margin ≤ column

/-- Moves the margin to a block that begins at a column. -/
def indent (column : Nat) (s : Scan) : Scan :=
  { s with margin := column + 1, margins := s.margin :: s.margins }

/-- Begins a block at the current column, unless one begins there already. -/
def openBlock (token : Token) (s : Scan) : Scan :=
  let column := s.cursor.column
  if s.isDeeper column then (s.indent column).push token else s

/-- Skips blanks, comments and line breaks. A tab may not stand where a key may begin. -/
def skipSpace : Nat → Scan → Scan
  | 0, s => s
  | fuel + 1, s =>
    let c := s.cursor
    let c := if c.column == 0 && c.rest.head? == some byteOrderMark then c.skip 1 else c
    let c := c.skipWhile fun x => x == ' ' || ((s.inBrackets || !s.mayBeKey) && x == '\t')
    let c := if c.rest.head? == some '#' then c.toLineEnd else c
    match c.rest with
    | [] => { s with cursor := c }
    | x :: _ =>
      if isBreak x then
        skipSpace fuel { s with cursor := c.takeBreak.2, mayBeKey := s.mayBeKey || !s.inBrackets }
      else { s with cursor := c }

/-! ## Signs -/

/-- A sign at the margin that ends everything before it. -/
def atMargin (s : Scan) : Option Scan :=
  (s.closeTo 0).dropCandidate.map fun s => { s with mayBeKey := false }

/-- The beginning of a collection between brackets. -/
def openBracket (token : Token) (s : Scan) : Option Scan :=
  s.addCandidate.map fun s =>
    { s.take 1 token with candidate := none, outer := s.candidate :: s.outer, mayBeKey := true }

/-- The end of a collection between brackets. -/
def closeBracket (token : Token) (s : Scan) : Option Scan :=
  s.dropCandidate.map fun s =>
    let candidate := match s.outer with
      | k :: _ => k
      | [] => none
    { s.take 1 token with candidate, outer := s.outer.drop 1, mayBeKey := false }

/-- The sign between the items of a collection in brackets. -/
def separate (s : Scan) : Option Scan :=
  s.dropCandidate.map fun s => { s.take 1 .separator with mayBeKey := true }

/-- The sign before an item in a block. -/
def beginEntry (s : Scan) : Option Scan :=
  if !s.inBrackets && !s.mayBeKey then none
  else (s.openBlock .blockSequence).dropCandidate.map fun s =>
    { s.take 1 .entry with mayBeKey := true }

/-- The sign before a key. -/
def beginKey (s : Scan) : Option Scan :=
  if !s.inBrackets && !s.mayBeKey then none
  else (s.openBlock .blockMapping).dropCandidate.map fun s =>
    { s.take 1 .key with mayBeKey := !s.inBrackets }

/-- The sign before a value, which makes the current candidate a key. -/
def beginValue (s : Scan) : Option Scan :=
  match s.candidate with
  | some k =>
    let isFirst := s.isDeeper k.column
    let s := if isFirst then s.indent k.column else s
    let s := { s with keys := (k.place, isFirst) :: s.keys, candidate := none }
    some { s.take 1 .value with mayBeKey := false }
  | none =>
    if !s.inBrackets && !s.mayBeKey then none
    else some { (s.openBlock .blockMapping).take 1 .value with mayBeKey := !s.inBrackets }

/-- A sign that may begin a key. -/
def takeWith (read : Cursor → Option (Token × Cursor)) (s : Scan) : Option Scan := do
  let s ← s.addCandidate
  let (token, cursor) ← read s.cursor
  return { s.push token with cursor, mayBeKey := false }

/-- The sign of a scalar in quotes. -/
def quotedToken (isDouble : Bool) (c : Cursor) : Option (Token × Cursor) :=
  (readQuoted isDouble (c.rest.length + 1) (c.skip 1) []).map fun t =>
    (.scalar t.text false, t.cursor)

/-- The sign of a scalar in a block. -/
def takeBlock (isLiteral : Bool) (s : Scan) : Option Scan := do
  let s ← s.dropCandidate
  let t ← readBlock isLiteral s.margin (s.cursor.skip 1)
  return { s.push (.scalar t.text false) with cursor := t.cursor, mayBeKey := true }

/-- The sign of a plain scalar. After line breaks a key may begin. -/
def takePlain (s : Scan) : Option Scan := do
  let s ← s.addCandidate
  let t ← readPlain s.inBrackets s.margin (s.cursor.rest.length + 1) s.cursor [] {}
  return { s.push (.scalar t.text true) with cursor := t.cursor, mayBeKey := t.endsBroken }

/-- Whether no plain scalar begins with a character. -/
def isSign (c : Char) : Bool := "-?:,[]{}#&*!|>'\"%@`".toList.contains c

/-- Whether a plain scalar begins here. -/
def beginsPlain (inBrackets : Bool) (x : Char) (rest : List Char) : Bool :=
  !(isSign x || isBlank x) || (x == '-' && !rest.head?.any isBlank) ||
    (!inBrackets && (x == '?' || x == ':') && !endsWord rest)

/-- Takes the sign that begins with a character. -/
def takeSign (x : Char) (rest : List Char) (s : Scan) : Option Scan :=
  let alone := endsWord rest
  if s.cursor.column == 0 && x == '%' then do
    let s ← s.atMargin
    let (token, cursor) ← takeDirective (s.cursor.skip 1)
    return { s.push token with cursor }
  else if s.cursor.atMark Cursor.startMark then s.atMargin.map (take 3 .documentStart)
  else if s.cursor.atMark Cursor.endMark then s.atMargin.map (take 3 .documentEnd)
  else if x == '[' then s.openBracket .flowSequence
  else if x == '{' then s.openBracket .flowMapping
  else if x == ']' then s.closeBracket .flowSequenceEnd
  else if x == '}' then s.closeBracket .flowMappingEnd
  else if x == ',' then s.separate
  else if x == '-' && alone then s.beginEntry
  else if x == '?' && (s.inBrackets || alone) then s.beginKey
  else if x == ':' && (s.inBrackets || alone) then s.beginValue
  else if x == '*' then s.takeWith fun c => (takeAnchor (c.skip 1)).map fun (n, c) => (.alias n, c)
  else if x == '&' then s.takeWith fun c => (takeAnchor (c.skip 1)).map fun (n, c) => (.anchor n, c)
  else if x == '!' then s.takeWith (takeTag s.inBrackets)
  else if x == '|' && !s.inBrackets then s.takeBlock true
  else if x == '>' && !s.inBrackets then s.takeBlock false
  else if x == '\'' then s.takeWith (quotedToken false)
  else if x == '"' then s.takeWith (quotedToken true)
  else if beginsPlain s.inBrackets x rest then s.takePlain
  else none

/-- Takes signs up to the end of the text. -/
def takeSigns : Nat → Scan → Option Scan
  | 0, _ => none
  | fuel + 1, s => do
    let s ← (s.skipSpace (s.cursor.rest.length + 1)).refreshAll
    match s.cursor.rest with
    | [] => (s.closeTo 0).dropCandidate
    | x :: rest => takeSigns fuel (← s.close.takeSign x rest)

end Scan

/-- The signs with keys put in between, each after as many signs as it says. The signs are
    counted from `i`. -/
def withKeys (i : Nat) (keys : List (Nat × Bool)) (tokens : List Token) : List Token :=
  match keys, tokens with
  | [], tokens => tokens
  | _ :: _, [] => []
  | (place, isFirst) :: keys, token :: tokens =>
    if place = i then
      (if isFirst then [.blockMapping, .key] else [.key]) ++ token :: withKeys (i + 1) keys tokens
    else token :: withKeys (i + 1) ((place, isFirst) :: keys) tokens

/-- The signs of a text. -/
def scan? (text : List Char) : Option (List Token) :=
  (Scan.takeSigns (text.length + 1) { cursor := { rest := text } }).map fun s =>
    withKeys 0 (s.keys.mergeSort fun a b => a.1 ≤ b.1) s.tokens.toList

end ChatRules.Yaml
