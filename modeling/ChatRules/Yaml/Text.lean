import ChatRules.Yaml.Cursor
import ChatRules.Yaml.Scalar

/-!
# Reading scalars

The text of a scalar, with line breaks folded as its style wants it. A plain
scalar ends where the layout ends it, one in quotes at its closing quote, and
one in a block where a line stands further left.
-/

namespace ChatRules.Yaml

/-! ## Folding -/

/-- What stands between two words: blanks, or line breaks. -/
structure Gap where
  blanks : List Char := []
  /-- The first line break. -/
  first : List Char := []
  /-- The line breaks after the first one. -/
  more : List Char := []
  isBroken : Bool := false
deriving Repr

/-- What a gap becomes: a single line break a space, others one break less. -/
def Gap.text (g : Gap) : List Char :=
  if !g.isBroken then g.blanks
  else if g.first == ['\n'] then if g.more.isEmpty then [' '] else g.more
  else g.first ++ g.more

/-- Reads blanks and line breaks. After a line break a tab left of the margin is a
    fault. -/
def readGap (margin : Nat) : Nat → Cursor → Gap → Option (Gap × Cursor)
  | 0, c, g => some (g, c)
  | fuel + 1, c, g =>
    match c.rest with
    | [] => some (g, c)
    | x :: _ =>
      if isBlank x then
        if g.isBroken then
          if x == '\t' && c.column < margin then none else readGap margin fuel (c.skip 1) g
        else readGap margin fuel (c.skip 1) { g with blanks := g.blanks ++ [x] }
      else if isBreak x then
        let (b, c) := c.takeBreak
        readGap margin fuel c
          (if g.isBroken then { g with more := g.more ++ b } else ⟨[], b, [], true⟩)
      else some (g, c)

/-! ## Plain scalars -/

/-- Whether a character has a meaning of its own inside brackets. -/
def isBracketSign (c : Char) : Bool := c == ',' || c == '[' || c == ']' || c == '{' || c == '}'

/-- A word of a plain scalar. -/
def plainWord? (inBrackets : Bool) : List Char → Option (List Char)
  | [] => some []
  | x :: rest =>
    if isBlank x || isBreak x then some []
    else if inBrackets && x == ':' && rest.head?.any fun y => y == '?' || isBracketSign y then none
    else if x == ':' && endsWord rest then some []
    else if inBrackets && isBracketSign x then some []
    else (plainWord? inBrackets rest).map (x :: ·)

/-- What was read of a scalar: its text backwards, and the cursor behind it. -/
structure Taken where
  reversed : List Char
  cursor : Cursor
  /-- Whether line breaks follow the scalar that were read with it. -/
  endsBroken : Bool := false

/-- The text that was read. -/
def Taken.text (t : Taken) : String := String.ofList t.reversed.reverse

/-- Reads a plain scalar from its first word on. Outside of brackets it stays right of
    the margin. -/
def readPlain (inBrackets : Bool) (margin : Nat) :
    Nat → Cursor → List Char → Gap → Option Taken
  | 0, _, _, _ => none
  | fuel + 1, c, reversed, gap =>
    if c.atAnyMark || c.rest.head? == some '#' then some ⟨reversed, c, gap.isBroken⟩
    else
      match plainWord? inBrackets c.rest with
      | none => none
      | some [] => some ⟨reversed, c, gap.isBroken⟩
      | some word =>
        let reversed := word.reverse ++ (gap.text.reverse ++ reversed)
        let c := c.skip word.length
        match c.rest with
        | [] => some ⟨reversed, c, false⟩
        | x :: _ =>
          if isBlank x || isBreak x then
            match readGap margin (c.rest.length + 1) c {} with
            | none => none
            | some (gap, c) =>
              if !inBrackets && c.column < margin then some ⟨reversed, c, gap.isBroken⟩
              else readPlain inBrackets margin fuel c reversed gap
          else some ⟨reversed, c, false⟩

/-! ## Scalars in quotes -/

/-- How many digits follow the letter of an escape. -/
def escapeDigits : Char → Nat
  | 'x' => 2
  | 'u' => 4
  | 'U' => 8
  | _ => 0

/-- The character of an escape by a letter alone. -/
def escapeChar? : Char → Option Char
  | '0' => some '\x00'
  | 'a' => some '\x07'
  | 'b' => some '\x08'
  | 't' | '\t' => some '\t'
  | 'n' => some '\n'
  | 'v' => some '\x0b'
  | 'f' => some '\x0c'
  | 'r' => some '\r'
  | 'e' => some '\x1b'
  | ' ' => some ' '
  | '"' => some '"'
  | '/' => some '/'
  | '\\' => some '\\'
  | 'N' => some '\u0085'
  | '_' => some '\u00a0'
  | 'L' => some '\u2028'
  | 'P' => some '\u2029'
  | _ => none

/-- The character of an escape and the length of its spelling after the backslash. -/
def escape? (text : List Char) : Option (Char × Nat) :=
  match text with
  | [] => none
  | letter :: rest =>
    match escapeDigits letter with
    | 0 => (escapeChar? letter).map (·, 1)
    | n =>
      if rest.length < n then none
      else
        (Digits.toNat? 16 (rest.take n)).bind fun value =>
          if value.isValidChar then some (Char.ofNat value, n + 1) else none

/-- What comes next in a scalar in quotes. -/
inductive QuotedStep where
  | char (c : Char) (length : Nat)
  | gap
  | joinedLine
  | close
  | fault

/-- The next step in a scalar in double quotes or in single ones. -/
def quotedStep (isDouble : Bool) (text : List Char) : QuotedStep :=
  match text with
  | [] => .fault
  | x :: rest =>
    if isBlank x || isBreak x then .gap
    else if isDouble then
      if x == '"' then .close
      else if x == '\\' then
        if rest.head?.any isBreak then .joinedLine
        else
          match escape? rest with
          | some (c, n) => .char c (n + 1)
          | none => .fault
      else .char x 1
    else if x == '\'' then if rest.head? == some '\'' then .char x 2 else .close
    else .char x 1

/-- Reads a scalar in quotes from behind its opening quote. -/
def readQuoted (isDouble : Bool) : Nat → Cursor → List Char → Option Taken
  | 0, _, _ => none
  | fuel + 1, c, reversed =>
    if c.atAnyMark then none
    else
      match quotedStep isDouble c.rest with
      | .fault => none
      | .close => some { reversed, cursor := c.skip 1 }
      | .char x n => readQuoted isDouble fuel (c.skip n) (x :: reversed)
      | .gap =>
        match readGap 0 (c.rest.length + 1) c {} with
        | none => none
        | some (gap, c) => readQuoted isDouble fuel c (gap.text.reverse ++ reversed)
      | .joinedLine =>
        match readGap 0 (c.rest.length + 1) (c.skip 1).takeBreak.2 { isBroken := true } with
        | none => none
        | some (gap, c) => readQuoted isDouble fuel c (gap.text.reverse ++ reversed)

/-! ## Scalars in blocks -/

/-- What happens to the line breaks at the end of a block: all go, one stays, all stay. -/
inductive Chomp where
  | strip | clip | keep
deriving DecidableEq, Repr

/-- The signs after the beginning of a block: what happens at its end, and how far it is
    indented. -/
structure BlockSigns where
  chomp : Chomp := .clip
  indent : Option Nat := none

/-- The sign for what happens at the end of a block. -/
def chompSign? : Char → Option Chomp
  | '-' => some .strip
  | '+' => some .keep
  | _ => none

/-- Reads the signs of a block in either order; an indentation of 0 is a fault. -/
def readSigns (text : List Char) : Option (BlockSigns × Nat) :=
  let digit? (c : Char) : Option Nat := if c.isDigit then some (c.toNat - 48) else none
  let result : BlockSigns × Nat :=
    match text with
    | a :: b :: _ =>
      match chompSign? a, digit? a, chompSign? b, digit? b with
      | some chomp, _, _, some n => (⟨chomp, some n⟩, 2)
      | _, some n, some chomp, _ => (⟨chomp, some n⟩, 2)
      | some chomp, _, _, _ => (⟨chomp, none⟩, 1)
      | _, some n, _, _ => (⟨.clip, some n⟩, 1)
      | _, _, _, _ => ({}, 0)
    | [a] =>
      match chompSign? a, digit? a with
      | some chomp, _ => (⟨chomp, none⟩, 1)
      | _, some n => (⟨.clip, some n⟩, 1)
      | _, _ => ({}, 0)
    | [] => ({}, 0)
  if result.1.indent == some 0 then none else some result

/-- Reads empty lines and the indentation of the line after them. With an indentation of
    0, which is not known yet, all spaces belong to it; `widest` is the widest one. -/
def readEmptyLines (indent : Nat) :
    Nat → Cursor → List Char → Nat → Option (List Char × Cursor × Nat)
  | 0, c, breaks, widest => some (breaks, c, widest)
  | fuel + 1, c, breaks, widest =>
    let spaces := (c.rest.takeWhile (· == ' ')).length
    let c := c.skip (if indent = 0 then spaces else min spaces (indent - c.column))
    let widest := max widest c.column
    match c.rest with
    | [] => some (breaks, c, widest)
    | x :: _ =>
      if x == '\t' && (indent = 0 || c.column < indent) then none
      else if isBreak x then
        let (b, c) := c.takeBreak
        readEmptyLines indent fuel c (breaks ++ b) widest
      else some (breaks, c, widest)

/-- What was read of a block: its text backwards, the break after its last line, and the
    empty lines after that. -/
structure BlockText where
  reversed : List Char := []
  lineBreak : List Char := []
  emptyLines : List Char := []
  /-- Whether the last line begins with a blank. Such a line is not folded. -/
  startsBlank : Bool := false

/-- The text before the next line of a block. -/
def BlockText.beforeLine (t : BlockText) (isLiteral startsBlank : Bool) : List Char :=
  let break? :=
    if !isLiteral && t.lineBreak == ['\n'] && !t.startsBlank && !startsBlank then
      if t.emptyLines.isEmpty then [' '] else []
    else t.lineBreak
  t.emptyLines.reverse ++ (break?.reverse ++ t.reversed)

/-- Reads the lines of a block. -/
def readLines (isLiteral : Bool) (indent : Nat) :
    Nat → Cursor → BlockText → Option (BlockText × Cursor)
  | 0, _, _ => none
  | fuel + 1, c, t =>
    if c.column != indent || c.rest.isEmpty then some (t, c)
    else
      let startsBlank := c.rest.head?.any isBlank
      let line := c.rest.takeWhile fun x => !isBreak x
      let (lineBreak, c') := (c.skip line.length).takeBreak
      match readEmptyLines indent (c'.rest.length + 1) c' [] 0 with
      | none => none
      | some (emptyLines, c', _) =>
        readLines isLiteral indent fuel c'
          ⟨line.reverse ++ t.beforeLine isLiteral startsBlank, lineBreak, emptyLines, startsBlank⟩

/-- The text of a block with what its end keeps. -/
def BlockText.finish (t : BlockText) (chomp : Chomp) : List Char :=
  match chomp with
  | .strip => t.reversed
  | .clip => t.lineBreak.reverse ++ t.reversed
  | .keep => t.emptyLines.reverse ++ (t.lineBreak.reverse ++ t.reversed)

/-- Reads a block from behind its first sign. Its lines stand at the margin or right of
    it. -/
def readBlock (isLiteral : Bool) (margin : Nat) (c : Cursor) : Option Taken := do
  let (signs, n) ← readSigns c.rest
  let c := (c.skip n).skipWhile isBlank
  let c := if c.rest.head? == some '#' then c.toLineEnd else c
  if !endsLine c.rest then none
  let c := c.takeBreak.2
  let fuel := c.rest.length + 1
  let known := (signs.indent.map (margin - 1 + ·)).getD 0
  let (emptyLines, c, widest) ← readEmptyLines known fuel c [] 0
  let indent := if known = 0 then max (max widest margin) 1 else known
  let (t, c) ← readLines isLiteral indent fuel c { emptyLines }
  return { reversed := t.finish signs.chomp, cursor := c }

end ChatRules.Yaml
