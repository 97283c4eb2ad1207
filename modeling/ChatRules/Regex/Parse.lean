import ChatRules.Regex.Bracket
import ChatRules.Word

/-!
# Reading patterns

A pattern is read one element at a time, with a stack of the groups that are
open. A repetition repeats the element before it; it fails where there is none.
-/

namespace ChatRules.Regex

namespace Reader

/-- A decimal number below 2^32. Without digits there is none. -/
def decimal? : Reader (Except Error Nat) := do
  let _ ← collect Text.isBlank bump (← fuel)
  let start ← place
  let ds ← collect Char.isDigit bumpAndSpace (← fuel)
  let span ← since start
  let _ ← collect Text.isBlank bumpAndSpace (← fuel)
  let n := ds.foldl (fun n c => 10 * n + (c.toNat - 48)) 0
  if ds.isEmpty then return .error ⟨.countEmpty, span, none⟩
  else if n < wordSize 32 then return .ok n
  else return .error ⟨.decimalInvalid, span, none⟩

/-- A decimal number that has to be there. -/
def need (n : Except Error Nat) : Reader Nat :=
  match n with
  | .ok n => return n
  | .error e => throw e

/-- The letters of flags. -/
def isFlag (c : Char) : Bool := "imsUuRx".toList.contains c

/-- The flags up to a colon or a closing parenthesis, each with its stretch. -/
def flagItems : Nat → List (FlagItem × Span) → Reader (List (FlagItem × Span))
  | 0, done => return done.reverse
  | fuel + 1, done => do
    match ← peek? with
    | none => fail .flagUnexpectedEnd (← here)
    | some c =>
      let span ← charSpan
      if c = ':' || c = ')' then
        match done with
        | (.negation, span) :: _ => fail .flagDanglingNegation span
        | _ => return done.reverse
      else
        let item ←
          if c = '-' then pure FlagItem.negation
          else if isFlag c then pure (FlagItem.flag c)
          else fail .flagUnrecognized span
        match done.find? fun d => d.1 == item with
        | some (_, earlier) =>
          fail (if item = .negation then .flagRepeatedNegation else .flagDuplicate) span
            (some earlier)
        | none =>
          if !(← bump) then fail .flagUnexpectedEnd (← here)
          flagItems fuel ((item, span) :: done)

/-- Whether a character may stand in the name of a group. -/
def isNameChar (first : Bool) (c : Char) : Bool :=
  if first then c == '_' || Text.isAlphabetic c
  else c == '_' || c == '.' || c == '[' || c == ']' || Text.isAlphanumeric c

/-- The characters of the name of a group. -/
def nameChars : Nat → Bool → Reader (List Char)
  | 0, _ => return []
  | fuel + 1, first => do
    match ← peek? with
    | none | some '>' => return []
    | some c =>
      if !isNameChar first c then fail .groupNameInvalid (← charSpan)
      if ← bump then return c :: (← nameChars fuel false) else return [c]

/-- The name of a group, which no group before it has. -/
def groupName : Reader Unit := do
  if (← peek?).isNone then fail .groupNameUnexpectedEnd (← here)
  let start ← place
  let name ← nameChars (← fuel) true
  let span ← since start
  if (← peek?).isNone then fail .groupNameUnexpectedEnd (← here)
  let _ ← bump
  if name.isEmpty then fail .groupNameEmpty ⟨start, start⟩
  let name := String.ofList name
  let s ← get
  match s.names.find? fun n => n.1 == name with
  | some (_, earlier) => fail .groupNameDuplicate span (some earlier)
  | none => set { s with names := s.names ++ [(name, span)] }

/-- The beginning of a group: flags for what follows, or a group with flags of its
    own. -/
inductive GroupStart where
  | flags (span : Span) (items : List FlagItem)
  | group (span : Span) (items : List FlagItem)

/-- The beginning of a group, from its parenthesis on. -/
def groupStart : Reader GroupStart := do
  let opening ← charSpan
  let _ ← bump
  bumpSpace
  if (← bumpIf ['?', '=']) || (← bumpIf ['?', '!']) || (← bumpIf ['?', '<', '=']) ||
      (← bumpIf ['?', '<', '!']) then
    fail .lookAround (← since opening.first)
  let inner ← here
  if (← bumpIf ['?', 'P', '<']) || (← bumpIf ['?', '<']) then
    groupName
    return .group opening []
  if ← bumpIf ['?'] then
    if (← peek?).isNone then fail .groupUnclosed opening
    let items ← flagItems (← fuel) []
    let closing ← peek?
    let _ ← bump
    if closing = some ')' then
      if items.isEmpty then fail .repetitionMissing inner
      return .flags (← since opening.first) (items.map (·.1))
    return .group opening (items.map (·.1))
  return .group opening []

/-- The parts of an alternation: those that are complete, and those of the one being
    read, each the latest first. -/
structure Level where
  start : Position
  alternatives : List Pattern := []
  alternationStart : Position := start
  parts : List Pattern := []

/-- One more part. -/
def Level.push (l : Level) (p : Pattern) : Level := { l with parts := p :: l.parts }

/-- The parts being read, as one pattern. -/
def Level.concat (l : Level) (stop : Position) : Pattern :=
  .ofParts ⟨l.start, stop⟩ l.parts.reverse

/-- All that has been read, as one pattern. -/
def Level.finish (l : Level) (stop : Position) : Pattern :=
  match l.alternatives with
  | [] => l.concat stop
  | done => .alternation ⟨l.alternationStart, stop⟩ (done.reverse ++ [l.concat stop])

/-- A group that is open: what stands before it, and whether blanks were ignored
    there. -/
structure OpenGroup where
  outer : Level
  span : Span
  items : List FlagItem
  ignoreBlanks : Bool

/-- The part that a repetition repeats. -/
def repeated (level : Level) : Reader (Pattern × Level) := do
  match level.parts with
  | [] | .empty _ :: _ | .flags _ _ :: _ => fail .repetitionMissing (← here)
  | p :: rest => return (p, { level with parts := rest })

/-- A repetition without a count. -/
def repetition (level : Level) (least : Nat) (most : Option Nat) : Reader Level := do
  let (p, level) ← repeated level
  let greedy ←
    if ← bump then
      if (← peek?) = some '?' then
        let _ ← bump
        pure false
      else pure true
    else pure true
  return level.push (.repetition ⟨p.span.first, ← place⟩ least most greedy p)

/-- A repetition with a count between braces. -/
def countedRepetition (level : Level) : Reader Level := do
  let start ← place
  let (p, level) ← repeated level
  if !(← bumpAndSpace) then fail .countUnclosed (← since start)
  let least ← decimal?
  let (least, most) ← do
    match ← peek? with
    | none => fail .countUnclosed (← since start)
    | some ',' =>
      if !(← bumpAndSpace) then fail .countUnclosed (← since start)
      if (← peek?) = some '\x7d' then pure (← need least, none)
      else
        let least ← need least
        pure (least, some (← need (← decimal?)))
    | some _ =>
      let n ← need least
      pure (n, some n)
  if (← peek?) != some '\x7d' then fail .countUnclosed (← since start)
  let greedy ←
    if ← bumpAndSpace then
      if (← peek?) = some '?' then
        let _ ← bump
        pure false
      else pure true
    else pure true
  match most with
  | some m => if m < least then fail .countInvalid (← since start)
  | none => pure ()
  return level.push (.repetition ⟨p.span.first, ← place⟩ least most greedy p)

/-- An element that is neither a group nor a repetition nor a class. -/
def element (c : Char) : Reader Pattern := do
  if c = '\\' then escape
  else
    let span ← charSpan
    let _ ← bump
    match c with
    | '.' => return .dot span
    | '^' => return .assertion span .lineStart
    | '$' => return .assertion span .lineEnd
    | c => return .literal span c false

/-- The elements of a pattern, one a step. -/
def patternLoop : Nat → List OpenGroup → Level → Reader Pattern
  | 0, _, level => do return level.finish (← place)
  | fuel + 1, stack, level => do
    bumpSpace
    match ← peek? with
    | none =>
      match stack with
      | [] => return level.finish (← place)
      | group :: _ => fail .groupUnclosed group.span
    | some '(' =>
      match ← groupStart with
      | .flags span items =>
        modify fun s => { s with ignoreBlanks := (flagState 'x' true items).getD s.ignoreBlanks }
        patternLoop fuel stack (level.push (.flags span items))
      | .group span items =>
        let old := (← get).ignoreBlanks
        modify fun s => { s with ignoreBlanks := (flagState 'x' true items).getD old }
        patternLoop fuel (⟨level, span, items, old⟩ :: stack) { start := ← place }
    | some ')' =>
      match stack with
      | [] => fail .groupUnopened (← charSpan)
      | group :: rest =>
        let inner := level.finish (← place)
        modify fun s => { s with ignoreBlanks := group.ignoreBlanks }
        let _ ← bump
        let span : Span := ⟨group.span.first, ← place⟩
        patternLoop fuel rest (group.outer.push (.group span group.items inner))
    | some '|' =>
      let done := level.concat (← place)
      let start := if level.alternatives.isEmpty then level.start else level.alternationStart
      let _ ← bump
      patternLoop fuel stack
        { start := ← place, alternatives := done :: level.alternatives, alternationStart := start }
    | some '[' => patternLoop fuel stack (level.push (← bracketedClass))
    | some '?' => patternLoop fuel stack (← repetition level 0 (some 1))
    | some '*' => patternLoop fuel stack (← repetition level 0 none)
    | some '+' => patternLoop fuel stack (← repetition level 1 none)
    | some '\x7b' => patternLoop fuel stack (← countedRepetition level)
    | some c => patternLoop fuel stack (level.push (← element c))

end Reader

/-- The structure of a pattern, nested no deeper than is allowed. -/
def parse (pattern : String) (ignoreBlanks : Bool) : Except Error Pattern :=
  let chars := pattern.toList
  let state : ReadState := { rest := chars, ignoreBlanks }
  match (Reader.patternLoop (chars.length + 1) [] { start := .start }).run state with
  | .error e => .error e
  | .ok (p, _) =>
    match p.tooDeep? nestLimit with
    | some span => .error { kind := .nestedTooDeep, span }
    | none => .ok p

end ChatRules.Regex
