import ChatRules.Digits
import ChatRules.Regex.Reader

/-!
# Escapes in patterns

What a backslash begins: characters by number, classes by letter or by name,
conditions on the place, and characters that would mean something else without
it. An escape without a meaning is an error.
-/

namespace ChatRules.Regex.Reader

/-- The character with the number that digits to base 16 stand for. -/
def hexChar? (ds : List Char) : Option Char :=
  (Digits.toNat? 16 ds).bind fun n => if n.isValidChar then some (Char.ofNat n) else none

/-- A given number of digits to base 16. -/
def hexDigits : Nat → Bool → Reader (List Char)
  | 0, _ => return []
  | n + 1, first => do
    if !first then
      if !(← bumpAndSpace) then fail .escapeUnexpectedEnd (← here)
    match ← peek? with
    | some c =>
      if Digits.isDigit 16 c then return c :: (← hexDigits n false)
      else fail .hexInvalidDigit (← charSpan)
    | none => fail .hexInvalidDigit (← charSpan)

/-- Digits to base 16 up to a closing brace, the reader standing before the first. -/
def hexBraced : Nat → Reader (List Char)
  | 0 => return []
  | fuel + 1 => do
    if !(← bumpAndSpace) then return []
    match ← peek? with
    | some '\x7d' | none => return []
    | some c =>
      if Digits.isDigit 16 c then return c :: (← hexBraced fuel)
      else fail .hexInvalidDigit (← charSpan)

/-- A character by its number, after the letter that says so. -/
def hexEscape (first : Position) (digits : Nat) : Reader Pattern := do
  if !(← bumpAndSpace) then fail .escapeUnexpectedEnd (← here)
  if (← peek?) = some '\x7b' then
    let brace ← place
    let start := brace.after '\x7b'
    let ds ← hexBraced (← fuel)
    if (← peek?).isNone then fail .escapeUnexpectedEnd (← since brace)
    let stop ← place
    let _ ← bumpAndSpace
    if ds.isEmpty then fail .hexEmpty (← since brace)
    match hexChar? ds with
    | none => fail .hexInvalid ⟨start, stop⟩
    | some c => return .literal (← since first) c false
  else
    let start ← place
    let ds ← hexDigits digits true
    let _ ← bumpAndSpace
    match hexChar? ds with
    | none => fail .hexInvalid (← since start)
    | some c => return .literal (← since first) c (digits == 2)

/-- What stands before the first occurrence of a mark, and what after it. -/
def cut (mark : List Char) : List Char → Option (List Char × List Char)
  | [] => none
  | c :: rest =>
    if mark.isPrefixOf (c :: rest) then some ([], (c :: rest).drop mark.length)
    else (cut mark rest).map fun (a, b) => (c :: a, b)

/-- The name of a property between braces. -/
def propertyName (name : List Char) : PropertyName :=
  let pair (negated : Bool) (p : List Char × List Char) : PropertyName :=
    .value negated (String.ofList p.1) (String.ofList p.2)
  match cut ['!', '='] name, cut [':'] name, cut ['='] name with
  | some p, _, _ => pair true p
  | none, some p, _ => pair false p
  | none, none, some p => pair false p
  | none, none, none => .name (String.ofList name)

/-- The characters up to a closing brace, the reader standing before the first. -/
def braced : Nat → Reader (List Char)
  | 0 => return []
  | fuel + 1 => do
    if !(← bumpAndSpace) then return []
    match ← peek? with
    | some '\x7d' | none => return []
    | some c => return c :: (← braced fuel)

/-- A class by its Unicode property, after the backslash. -/
def unicodeClass (first : Position) (negated : Bool) : Reader Pattern := do
  if !(← bumpAndSpace) then fail .escapeUnexpectedEnd (← here)
  match ← peek? with
  | some '\x7b' =>
    let name ← braced (← fuel)
    if (← peek?).isNone then fail .escapeUnexpectedEnd (← here)
    let _ ← bump
    return .property (← since first) (propertyName name) negated
  | some c =>
    if c = '\\' then fail .unicodeClassInvalid (← charSpan)
    let _ ← bumpAndSpace
    return .property (← since first) (.letter c) negated
  | none => fail .escapeUnexpectedEnd (← here)

/-- The characters that mean something in a pattern. -/
def isMeta (c : Char) : Bool := "\\.+*?()|[]\x7b\x7d^$#&-~".toList.contains c

/-- The characters that a backslash may stand before without changing them. -/
def isEscapable (c : Char) : Bool :=
  isMeta c || (c.toNat < 128 && !c.isAlphanum && c != '<' && c != '>')

/-- The name of a kind of word boundary. -/
def boundaryKind? : String → Option Assertion
  | "start" => some .wordStart
  | "end" => some .wordEnd
  | "start-half" => some .wordStartHalf
  | "end-half" => some .wordEndHalf
  | _ => none

/-- A kind of word boundary between braces, if what the braces hold begins like one. -/
def specialBoundary? (first : Position) : Reader (Option Assertion) := do
  let saved ← get
  let start ← place
  let isValid (c : Char) : Bool := c.isAlpha || c == '-'
  if !(← bumpAndSpace) then fail .boundaryUnexpectedEnd (← since first)
  let contents ← place
  match ← peek? with
  | some c =>
    if !isValid c then
      set saved
      return none
    let name ← collect isValid bumpAndSpace (← fuel)
    if (← peek?) != some '\x7d' then fail .boundaryUnclosed (← since start)
    let stop ← place
    let _ ← bump
    match boundaryKind? (String.ofList name) with
    | some kind => return some kind
    | none => fail .boundaryUnrecognized ⟨contents, stop⟩
  | none => fail .boundaryUnexpectedEnd (← since first)

/-- An escape, from its backslash on. -/
def escape : Reader Pattern := do
  let first ← place
  if !(← bump) then fail .escapeUnexpectedEnd (← since first)
  match ← peek? with
  | none => fail .escapeUnexpectedEnd (← since first)
  | some c =>
    if c.isDigit then fail .backreference ⟨first, (← charSpan).stop⟩
    else if c = 'x' then hexEscape first 2
    else if c = 'u' then hexEscape first 4
    else if c = 'U' then hexEscape first 8
    else if c = 'p' then unicodeClass first false
    else if c = 'P' then unicodeClass first true
    else
      let _ ← bump
      let span ← since first
      let literal (c : Char) : Reader Pattern := return .literal span c false
      let assertion (kind : Assertion) : Reader Pattern := return .assertion span kind
      if isEscapable c then literal c
      else
        match c with
        | 'd' => return .letterClass span .digit false
        | 'D' => return .letterClass span .digit true
        | 's' => return .letterClass span .space false
        | 'S' => return .letterClass span .space true
        | 'w' => return .letterClass span .word false
        | 'W' => return .letterClass span .word true
        | 'a' => literal '\x07'
        | 'f' => literal '\x0c'
        | 't' => literal '\t'
        | 'n' => literal '\n'
        | 'r' => literal '\r'
        | 'v' => literal '\x0b'
        | 'A' => assertion .textStart
        | 'z' => assertion .textEnd
        | 'B' => assertion .notWordBoundary
        | '<' => assertion .wordStart
        | '>' => assertion .wordEnd
        | 'b' =>
          if (← peek?) = some '\x7b' then
            match ← specialBoundary? first with
            | some kind => return .assertion (← since first) kind
            | none => assertion .wordBoundary
          else assertion .wordBoundary
        | _ => fail .escapeUnrecognized span

end ChatRules.Regex.Reader
