import ChatRules.Regex.Escape

/-!
# Classes between brackets

A class lists characters, ranges and other classes, and can be the result of an
operation on two lists. A hyphen or a closing bracket at its beginning stands for
itself.
-/

namespace ChatRules.Regex.Reader

/-- The parts of a class read so far, the latest first. -/
structure Parts where
  items : List ClassPattern := []
  span : Span

/-- One more part. -/
def Parts.push (p : Parts) (item : ClassPattern) : Parts :=
  let first := if p.items.isEmpty then item.span.first else p.span.first
  ⟨item :: p.items, ⟨first, item.span.stop⟩⟩

/-- The parts as one class. -/
def Parts.union (p : Parts) : ClassPattern :=
  match p.items with
  | [] => .empty p.span
  | [item] => item
  | items => .union p.span items.reverse

/-- What is open while a class is read: a bracket inside the parts before it, or an
    operation after its left side. -/
inductive ClassFrame where
  | bracket (outer : Parts) (span : Span) (negated : Bool)
  | operation (kind : SetOp) (left : ClassPattern)

/-- Applies the operation that is open, if one is. -/
def closeOperation (stack : List ClassFrame) (right : ClassPattern) :
    ClassPattern × List ClassFrame :=
  match stack with
  | .operation kind left :: rest =>
    (.op ⟨left.span.first, right.span.stop⟩ kind left right, rest)
  | stack => (right, stack)

/-- The error of a class that is not closed: it stands at the innermost bracket. -/
def unclosedClass {α : Type} : List ClassFrame → Reader α
  | .bracket _ span _ :: _ => fail .classUnclosed span
  | .operation _ _ :: rest => unclosedClass rest
  | [] => do fail .classUnclosed (← here)

/-- The hyphens at the beginning of a class, which stand for themselves. -/
def leadingHyphens (start : Position) : Nat → Parts → Reader Parts
  | 0, parts => return parts
  | fuel + 1, parts => do
    if (← peek?) = some '-' then
      let parts := parts.push (.literal (← charSpan) '-')
      if !(← bumpAndSpace) then fail .classUnclosed ⟨start, start⟩
      leadingHyphens start fuel parts
    else return parts

/-- The beginning of a class: its bracket, a negation, and what stands for itself only
    there. The answer is the stretch so far, the negation and the parts. -/
def openClass : Reader (Span × Bool × Parts) := do
  let start ← place
  if !(← bumpAndSpace) then fail .classUnclosed (← since start)
  let negated := (← peek?) == some '^'
  if negated then
    if !(← bumpAndSpace) then fail .classUnclosed (← since start)
  let mut parts ← leadingHyphens start (← fuel) { span := ← here }
  if parts.items.isEmpty && (← peek?) == some ']' then
    parts := parts.push (.literal (← charSpan) ']')
    if !(← bumpAndSpace) then fail .classUnclosed (← since start)
  return (← since start, negated, parts)

/-- The names of the classes between brackets and colons. -/
def asciiNames : List String :=
  ["alnum", "alpha", "ascii", "blank", "cntrl", "digit", "graph", "lower", "print", "punct",
    "space", "upper", "word", "xdigit"]

/-- A class between brackets and colons. Without one the reader does not move. -/
def asciiClass? : Reader (Option ClassPattern) := do
  let saved ← get
  let start ← place
  if !(← bumpIf ['[', ':']) then return none
  let negated ← bumpIf ['^']
  let name ← collect (· != ':') bump (← fuel)
  let name := String.ofList name
  if (← bumpIf [':', ']']) && asciiNames.contains name then
    return some (.ascii (← since start) name negated)
  set saved
  return none

/-- A part of a class that can be an end of a range. -/
def classElement : Reader Pattern := do
  match ← peek? with
  | some '\\' => escape
  | some c =>
    let span ← charSpan
    let _ ← bump
    return .literal span c false
  | none => fail .classUnclosed (← here)

/-- An element as a part of a class. -/
def classItem : Pattern → Reader ClassPattern
  | .literal span c _ => return .literal span c
  | .letterClass span kind negated => return .letterClass span kind negated
  | .property span name negated => return .property span name negated
  | p => fail .classEscapeInvalid p.span

/-- An element as the end of a range. -/
def rangeEnd : Pattern → Reader Char
  | .literal _ c _ => return c
  | p => fail .classRangeLiteral p.span

/-- An element or a range of a class. -/
def classRange (stack : List ClassFrame) : Reader ClassPattern := do
  let low ← classElement
  bumpSpace
  match ← peek? with
  | none => unclosedClass stack
  | some c =>
    let next ← peekSpace?
    if c != '-' || next == some ']' || next == some '-' then classItem low
    else
      if !(← bumpAndSpace) then unclosedClass stack
      let high ← classElement
      let span : Span := ⟨low.span.first, high.span.stop⟩
      let lowChar ← rangeEnd low
      let highChar ← rangeEnd high
      if lowChar ≤ highChar then return .range span lowChar highChar
      else fail .classRangeInvalid span

/-- The operation that comes next in a class. -/
def operation? : Reader (Option SetOp) := do
  if ← bumpIf ['&', '&'] then return some .intersection
  else if ← bumpIf ['-', '-'] then return some .difference
  else if ← bumpIf ['~', '~'] then return some .symmetricDifference
  else return none

/-- The elements of a class, one a step. -/
def classLoop : Nat → List ClassFrame → Parts → Reader Pattern
  | 0, stack, _ => unclosedClass stack
  | fuel + 1, stack, parts => do
    bumpSpace
    match ← peek? with
    | none => unclosedClass stack
    | some '[' =>
      match ← (if stack.isEmpty then pure none else asciiClass?) with
      | some item => classLoop fuel stack (parts.push item)
      | none =>
        let (span, negated, inner) ← openClass
        classLoop fuel (.bracket parts span negated :: stack) inner
    | some ']' =>
      let (set, stack) := closeOperation stack parts.union
      match stack with
      | .bracket outer span negated :: rest =>
        let _ ← bump
        let span : Span := ⟨span.first, ← place⟩
        if rest.isEmpty then return .bracketed span negated set
        else classLoop fuel rest (outer.push (.bracketed span negated set))
      | _ => unclosedClass stack
    | some _ =>
      match ← operation? with
      | some kind =>
        let (left, stack) := closeOperation stack parts.union
        classLoop fuel (.operation kind left :: stack) { span := ← here }
      | none => classLoop fuel stack (parts.push (← classRange stack))

/-- A class, from its bracket on. -/
def bracketedClass : Reader Pattern := do classLoop (← fuel) [] { span := ← here }

end ChatRules.Regex.Reader
