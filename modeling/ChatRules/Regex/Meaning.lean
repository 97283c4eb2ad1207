import ChatRules.Regex.Expr
import ChatRules.Regex.Property

/-!
# The meaning of patterns

Flags are resolved here: whether case is ignored, where lines begin and end,
which repetitions are greedy, and whether classes hold Unicode characters. A
flag that is set inside a group holds until the group ends, also in the
alternatives that follow.
-/

namespace ChatRules.Regex

/-- The flags that bear on the meaning of a pattern. -/
structure Flags where
  ignoreCase : Bool := false
  multiLine : Bool := false
  dotAll : Bool := false
  swapGreed : Bool := false
  unicode : Bool := true
  crlf : Bool := false
deriving DecidableEq, Repr

/-- The flags after a list of flags. -/
def Flags.apply (items : List FlagItem) (f : Flags) : Flags :=
  let state (letter : Char) (old : Bool) : Bool := (flagState letter true items).getD old
  { ignoreCase := state 'i' f.ignoreCase
    multiLine := state 'm' f.multiLine
    dotAll := state 's' f.dotAll
    swapGreed := state 'U' f.swapGreed
    unicode := state 'u' f.unicode
    crlf := state 'R' f.crlf }

namespace Flags

/-- Fails at a stretch. -/
def refuse {α : Type} (kind : ErrorKind) (span : Span) : Except Error α :=
  .error { kind, span }

/-- The word characters. -/
def word (f : Flags) : CharSet := .ofLetterClass f.unicode .word

/-- A set, closed under case if case is ignored. -/
def fold (f : Flags) (set : CharSet) : CharSet :=
  if !f.ignoreCase then set else if f.unicode then .folded set else .asciiFolded set

/-- A set, negated where asked. Without Unicode a set must not leave ASCII, and a negated
    one does. -/
def negate (f : Flags) (span : Span) (negated : Bool) (set : CharSet) : Except Error CharSet :=
  if negated then
    if f.unicode then .ok (.complement set) else refuse .invalidUtf8 span
  else .ok set

/-- A literal character. Without Unicode, a byte beyond ASCII is no text, and case is
    known for ASCII only. -/
def literal (f : Flags) (span : Span) (c : Char) (isByte : Bool) : Except Error Expr :=
  let isAscii := c.toNat < 128
  if f.unicode || isAscii then .ok (.one (f.fold (.single c)))
  else if isByte then refuse .invalidUtf8 span
  else if f.ignoreCase then refuse .unicodeNotAllowed span
  else .ok (.one (.single c))

/-- Any character, with or without line breaks. -/
def dot (f : Flags) (span : Span) : Except Error Expr :=
  if !f.unicode then refuse .invalidUtf8 span
  else if f.dotAll then .ok (.one .all)
  else if f.crlf then .ok (.one (.complement (.ofRanges [('\n', '\n'), ('\r', '\r')])))
  else .ok (.one (.complement (.single '\n')))

/-- A condition on the place. -/
def assertion (f : Flags) : Assertion → Look
  | .lineStart => if f.multiLine then .lineStart f.crlf else .textStart
  | .lineEnd => if f.multiLine then .lineEnd f.crlf else .textEnd
  | .textStart => .textStart
  | .textEnd => .textEnd
  | .wordBoundary => .boundary f.word
  | .notWordBoundary => .notBoundary f.word
  | .wordStart => .wordStart f.word
  | .wordEnd => .wordEnd f.word
  | .wordStartHalf => .noWordBefore f.word
  | .wordEndHalf => .noWordAfter f.word

/-- A class with a letter of its own. -/
def letterClass (f : Flags) (span : Span) (kind : LetterClass) (negated : Bool) :
    Except Error CharSet :=
  f.negate span negated (.ofLetterClass f.unicode kind)

/-- A class by its Unicode property. -/
def property (f : Flags) (span : Span) (name : PropertyName) (negated : Bool) :
    Except Error CharSet := do
  if !f.unicode then refuse .unicodeNotAllowed span
  match name.set with
  | .error kind => refuse kind span
  | .ok (set, negatedByName) => f.negate span (negated != negatedByName) (f.fold set)

/-- Characters of a class. Without Unicode they have to be ASCII. -/
def members (f : Flags) (span : Span) (low high : Char) : Except Error CharSet :=
  if f.unicode || high.toNat < 128 then .ok (.range low high)
  else refuse .unicodeNotAllowed span

/-- An operation on the parts of a class. -/
def combine (f : Flags) (kind : SetOp) (left right : CharSet) : CharSet :=
  match kind with
  | .intersection => .intersection (f.fold left) (f.fold right)
  | .difference => .difference (f.fold left) (f.fold right)
  | .symmetricDifference => .symmetricDifference (f.fold left) (f.fold right)

end Flags

mutual

/-- The set of a class. -/
def ClassPattern.set (f : Flags) : ClassPattern → Except Error CharSet
  | .empty _ => .ok .none
  | .literal span c => f.members span c c
  | .range span low high => f.members span low high
  | .ascii span name negated => f.negate span negated (f.fold (.ofAsciiName name))
  | .letterClass span kind negated => f.letterClass span kind negated
  | .property span name negated => f.property span name negated
  | .bracketed span negated set => do f.negate span negated (f.fold (← set.set f))
  | .union _ items => do return .unionAll (← ClassPattern.sets f items)
  | .op _ kind left right => do
    let left ← left.set f
    let right ← right.set f
    return f.combine kind left right

/-- The sets of several classes. -/
def ClassPattern.sets (f : Flags) : List ClassPattern → Except Error (List CharSet)
  | [] => .ok []
  | item :: rest => do
    let set ← item.set f
    return set :: (← ClassPattern.sets f rest)

end

mutual

/-- The meaning of a pattern, and the flags after it. -/
def Pattern.expr (f : Flags) : Pattern → Except Error (Expr × Flags)
  | .empty _ => .ok (.empty, f)
  | .flags _ items => .ok (.empty, f.apply items)
  | .literal span c isByte => do return (← f.literal span c isByte, f)
  | .dot span => do return (← f.dot span, f)
  | .assertion _ kind => .ok (.look (f.assertion kind), f)
  | .letterClass span kind negated => do return (.one (← f.letterClass span kind negated), f)
  | .property span name negated => do return (.one (← f.property span name negated), f)
  | .bracketed span negated set => do
    return (.one (← f.negate span negated (f.fold (← set.set f))), f)
  | .repetition _ least most greedy inner => do
    let (e, f) ← inner.expr f
    return (.loop least most (greedy != f.swapGreed) e, f)
  | .group _ items inner => do
    let (e, _) ← inner.expr (f.apply items)
    return (e, f)
  | .alternation _ parts => do
    let (es, f) ← Pattern.exprs f parts
    return (.altAll es, f)
  | .concat _ parts => do
    let (es, f) ← Pattern.exprs f parts
    return (.seqAll es, f)

/-- The meanings of several patterns, each with the flags that those before it left. -/
def Pattern.exprs (f : Flags) : List Pattern → Except Error (List Expr × Flags)
  | [] => .ok ([], f)
  | p :: rest => do
    let (e, f) ← p.expr f
    let (es, f) ← Pattern.exprs f rest
    return (e :: es, f)

end

end ChatRules.Regex
