import ChatRules.Regex.Error

/-!
# Patterns

The structure of a pattern, before flags and classes are given their meaning.
Parts that a later stage can refuse keep the stretch where they stand.
-/

namespace ChatRules.Regex

/-- An item of a list of flags. -/
inductive FlagItem where
  | negation
  | flag (letter : Char)
deriving DecidableEq, Repr

/-- What a list of flags says about one of them: set, unset, or nothing. -/
def flagState (letter : Char) : Bool → List FlagItem → Option Bool
  | _, [] => none
  | _, .negation :: rest => flagState letter false rest
  | on, .flag l :: rest => if l = letter then some on else flagState letter on rest

/-- The places that an assertion can ask for. -/
inductive Assertion where
  | lineStart | lineEnd | textStart | textEnd
  | wordBoundary | notWordBoundary | wordStart | wordEnd | wordStartHalf | wordEndHalf
deriving DecidableEq, Repr

/-- The classes with a letter of their own. -/
inductive LetterClass where
  | digit | space | word
deriving DecidableEq, Repr

/-- How a Unicode class is named. -/
inductive PropertyName where
  | letter (c : Char)
  | name (s : String)
  | value (negated : Bool) (name value : String)
deriving DecidableEq, Repr

/-- The operations between the parts of a class. -/
inductive SetOp where
  | intersection | difference | symmetricDifference
deriving DecidableEq, Repr

/-- A class of characters, as it is written. -/
inductive ClassPattern where
  | empty (span : Span)
  | literal (span : Span) (c : Char)
  | range (span : Span) (low high : Char)
  | ascii (span : Span) (name : String) (negated : Bool)
  | letterClass (span : Span) (kind : LetterClass) (negated : Bool)
  | property (span : Span) (name : PropertyName) (negated : Bool)
  | bracketed (span : Span) (negated : Bool) (set : ClassPattern)
  | union (span : Span) (items : List ClassPattern)
  | op (span : Span) (kind : SetOp) (left right : ClassPattern)

/-- The stretch of a class. -/
def ClassPattern.span : ClassPattern → Span
  | .empty s | .literal s _ | .range s _ _ | .ascii s _ _ | .letterClass s _ _
  | .property s _ _ | .bracketed s _ _ | .union s _ | .op s _ _ _ => s

/-- A pattern, as it is written. -/
inductive Pattern where
  | empty (span : Span)
  | flags (span : Span) (items : List FlagItem)
  | literal (span : Span) (c : Char) (isByte : Bool)
  | dot (span : Span)
  | assertion (span : Span) (kind : Assertion)
  | letterClass (span : Span) (kind : LetterClass) (negated : Bool)
  | property (span : Span) (name : PropertyName) (negated : Bool)
  | bracketed (span : Span) (negated : Bool) (set : ClassPattern)
  | repetition (span : Span) (least : Nat) (most : Option Nat) (greedy : Bool) (inner : Pattern)
  | group (span : Span) (flags : List FlagItem) (inner : Pattern)
  | alternation (span : Span) (parts : List Pattern)
  | concat (span : Span) (parts : List Pattern)

namespace Pattern

/-- The stretch of a pattern. -/
def span : Pattern → Span
  | .empty s | .flags s _ | .literal s _ _ | .dot s | .assertion s _ | .letterClass s _ _
  | .property s _ _ | .bracketed s _ _ | .repetition s _ _ _ _ | .group s _ _
  | .alternation s _ | .concat s _ => s

/-- Patterns one after the other; one alone stands for itself. -/
def ofParts (span : Span) : List Pattern → Pattern
  | [] => .empty span
  | [s] => s
  | parts => .concat span parts

end Pattern

/-! ## Nesting -/

mutual

/-- The first part of a class that is nested more than `depth` deep. -/
def ClassPattern.tooDeep? (depth : Nat) : ClassPattern → Option Span
  | .bracketed s _ set =>
    match depth with
    | 0 => some s
    | depth + 1 => set.tooDeep? depth
  | .union s items =>
    match depth with
    | 0 => some s
    | depth + 1 => ClassPattern.anyTooDeep? depth items
  | .op s _ left right =>
    match depth with
    | 0 => some s
    | depth + 1 => (left.tooDeep? depth).or (right.tooDeep? depth)
  | _ => none

/-- The first of several parts that is nested too deep. -/
def ClassPattern.anyTooDeep? (depth : Nat) : List ClassPattern → Option Span
  | [] => none
  | s :: rest => (s.tooDeep? depth).or (ClassPattern.anyTooDeep? depth rest)

end

mutual

/-- The first part of a pattern that is nested more than `depth` deep. -/
def Pattern.tooDeep? (depth : Nat) : Pattern → Option Span
  | .bracketed s _ set =>
    match depth with
    | 0 => some s
    | depth + 1 => set.tooDeep? depth
  | .repetition s _ _ _ inner | .group s _ inner =>
    match depth with
    | 0 => some s
    | depth + 1 => inner.tooDeep? depth
  | .alternation s parts | .concat s parts =>
    match depth with
    | 0 => some s
    | depth + 1 => Pattern.anyTooDeep? depth parts
  | _ => none

/-- The first of several parts that is nested too deep. -/
def Pattern.anyTooDeep? (depth : Nat) : List Pattern → Option Span
  | [] => none
  | s :: rest => (s.tooDeep? depth).or (Pattern.anyTooDeep? depth rest)

end

end ChatRules.Regex
