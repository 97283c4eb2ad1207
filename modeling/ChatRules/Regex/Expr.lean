import ChatRules.Regex.CharSet

/-!
# Expressions

What a pattern means: characters of sets, conditions on the place, choices in
order of preference, and repetitions. A condition sees the characters on both
sides of the place.
-/

namespace ChatRules.Regex

/-- A condition on a place in a text. -/
inductive Look where
  | textStart | textEnd
  | lineStart (crlf : Bool) | lineEnd (crlf : Bool)
  | boundary (word : CharSet) | notBoundary (word : CharSet)
  | wordStart (word : CharSet) | wordEnd (word : CharSet)
  | noWordBefore (word : CharSet) | noWordAfter (word : CharSet)

/-- Whether a neighbour is a word character. -/
def isWord (word : CharSet) (c? : Option Char) : Bool := c?.any word.has

/-- Whether a condition holds between two characters, either of which may be missing. -/
def Look.holds (before after : Option Char) : Look → Bool
  | .textStart => before.isNone
  | .textEnd => after.isNone
  | .lineStart false => before.all (· == '\n')
  | .lineStart true =>
    before.all fun c => c == '\n' || (c == '\r' && after != some '\n')
  | .lineEnd false => after.all (· == '\n')
  | .lineEnd true =>
    after.all fun c => c == '\r' || (c == '\n' && before != some '\r')
  | .boundary word => isWord word before != isWord word after
  | .notBoundary word => isWord word before == isWord word after
  | .wordStart word => !isWord word before && isWord word after
  | .wordEnd word => isWord word before && !isWord word after
  | .noWordBefore word => !isWord word before
  | .noWordAfter word => !isWord word after

/-- The meaning of a pattern. -/
inductive Expr where
  | empty
  | one (set : CharSet)
  | look (kind : Look)
  | seq (first second : Expr)
  | alt (first second : Expr)
  | loop (least : Nat) (most : Option Nat) (greedy : Bool) (body : Expr)

namespace Expr

/-- Expressions one after the other. -/
def seqAll : List Expr → Expr
  | [] => .empty
  | [e] => e
  | e :: rest => .seq e (seqAll rest)

/-- Expressions of which earlier ones are preferred. -/
def altAll : List Expr → Expr
  | [] => .empty
  | [e] => e
  | e :: rest => .alt e (altAll rest)

/-- Whether the expression can match the empty text. -/
def nullable : Expr → Bool
  | .empty | .look _ => true
  | .one _ => false
  | .seq a b => a.nullable && b.nullable
  | .alt a b => a.nullable || b.nullable
  | .loop least _ _ body => least == 0 || body.nullable

end Expr

end ChatRules.Regex
