import ChatRules.Text.Property
import ChatRules.Text.Case.Table

/-!
# Sets of characters

A set is described by how it is built. Whether it holds a character is computed
from the description, so complements and case folding cost nothing to build.

Results:

* `has_difference`, `has_symmetricDifference`: the derived operations mean what
  their names say.
-/

namespace ChatRules.Regex

open Text

/-- A set of characters. -/
inductive CharSet where
  | none
  | range (low high : Char)
  | runs (classes : List (List Run))
  | union (left right : CharSet)
  | intersection (left right : CharSet)
  | complement (set : CharSet)
  | folded (set : CharSet)
  | asciiFolded (set : CharSet)

namespace CharSet

/-- The set of every character. -/
def all : CharSet := .complement .none

/-- The set of one character. -/
def single (c : Char) : CharSet := .range c c

/-- The characters of the first set that the second does not hold. -/
def difference (left right : CharSet) : CharSet := .intersection left (.complement right)

/-- The characters of exactly one of the sets. -/
def symmetricDifference (left right : CharSet) : CharSet :=
  difference (.union left right) (.intersection left right)

/-- The union of several sets. -/
def unionAll : List CharSet → CharSet
  | [] => .none
  | [s] => s
  | s :: rest => .union s (unionAll rest)

/-- The set of the characters of several stretches. -/
def ofRanges (ranges : List (Char × Char)) : CharSet :=
  unionAll (ranges.map fun r => .range r.1 r.2)

/-- The characters that equal a character when case is ignored. -/
def orbit (c : Char) : List Char :=
  let root := shift Case.fold c
  let moved := Case.fold.filterMap fun s =>
    let n : Int := root.toNat - s.distance
    if 0 ≤ n && s.run.has n.toNat then some (Char.ofNat n.toNat) else Option.none
  root :: moved

/-- The two cases of an ASCII letter. -/
def asciiOrbit (c : Char) : List Char := [c, c.toLower, c.toUpper]

/-- Whether the set holds a character. -/
def has : CharSet → Char → Bool
  | .none, _ => false
  | .range low high, c => low ≤ c && c ≤ high
  | .runs classes, c => inAny classes c
  | .union left right, c => left.has c || right.has c
  | .intersection left right, c => left.has c && right.has c
  | .complement set, c => !set.has c
  | .folded set, c => (orbit c).any set.has
  | .asciiFolded set, c => (asciiOrbit c).any set.has

theorem has_difference (left right : CharSet) (c : Char) :
    (difference left right).has c = (left.has c && !right.has c) := rfl

theorem has_symmetricDifference (left right : CharSet) (c : Char) :
    (symmetricDifference left right).has c = (left.has c ^^ right.has c) := by
  simp only [symmetricDifference, has_difference, has]
  cases left.has c <;> cases right.has c <;> rfl

end CharSet

end ChatRules.Regex
