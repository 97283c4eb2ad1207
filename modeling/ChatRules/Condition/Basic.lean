import ChatRules.Matching
import ChatRules.Reason
import ChatRules.Regex.Basic
import ChatRules.Source.Value

/-!
# Conditions

A condition is a tree. Its leaves test the value of one source; its inner nodes
join conditions or negate one. What could not be understood when the condition
was loaded is kept as it was written.

Models `ReasonSpec` and `ReasonNode` (`SPEC_FULL.md` §2, rule model).

Results:

* `induction`: what passes from the parts to the whole holds of every condition.
* `isBroken_check_iff`: of the leaves, only a search with a refused pattern is
  broken.
-/

namespace ChatRules

/-- A test of the value of a source. -/
inductive Test where
  | termHit (term : String) (mode : MatchMode)
  | anyTerms (terms : List String) (mode : MatchMode)
  | allTerms (terms : List String) (mode : MatchMode)
  | phraseHit (phrase : String)
  | regexHit (pattern flags : String)
  | countInWindow (terms : List String) (window least : Nat) (mode : MatchMode)
  | numberCompare (op : CompareOp) (value : Float)
deriving DecidableEq

/-- The kind of reason that a test comes to. -/
def Test.kind : Test → ReasonKind
  | .termHit _ _ => .termHit
  | .anyTerms _ _ => .anyTerms
  | .allTerms _ _ => .allTerms
  | .phraseHit _ => .phraseHit
  | .regexHit _ _ => .regexHit
  | .countInWindow _ _ _ _ => .countInWindow
  | .numberCompare _ _ => .numberCompare

/-- Why the pattern of a test is refused, if it has one that is. -/
def Test.fault? [Regex.Engine] : Test → Option Regex.CompileError
  | .regexHit pattern flags =>
    match Regex.compile pattern flags with
    | .error e => some e
    | .ok _ => none
  | _ => none

/-- A condition. -/
inductive Condition where
  | check (source : String) (test : Test)
  | and (children : List Condition)
  | or (children : List Condition)
  | not (child : Option Condition)
  /-- What is no condition, as it was written. -/
  | invalid (raw : Json)

namespace Condition

/-- What passes from the parts of a condition to the condition holds of every condition. -/
theorem induction {P : Condition → Prop} (check : ∀ source test, P (.check source test))
    (and : ∀ children, (∀ c ∈ children, P c) → P (.and children))
    (or : ∀ children, (∀ c ∈ children, P c) → P (.or children))
    (not : ∀ child, (∀ c ∈ child, P c) → P (.not child)) (invalid : ∀ raw, P (.invalid raw))
    (c : Condition) : P c :=
  @Condition.rec P (fun children => ∀ c ∈ children, P c) (fun child => ∀ c ∈ child, P c)
    check and or not invalid (by simp) (fun _ _ first rest => List.forall_mem_cons.2 ⟨first, rest⟩)
    (by simp) (by simp) c

/-- The words for the kinds of conditions. -/
def typeNames : List String :=
  ["termHit", "anyTerms", "allTerms", "phraseHit", "regexHit", "countInWindow", "numberCompare",
   "and", "or", "not"]

/-- The type that is written in a value. -/
def writtenType? (raw : Json) : Option String := (raw.field? "type").bind Json.string?

/-- The type of a condition, as far as it has one. -/
def typeName? : Condition → Option String
  | .check _ test => some test.kind.word
  | .and _ => some "and"
  | .or _ => some "or"
  | .not _ => some "not"
  | .invalid raw => writtenType? raw

/-- Whether the node itself cannot be evaluated, whatever is below it. -/
def isBroken [Regex.Engine] : Condition → Bool
  | .check _ test => test.fault?.isSome
  | .invalid _ => true
  | _ => false

theorem isBroken_check_iff [Regex.Engine] (source : String) (test : Test) :
    (check source test).isBroken = true ↔
      ∃ pattern flags e, test = .regexHit pattern flags ∧
        Regex.compile pattern flags = .error e := by
  cases test with
  | regexHit pattern flags =>
    simp only [isBroken, Test.fault?]
    split
    · rename_i e h
      exact ⟨fun _ => ⟨pattern, flags, e, rfl, h⟩, fun _ => rfl⟩
    · rename_i h
      constructor
      · intro h'
        exact absurd h' (by decide)
      · rintro ⟨p, f, e, eq, h'⟩
        cases eq
        rw [h] at h'
        cases h'
  | _ => simp [isBroken, Test.fault?]

end Condition

end ChatRules
