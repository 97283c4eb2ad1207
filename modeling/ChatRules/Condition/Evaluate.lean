import ChatRules.Condition.Basic
import ChatRules.Source.Registry

/-!
# Evaluating conditions

A test reads its source and comes to a reason that records what matched. Where
there is no value the test runs on an empty text, or an empty list, and the
reason says that the value was missing. The parts of a node are all evaluated,
from left to right, whatever they come to.

Models the reason library, from `term_hit` to `number_compare`, and `compile_reason`
(`SPEC_FULL.md` §2.2, §2.3).

Results:

* `judge_kind`: the reason of a test whose pattern is accepted has the kind of the
  test.
-/

namespace ChatRules

/-- The detail of a value that is missing. -/
def missingDetail (value? : Option SourceValue) : List (String × Json) :=
  if value?.isNone then [("missing", .bool true)] else []

/-- The place where something was found; -1 where it was not. -/
def indexJson (index? : Option Nat) : Json :=
  .number (.int (match index? with | some i => i | none => -1))

/-- The items among the last `window` ones that have one of the terms, by their places. -/
def hitsInWindow (items terms : List String) (window : Nat) (mode : MatchMode) : List Nat :=
  let start := items.length - window
  (items.zipIdx.drop start).filterMap fun (item, i) =>
    if terms.any fun t => hasTerm item t mode then some i else none

namespace Test

variable [Regex.Engine]

/-- What a test comes to on the value of its source. -/
def judge (source : String) (value? : Option SourceValue) (test : Test) : Reason :=
  let text := (value?.map SourceValue.asText).getD ""
  let leaf (ok : Bool) (details : List (String × Json)) : Reason :=
    .leaf test.kind ok (("source", .string source) :: details)
  let soft (ok : Bool) (details : List (String × Json)) : Reason :=
    leaf ok (details ++ missingDetail value?)
  match test with
  | .termHit term mode =>
    let index? := findTerm? text term mode
    soft index?.isSome
      [("term", .string term), ("mode", .string mode.name), ("index", indexJson index?)]
  | .anyTerms terms mode =>
    let matched := terms.filter fun t => hasTerm text t mode
    soft (!matched.isEmpty)
      [("mode", .string mode.name), ("terms", .ofStrings terms), ("matched", .ofStrings matched)]
  | .allTerms terms mode =>
    let matched := terms.filter fun t => hasTerm text t mode
    let unmatched := terms.filter fun t => !hasTerm text t mode
    soft (!terms.isEmpty && unmatched.isEmpty)
      [("mode", .string mode.name), ("matched", .ofStrings matched),
        ("unmatched", .ofStrings unmatched)]
  | .phraseHit phrase =>
    let index? := if phrase.isEmpty then none else Text.find? text phrase
    soft index?.isSome [("phrase", .string phrase), ("index", indexJson index?)]
  | .regexHit pattern flags =>
    let authored := [("pattern", Json.string pattern), ("flags", Json.string flags)]
    match Regex.compile pattern flags with
    | .error e => .leaf .error false
        (("error", .string e.message) :: ("source", .string source) :: authored)
    | .ok regex =>
      match regex.find? text with
      | some m =>
        soft true (authored ++ [("match", .string m.text), ("index", .ofNat m.index)])
      | none => soft false authored
  | .countInWindow terms window least mode =>
    let items := (value?.map SourceValue.asList).getD []
    let hits := hitsInWindow items terms window mode
    soft (decide (least ≤ hits.length))
      [("mode", .string mode.name), ("window", .ofNat window), ("min", .ofNat least),
        ("considered", .ofNat (min items.length window)), ("count", .ofNat hits.length),
        ("hits", .array (hits.map .ofNat))]
  | .numberCompare op value =>
    let actual? := value?.bind SourceValue.asNumber?
    leaf (actual?.any fun a => op.holds a value)
      [("op", .string op.sign), ("value", .ofFloat value),
        ("actual", Json.ofOption .ofFloat actual?)]

/-- Reads the source and judges its value. A test with a refused pattern reads nothing. -/
def evaluate (read : String → Traced (Option SourceValue)) (source : String) (test : Test) :
    Traced Reason :=
  if test.fault?.isSome then return test.judge source none
  else return test.judge source (← read source)

end Test

namespace Reason

/-- The reason of a conjunction: every part passes. -/
def conjunction (children : List Reason) : Reason :=
  .mk .and (children.all ok) [("count", .ofNat children.length)] children none

/-- The reason of a disjunction: some part passes. -/
def disjunction (children : List Reason) : Reason :=
  .mk .or (children.any ok) [("count", .ofNat children.length)] children none

/-- The reason of a negation: its part does not pass. Without a part it passes. -/
def negation (child : Option Reason) : Reason :=
  .mk .not (!(child.any ok))
    (if child.isNone then [("missingChild", .bool true)] else []) [] child

/-- The reason of what is no condition. -/
def ofInvalid (raw : Json) : Reason :=
  match Condition.writtenType? raw with
  | some t =>
    let message :=
      if Condition.typeNames.contains t then "malformed " ++ t ++ " condition"
      else "unknown reason type: " ++ t
    (error message).withDetail "type" (.string t)
  | none =>
    if raw.isObject then error "condition has no type"
    else error ("condition is not an object: " ++ raw.compact)

end Reason

namespace Condition

variable [Regex.Engine]

mutual

/-- Evaluates a condition. -/
def evaluate (read : String → Traced (Option SourceValue)) : Condition → Traced Reason
  | .check source test => test.evaluate read source
  | .and children => do return .conjunction (← evaluateAll read children)
  | .or children => do return .disjunction (← evaluateAll read children)
  | .not child => do return .negation (← evaluateOption read child)
  | .invalid raw => return .ofInvalid raw

/-- Evaluates conditions from left to right. -/
def evaluateAll (read : String → Traced (Option SourceValue)) :
    List Condition → Traced (List Reason)
  | [] => return []
  | c :: rest => do
    let r ← c.evaluate read
    return r :: (← evaluateAll read rest)

/-- Evaluates a condition that may be absent. -/
def evaluateOption (read : String → Traced (Option SourceValue)) :
    Option Condition → Traced (Option Reason)
  | none => return none
  | some c => do return some (← c.evaluate read)

end

end Condition

theorem Test.judge_kind [Regex.Engine] {test : Test} (h : test.fault? = none) (source : String)
    (value? : Option SourceValue) : (test.judge source value?).kind = test.kind := by
  cases test with
  | regexHit pattern flags =>
    simp only [Test.fault?] at h
    simp only [Test.judge]
    split
    · rename_i h'
      simp [h'] at h
    · split <;> rfl
  | _ => rfl

end ChatRules
