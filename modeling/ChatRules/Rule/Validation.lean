import ChatRules.Path
import ChatRules.Rule.Basic
import ChatRules.Text.Quoted

/-!
# Validating rules

Validation looks at rules without running them and lists everything that is
wrong (errors) or suspicious (warnings), each with a code and the place in the
rule.

Models `validate_rule` and `validate_rules` (`SPEC_FULL.md` §2.4).
-/

namespace ChatRules

/-- Whether an issue makes a rule invalid. -/
inductive Severity where
  | error | warning
deriving DecidableEq, Repr

/-- The word for a severity. -/
def Severity.word : Severity → String
  | .error => "error"
  | .warning => "warning"

/-- An issue: its code, its place and a sentence. -/
structure Issue where
  severity : Severity
  code : String
  ruleId : String
  path : String
  message : String
deriving DecidableEq, Repr

namespace Issue

/-- The issue on a line. -/
def text (i : Issue) : String :=
  let mark := match i.severity with
    | .error => "✗"
    | .warning => "⚠"
  let rule := if i.ruleId.isEmpty then "<no id>" else i.ruleId
  mark ++ " [" ++ i.code ++ "] " ++ rule ++ " at " ++ i.path ++ ": " ++ i.message

/-- The issue as an object. -/
def toJson (i : Issue) : Json :=
  .object [("severity", .string i.severity.word), ("code", .string i.code),
    ("ruleId", .string i.ruleId), ("path", .string i.path), ("message", .string i.message)]

end Issue

/-- What validation finds in a rule, before the rule is named. -/
structure Finding where
  severity : Severity
  code : String
  path : String
  message : String
deriving DecidableEq, Repr

namespace Finding

/-- An error. -/
def error (code path message : String) : Finding := ⟨.error, code, path, message⟩

/-- A warning. -/
def warning (code path message : String) : Finding := ⟨.warning, code, path, message⟩

@[simp] theorem code_error (code path message : String) :
    (error code path message).code = code := rfl

@[simp] theorem path_error (code path message : String) :
    (error code path message).path = path := rfl

@[simp] theorem code_warning (code path message : String) :
    (warning code path message).code = code := rfl

/-- The issue of a rule. -/
def toIssue (ruleId : String) (f : Finding) : Issue :=
  ⟨f.severity, f.code, ruleId, f.path, f.message⟩

end Finding

/-! ## Conditions -/

namespace Test

variable [Regex.Engine]

/-- What is suspicious about a term: it is blank, or several words where one token is
    wanted. -/
def termFindings (path term : String) (mode : MatchMode) : List Finding :=
  if Text.isAllBlank term then [.warning "W007" path "empty term never matches"]
  else if mode = .word && 1 < (Text.words term).length then
    [.warning "W003" path ("'" ++ term ++ "' has several words but mode is 'word'")]
  else []

/-- What is suspicious about a list of terms. -/
def termsFindings (path : String) (terms : List String) (mode : MatchMode) : List Finding :=
  terms.zipIdx.flatMap fun (term, i) =>
    termFindings (path ++ ".terms[" ++ toString i ++ "]") term mode

/-- What is wrong or suspicious about a test. -/
def findings (path : String) (test : Test) : List Finding :=
  match test with
  | .termHit term mode => termFindings (path ++ ".term") term mode
  | .anyTerms terms mode => termsFindings path terms mode
  | .allTerms terms mode =>
    (if terms.isEmpty then
      [.warning "W008" (path ++ ".terms") "allTerms with no terms never passes"]
    else []) ++ termsFindings path terms mode
  | .phraseHit phrase =>
    if phrase.isEmpty then [.warning "W007" (path ++ ".phrase") "empty phrase never matches"]
    else []
  | .regexHit _ _ =>
    match test.fault? with
    | some e => [.error "E007" (path ++ ".pattern") e.message]
    | none => []
  | .countInWindow terms window least mode =>
    (if window = 0 then
      [.warning "W006" (path ++ ".window") "window of 0 never counts anything"]
    else if window < least then
      [.warning "W004" (path ++ ".min") ("min " ++ toString least ++ " exceeds window " ++
        toString window ++ "; never satisfiable")]
    else []) ++ termsFindings path terms mode
  | .numberCompare _ _ => []

end Test

namespace Condition

variable [Regex.Engine]

/-- What a field of a condition has to be. -/
inductive FieldForm where
  | text | texts | number
deriving DecidableEq, Repr

/-- Whether a value has a form. -/
def FieldForm.accepts : FieldForm → Json → Bool
  | .text, .string _ => true
  | .texts, .array items => items.all fun j => j.string?.isSome
  | .number, .number _ => true
  | _, _ => false

/-- The sentence for a value that has not the form. -/
def FieldForm.demand (name : String) : FieldForm → String
  | .text => "'" ++ name ++ "' must be a string"
  | .texts => "'" ++ name ++ "' must be an array of strings"
  | .number => "'" ++ name ++ "' must be a number"

/-- The fields that a type of condition cannot do without. -/
def requiredFields (type : String) : List (String × FieldForm) :=
  match type with
  | "termHit" => [("source", .text), ("term", .text)]
  | "anyTerms" | "allTerms" | "countInWindow" => [("source", .text), ("terms", .texts)]
  | "phraseHit" => [("source", .text), ("phrase", .text)]
  | "regexHit" => [("source", .text), ("pattern", .text)]
  | "numberCompare" => [("source", .text), ("value", .number)]
  | _ => []

/-- What is wrong with a field of a condition of a known type. -/
def fieldFinding? (raw : Json) (path type : String) (field : String × FieldForm) :
    Option Finding :=
  let complain (message : String) : Finding := .error "E004" (path ++ "." ++ field.1) message
  match raw.field? field.1 with
  | none => some (complain (type ++ " requires '" ++ field.1 ++ "'"))
  | some j => if field.2.accepts j then none else some (complain (field.2.demand field.1))

/-- What is wrong with a value that is no condition. -/
def invalidFindings (path : String) (raw : Json) : List Finding :=
  match raw.field? "type" with
  | none => [.error "E003" path "condition has no type"]
  | some (.string type) =>
    if typeNames.contains type then
      match (requiredFields type).filterMap (fieldFinding? raw path type) with
      | [] => [.error "E004" path ("malformed " ++ type ++ " condition")]
      | found => found
    else [.error "E003" (path ++ ".type") ("unknown reason type: " ++ type)]
  | some other => [.error "E003" (path ++ ".type") ("type must be a string, got " ++ other.compact)]

mutual

/-- What is wrong or suspicious about a condition. -/
def findings (path : String) : Condition → List Finding
  | .check _ test => test.findings path
  | .and children | .or children => childrenFindings path 0 children
  | .not none => [.warning "W009" path "not without a child always passes"]
  | .not (some c) => c.findings (path ++ ".child")
  | .invalid raw => invalidFindings path raw

/-- What is wrong or suspicious about the parts of a condition, counted from `i`. -/
def childrenFindings (path : String) (i : Nat) : List Condition → List Finding
  | [] => []
  | c :: rest =>
    c.findings (path ++ ".children[" ++ toString i ++ "]") ++ childrenFindings path (i + 1) rest

end

end Condition

/-! ## Rules -/

namespace Rule

variable [Regex.Engine]

/-- Findings about the condition. -/
def conditionFindings (r : Rule) : List Finding :=
  match r.condition with
  | some c => c.findings "when"
  | none => [.error "E002" "when" "rule has no condition"]

/-- Findings about the name, the priority and the condition. -/
def headFindings (r : Rule) : List Finding :=
  (if Text.isAllBlank r.id then [.error "E001" "id" "rule id is required"] else []) ++
    (if r.priority.isValid then []
    else [.error "E005" "priority" "priority must be a number"]) ++ r.conditionFindings

/-- Findings about the targets. -/
def targetFindings (r : Rule) : List Finding :=
  r.targets.zipIdx.flatMap fun (target, i) =>
    if Path.isWellFormed target then []
    else [.error "E009" ("targets[" ++ toString i ++ "]")
      ("malformed target path " ++ Text.quoted target)]

/-- Findings about a path that is written, named in the rule at `place`. -/
def pathFindings (r : Rule) (place kind path : String) : List Finding :=
  if !Path.isWellFormed path then
    [.error "E009" place ("malformed " ++ kind ++ " path " ++ Text.quoted path)]
  else if r.targets.contains path then []
  else [.warning "W001" place ("'" ++ path ++ "' is not declared in targets")]

/-- Findings about the effects. -/
def effectFindings (r : Rule) : List Finding :=
  match r.effects with
  | none => []
  | some [] => [.warning "W002" "effects" "effects object is empty"]
  | some es => es.flatMap fun e => r.pathFindings ("effects." ++ e.1) "effect" e.1

/-- Findings about the write. -/
def writeFindings (r : Rule) : List Finding :=
  match r.write with
  | none => if r.effects.isNone then
      [.warning "W005" "" "rule has no effects or write; firing changes nothing"] else []
  | some w =>
    match w.path with
    | some path => r.pathFindings "write.path" "write" path
    | none =>
      if w.targetId.isNone then [.error "E008" "write" "write needs a path or targetId"] else []

/-- All findings about a rule, in the order of its parts. -/
def findings (r : Rule) : List Finding :=
  r.headFindings ++ r.targetFindings ++ r.effectFindings ++ r.writeFindings

end Rule

/-- The issues of a rule, or of several. -/
structure IssueList where
  errors : List Issue := []
  warnings : List Issue := []
deriving DecidableEq, Repr

namespace IssueList

/-- Issues divided into errors and warnings. -/
def ofIssues (issues : List Issue) : IssueList :=
  ⟨issues.filter (·.severity == .error), issues.filter (·.severity == .warning)⟩

/-- The issues of both. -/
def append (a b : IssueList) : IssueList := ⟨a.errors ++ b.errors, a.warnings ++ b.warnings⟩

/-- Whether there are no errors. -/
def isValid (l : IssueList) : Bool := l.errors.isEmpty

/-- All issues, the errors first. -/
def all (l : IssueList) : List Issue := l.errors ++ l.warnings

/-- Whether there is an issue with a code. -/
def hasCode (l : IssueList) (code : String) : Bool := l.all.any (·.code == code)

/-- The issues as the fields of an object. -/
def fields (l : IssueList) : List (String × Json) :=
  [("errors", .array (l.errors.map Issue.toJson)),
    ("warnings", .array (l.warnings.map Issue.toJson))]

/-- The issues as an object. -/
def toJson (l : IssueList) : Json := .object l.fields

end IssueList

/-- The issues of a rule on its own. -/
def Rule.validate [Regex.Engine] (r : Rule) : IssueList :=
  .ofIssues (r.findings.map (Finding.toIssue r.id))

/-! ## Sets of rules -/

/-- The issues of a set: all of them, and those of each rule. -/
structure SetIssues where
  all : IssueList := {}
  byRule : List (String × IssueList) := []
deriving DecidableEq, Repr

namespace SetIssues

variable [Regex.Engine]

/-- The place of the first rule with a name, among the rules before a place. -/
def firstIndex? (ids : List String) (id : String) : Option Nat := ids.findIdx? (· == id)

/-- The issues of a rule among the rules before it. -/
def ofRule (before : List String) (r : Rule) : IssueList :=
  let issues := r.findings.map (Finding.toIssue r.id)
  let duplicate :=
    if Text.isAllBlank r.id then []
    else
      match firstIndex? before r.id with
      | some first => [Finding.toIssue r.id (.error "E006" "id"
          ("duplicate rule id (first defined at index " ++ toString first ++ ")"))]
      | none => []
  .ofIssues (issues ++ duplicate)

/-- The name under which the issues of a rule are listed. -/
def ruleKey (index : Nat) (r : Rule) : String :=
  if Text.isAllBlank r.id then "#" ++ toString index else r.id

/-- The issues of the rules that follow those with the names `before`. -/
def collect (before : List String) (s : SetIssues) : List Rule → SetIssues
  | [] => s
  | r :: rest =>
    let issues := ofRule before r
    let key := ruleKey before.length r
    let listed := ((Dict.find? key s.byRule).getD {}).append issues
    collect (before ++ [r.id]) ⟨s.all.append issues, Dict.insert key listed s.byRule⟩ rest

/-- The issues of a list of rules. -/
def ofRules (rules : List Rule) : SetIssues := collect [] {} rules

/-- Whether no rule has an error. -/
def isValid (s : SetIssues) : Bool := s.all.isValid

/-- The issues as an object. -/
def toJson (s : SetIssues) : Json :=
  .object (s.all.fields ++ [("byRule", .object (s.byRule.map fun e => (e.1, e.2.toJson)))])

/-- The issues as a text, under a name for the set. -/
def report (name : String) (s : SetIssues) : String :=
  let errors := toString s.all.errors.length
  let warnings := toString s.all.warnings.length
  let issues := String.join ((s.all.errors ++ s.all.warnings).map fun i => "\n" ++ i.text)
  if s.all.errors.isEmpty && s.all.warnings.isEmpty then
    "✓ " ++ name ++ ": valid (no issues found)"
  else if s.isValid then "✓ " ++ name ++ ": " ++ warnings ++ " warning(s)\n" ++ issues
  else "✗ " ++ name ++ ": " ++ errors ++ " error(s), " ++ warnings ++ " warning(s)\n" ++ issues

end SetIssues

/-- The issues of a set of rules. -/
def RuleSet.validate [Regex.Engine] (s : RuleSet) : SetIssues := .ofRules s.rules

end ChatRules
