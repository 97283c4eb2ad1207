import ChatRules.Config.Encoding
import ChatRules.Rule.Validation
import ChatRules.Storage

/-!
# Checking configurations

What is wrong or suspicious about a configuration file, each with a code and the
key that it concerns. A file that cannot be read or does not decode has a single
issue.

Models `validate_config` (`SPEC_FULL.md` §3.3).

Results:

* `Config.issues_eq_nil_iff`: what a configuration without issues is.
-/

namespace ChatRules

/-- An issue of a configuration. -/
structure ConfigIssue where
  severity : Severity
  code : String
  key : String
  message : String
deriving DecidableEq, Repr

namespace ConfigIssue

/-- An error. -/
def error (code key message : String) : ConfigIssue := ⟨.error, code, key, message⟩

/-- A warning. -/
def warning (code key message : String) : ConfigIssue := ⟨.warning, code, key, message⟩

/-- The issue on a line. -/
def text (i : ConfigIssue) : String :=
  let mark := match i.severity with
    | .error => "✗"
    | .warning => "⚠"
  let place := if i.key.isEmpty then "" else i.key ++ ": "
  mark ++ " [" ++ i.code ++ "] " ++ place ++ i.message

/-- The issue as an object. -/
def toJson (i : ConfigIssue) : Json :=
  .object [("severity", .string i.severity.word), ("code", .string i.code),
    ("key", .string i.key), ("message", .string i.message)]

end ConfigIssue

namespace Config

/-- Issues of the allowlists: sources that are neither standard nor derived. -/
def allowlistIssues (c : Config) : List ConfigIssue :=
  c.allowlists.flatMap fun (moduleId, ids) =>
    (ids.filter fun id =>
      !Dict.has id Registry.standard.sources && !Path.startsWith id derivedStart).map fun id =>
        .error "E005" ("allowlists." ++ moduleId) ("unknown source '" ++ id ++ "'")

/-- Issues of the names of targets: paths that may not be written to. -/
def aliasIssues (c : Config) : List ConfigIssue :=
  (c.aliases.filter fun e => !c.allowedTargets.contains e.2).map fun (name, path) =>
    .warning "W002" ("target_aliases." ++ name)
      ("points at " ++ path ++ ", which is not in allowed_targets")

/-- All issues of a configuration. -/
def issues (c : Config) : List ConfigIssue :=
  (if c.version = currentVersion then []
    else [.error "E004" "version" ("unsupported version " ++ toString c.version ++
      " (expected " ++ toString currentVersion ++ ")")]) ++
  c.allowlistIssues ++
  (if c.allowedTargets.isEmpty then
    [.warning "W001" "allowed_targets" "empty; every progressive write will be blocked"]
    else []) ++
  c.aliasIssues ++
  (if c.historyWindow = 0 then
    [.warning "W003" "history_window" "0 means history conditions never match"] else []) ++
  (c.lists.filter fun e => e.2.isEmpty).map fun e =>
    .warning "W004" ("lists." ++ e.1) "list is empty"

/-- A configuration has no issues exactly if it has the current version, its allowlists name
    known sources, it has targets, each name of a target leads to one of them, its window
    is not empty, and neither is any list. -/
theorem issues_eq_nil_iff (c : Config) :
    c.issues = [] ↔
      c.version = currentVersion ∧
        (∀ e ∈ c.allowlists, ∀ id ∈ e.2,
          Dict.has id Registry.standard.sources ∨ Path.startsWith id derivedStart) ∧
        c.allowedTargets ≠ [] ∧ (∀ e ∈ c.aliases, e.2 ∈ c.allowedTargets) ∧
        c.historyWindow ≠ 0 ∧ ∀ e ∈ c.lists, e.2 ≠ [] := by
  have allowlists : c.allowlistIssues = [] ↔
      ∀ e ∈ c.allowlists, ∀ id ∈ e.2,
        Dict.has id Registry.standard.sources ∨ Path.startsWith id derivedStart := by
    simp [allowlistIssues, Decidable.or_iff_not_imp_left]
  have aliases : c.aliasIssues = [] ↔ ∀ e ∈ c.aliases, e.2 ∈ c.allowedTargets := by
    simp [aliasIssues]
  simp [issues, allowlists, aliases]

example : ({} : Config).issues = [] := by decide +kernel

end Config

/-- What is at the place of a configuration file. -/
inductive ConfigFile where
  | absent
  | unreadable (message : String)
  | refused (message : String)
  | config (c : Config)

/-- The configuration file that is found under a name. -/
def ConfigFile.ofStored : Stored → ConfigFile
  | .absent => .absent
  | .unreadable message => .unreadable message
  | .text content =>
    match Config.ofText content with
    | .ok c => .config c
    | .error e => .refused e.message

/-- The issues of a file. -/
def ConfigFile.issues : ConfigFile → List ConfigIssue
  | .absent => [.error "E001" "" "file does not exist"]
  | .unreadable message => [.error "E002" "" ("cannot read file: " ++ message)]
  | .refused message => [.error "E003" "" ("invalid YAML: " ++ message)]
  | .config c => c.issues

/-- The issues found at a name. -/
structure ConfigReport where
  file : String
  issues : List ConfigIssue
deriving DecidableEq, Repr

namespace ConfigReport

/-- The number of issues of a severity. -/
def count (severity : Severity) (r : ConfigReport) : Nat :=
  (r.issues.filter (·.severity == severity)).length

/-- Whether there are errors. -/
def hasErrors (r : ConfigReport) : Bool := 0 < r.count .error

/-- Whether there is an issue with a code. -/
def hasCode (r : ConfigReport) (code : String) : Bool := r.issues.any (·.code == code)

/-- The report as an object. -/
def toJson (r : ConfigReport) : Json :=
  .object [("file", .string r.file), ("issues", .array (r.issues.map ConfigIssue.toJson))]

/-- The report as a text. -/
def text (r : ConfigReport) : String :=
  let warnings := toString (r.count .warning) ++ " warning(s)"
  if r.issues.isEmpty then "✓ " ++ r.file ++ ": configuration is valid"
  else
    let summary :=
      if r.hasErrors then
        "✗ " ++ r.file ++ ": " ++ toString (r.count .error) ++ " error(s), " ++ warnings
      else "✓ " ++ r.file ++ ": " ++ warnings
    "\n".intercalate (r.issues.map ConfigIssue.text ++ ["", summary])

end ConfigReport

end ChatRules
