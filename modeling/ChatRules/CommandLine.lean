import ChatRules.Block.Encoding
import ChatRules.Chain.Run
import ChatRules.Config.Check
import ChatRules.Context.Encoding
import ChatRules.Evaluation.Report
import ChatRules.Progressive.Run
import ChatRules.Rule.Encoding
import ChatRules.Storage
import ChatRules.Word

/-!
# The command line

A command takes its arguments and the texts of the files that they name, and
comes to what it prints and to an exit code. Arguments that begin with a dash are
flags; some flags take the argument after them as a value.

The schemas that `schema` and `config schema` print are derived from the declarations of
the types by a library, so they are a parameter here (`Schemas`). Where they are withheld,
which is the default, both commands fail.

Models the commands and the dispatch of arguments (`SPEC_FULL.md` §3.6).

Results:

* `not_startsWith_of_mem_positional`: what is no flag does not begin with a dash.
* `schema_name`, `config_schema`: each name that is listed is known, and the two commands
  that print the schema of configurations agree.
-/

namespace ChatRules

/-- What a command prints, and its exit code. -/
structure Output where
  code : Nat := 0
  stdout : String := ""
  stderr : String := ""
deriving DecidableEq, Repr

namespace CommandLine

/-- The name of the program. -/
def programName : String := "ruleforge"

/-- The version of the program. -/
def version : String := "0.1.0"

/-- How the program is used. -/
def usage : String := "
ruleforge - keyword-injection rules for chat characters

USAGE:
    ruleforge <COMMAND> [OPTIONS]

COMMANDS:
    validate <rules.yaml>                  Report structural errors and warnings
    run <rules.yaml> <context.json>        Evaluate rules against a context
    chain <blocks.yaml> <context.json>     Run an IF/ELSEIF/ELSE block chain
    config check <file>                    Validate an engine config file
    config schema                          Print the config JSON schema
    schema [name]                          Print JSON schema (rules, blocks, context, config, validation)
    version                                Print version

OPTIONS:
    --config <file>     Engine config (allowed targets, allowlists, lists, seed)
    --progressive       Apply each fired rule's writes before the next rule (run)
    --all               Show rules that did not fire (run)
    --seed <n>          Seed for random conditions and picks (chain)
    --strict            Treat warnings as errors (validate)
    --json              JSON output

EXAMPLES:
    ruleforge validate demos/rules.yaml
    ruleforge run demos/rules.yaml demos/context.json --all
    ruleforge run demos/rules.yaml demos/context.json --progressive --config demos/ruleforge.yaml
    ruleforge chain demos/blocks.yaml demos/context.json --seed 7
"

/-- What a command comes to: lines that it prints, and the error that ends it. -/
structure Session where
  printed : List String := []
  warned : List String := []
  failure : Option Error := none

/-- A line for each text. -/
def lines (texts : List String) : String := String.join (texts.map (· ++ "\n"))

/-- The output of a session. An error is printed last, and makes the command fail. -/
def Session.output (s : Session) : Output :=
  match s.failure with
  | none => ⟨0, lines s.printed, lines s.warned⟩
  | some e => ⟨1, lines s.printed, lines (s.warned ++ ["Error: " ++ e.message])⟩

/-- A session that only fails. -/
def Session.failed (e : Error) : Session := { failure := some e }

/-- The session of a computation that may fail before anything is printed. -/
def Session.ofExcept : Except Error Session → Session
  | .ok s => s
  | .error e => .failed e

/-! ## Arguments -/

/-- The flags that take a value. -/
def valueFlags : List String := ["--config", "-c", "--seed"]

/-- The argument after a flag. -/
def flagValue? (name : String) : List String → Option String
  | [] => none
  | a :: rest => if a = name then rest.head? else flagValue? name rest

/-- The arguments that are neither flags nor their values. -/
def positional : List String → List String
  | [] => []
  | [a] => if Path.startsWith a "-" then [] else [a]
  | a :: b :: rest =>
    if valueFlags.contains a then positional rest
    else if Path.startsWith a "-" then positional (b :: rest)
    else a :: positional (b :: rest)

theorem not_startsWith_of_mem_positional {a : String} {args : List String}
    (h : a ∈ positional args) : Path.startsWith a "-" = false := by
  fun_induction positional args <;> grind

/-- The name of the configuration file. -/
def configName? (args : List String) : Option String :=
  (flagValue? "--config" args).or (flagValue? "-c" args)

/-- An error with a sentence of its own. -/
def complain {α : Type} (message : String) : Except Error α := .error (.other message)

/-- Why a text is no number of 64 bits. -/
def seedFault (text : String) : String :=
  if text.isEmpty then "cannot parse integer from empty string" else "invalid digit found in string"

/-- The number of 64 bits that digits spell after a number. -/
def seedFrom (n : Nat) : List Char → Except String Nat
  | [] => .ok n
  | c :: rest =>
    if !c.isDigit then .error (seedFault "x")
    else
      let n := 10 * n + Decimal.digitValue c
      if n < wordSize 64 then seedFrom n rest else .error "number too large to fit in target type"

/-- The seed that a text spells. -/
def seedOf (text : String) : Except Error (Option Nat) :=
  let digits := match text.toList with
    | '+' :: c :: rest => c :: rest
    | chars => chars
  let seed := if digits.isEmpty then .error (seedFault text) else seedFrom 0 digits
  match seed with
  | .ok n => .ok (some n)
  | .error why => complain ("invalid --seed '" ++ text ++ "': " ++ why)

/-! ## Files -/

/-- The files that a command can read. -/
abbrev Files := String → Stored

/-- The configuration that the arguments name. -/
def loadConfig (files : Files) (args : List String) : Except Error Config :=
  match configName? args with
  | some name => Config.load name (files name)
  | none => .ok {}

/-- The rules in a file. -/
def loadRules (files : Files) (name : String) : Except Error RuleSet := do
  (RuleSet.loader.ofFile name (← (files name).content)).mapError .rules

/-- The blocks in a file. -/
def loadBlocks (files : Files) (name : String) : Except Error BlockSet := do
  (BlockSet.loader.ofFile name (← (files name).content)).mapError .blocks

/-- The context in a file. -/
def loadContext (files : Files) (name : String) : Except Error Context := do
  Context.ofFile name (← (files name).content)

/-! ## Schemas -/

/-- The kinds of files and reports that have a schema. -/
inductive SchemaKind where
  | rules | blocks | context | config | validation
deriving DecidableEq, Repr

namespace SchemaKind

/-- The kinds in the order in which they are listed. -/
def all : List SchemaKind := [.rules, .blocks, .context, .config, .validation]

/-- The name of a kind on the command line. -/
def name : SchemaKind → String
  | .rules => "rules"
  | .blocks => "blocks"
  | .context => "context"
  | .config => "config"
  | .validation => "validation"

/-- The kind with a name. -/
def ofName? (name : String) : Option SchemaKind := all.find? (·.name = name)

theorem ofName?_name (k : SchemaKind) : ofName? k.name = some k := by
  cases k <;> decide +kernel

end SchemaKind

/-- Where the schemas come from. -/
class Schemas where
  schema? : SchemaKind → Option Json

/-- No schemas. -/
instance Schemas.withheld : Schemas := ⟨fun _ => none⟩

/-- Prints a schema. -/
def printSchema [Schemas] (k : SchemaKind) : Except Error Session :=
  match Schemas.schema? k with
  | some json => return { printed := [json.pretty] }
  | none => complain ("No schema of " ++ k.name)

/-! ## Commands -/

/-- Whether a flag is among the arguments. -/
def hasFlag (args : List String) (name : String) : Bool := args.contains name

/-- Lists the issues of the rules in a file. -/
def validate (files : Files) (args : List String) : Except Error Session := do
  match positional args with
  | [] => complain "Usage: ruleforge validate <rules.yaml> [--strict] [--json]"
  | name :: _ =>
    let rules ← loadRules files name
    let issues := rules.validate
    let errors := issues.all.errors.length
    let warnings := issues.all.warnings.length
    let printed :=
      if hasFlag args "--json" then [issues.toJson.pretty]
      else [issues.report name, "\nhash: " ++ rules.fingerprint]
    let failure :=
      if !issues.isValid then some (Error.other (toString errors ++ " validation error(s)"))
      else if hasFlag args "--strict" && 0 < warnings then
        some (.other (toString warnings ++
          " warning(s) (strict mode treats warnings as errors)"))
      else none
    return { printed, failure }

/-- The session of a progressive run. -/
def progressive (asJson : Bool) (run : ProgressiveRun) : Session :=
  { printed :=
      if asJson then
        [(Json.object [("report", run.toJson), ("ctx", run.context.toJson)]).sorted.pretty]
      else [run.text, run.context.toText]
    failure := run.blocked.map fun b => .other b.message }

/-- Evaluates the rules of a file on a context. -/
def evaluate (files : Files) (args : List String) : Except Error Session := do
  match positional args with
  | rulesName :: contextName :: _ =>
    let asJson := hasFlag args "--json"
    let config ← loadConfig files args
    let rules ← loadRules files rulesName
    let ctx ← loadContext files contextName
    let warned := rules.validate.all.errors.map Issue.text
    let programs := rules.rules.map RuleProgram.ofRule
    if hasFlag args "--progressive" then
      let run := runProgressive config.progressiveOptions config.registry
        (RuleProgram.byPriority programs) ctx
      return { progressive asJson run with warned }
    else
      let report := ChatRules.evaluate programs
        { registry := config.registry, view := { context := ctx }
          strict := config.strictReads, moduleId := defaultModule }
      return {
        printed := [if asJson then report.toJson.pretty else report.text (hasFlag args "--all")]
        warned }
  | _ =>
    complain ("Usage: ruleforge run <rules.yaml> <context.json> [--progressive] " ++
      "[--config <file>] [--json] [--all]")

/-- Runs the blocks of a file on a context. Where no seed is given, `chance` is taken. -/
def chain (files : Files) (chance : Nat) (args : List String) : Except Error Session := do
  match positional args with
  | blocksName :: contextName :: _ =>
    let seed ← match flagValue? "--seed" args with
      | some text => seedOf text
      | none => pure none
    let config ← loadConfig files args
    let blocks ← loadBlocks files blocksName
    let ctx ← loadContext files contextName
    let generator := Generator.ofSeed ((seed.or config.seed).getD chance)
    let run := Chain.run blocks.blocks (.ofConfig config blocks.lists) ctx generator
    if hasFlag args "--json" then
      let output := Json.object
        [("outcomes", .array (run.outcomes.map Chain.BlockOutcome.toJson)),
          ("trace", .ofStrings run.log), ("ctx", run.context.toJson)]
      return { printed := [output.sorted.pretty] }
    else return { printed := ["\n".intercalate run.log] }
  | _ =>
    complain ("Usage: ruleforge chain <blocks.yaml> <context.json> [--seed <n>] " ++
      "[--config <file>] [--json]")

/-- Lists the issues of a configuration file. -/
def checkConfig (files : Files) (args : List String) : Except Error Session := do
  match positional args with
  | [] => complain "Usage: ruleforge config check <file> [--json]"
  | name :: _ =>
    let report : ConfigReport := ⟨name, (ConfigFile.ofStored (files name)).issues⟩
    let errors := report.count .error
    let printed :=
      if hasFlag args "--json" then
        (Json.object [("errors", .ofNat errors), ("result", report.toJson),
          ("valid", .bool !report.hasErrors),
          ("warnings", .ofNat (report.count .warning))]).sorted.pretty
      else report.text
    return {
      printed := [printed]
      failure := if report.hasErrors then
        some (.other (name ++ ": config has " ++ toString errors ++ " error(s)")) else none }

/-- The commands about configurations. -/
def config [Schemas] (files : Files) : List String → Except Error Session
  | [] => complain "Usage: ruleforge config <check <file>|schema> [--json]"
  | "check" :: args => checkConfig files args
  | "schema" :: _ => printSchema .config
  | name :: _ =>
    complain ("Unknown config subcommand '" ++ name ++ "' (expected check or schema)")

/-- Lists the names of the schemas, or prints one. -/
def schema [Schemas] : List String → Except Error Session
  | [] | "list" :: _ =>
    return { printed :=
      ["Available schemas: " ++ ", ".intercalate (SchemaKind.all.map SchemaKind.name)] }
  | name :: _ =>
    match SchemaKind.ofName? name with
    | some k => printSchema k
    | none => complain ("Unknown schema: " ++ name)

theorem schema_name [Schemas] (k : SchemaKind) (args : List String) :
    schema (k.name :: args) = printSchema k := by
  have unlisted : k.name ≠ "list" := by cases k <;> decide
  simp [schema, SchemaKind.ofName?_name]

theorem config_schema [Schemas] (files : Files) (args : List String) :
    config files ("schema" :: args) = schema (SchemaKind.config.name :: args) :=
  (schema_name .config args).symm

/-- Runs a command. -/
def run [Schemas] (files : Files) (chance : Nat) (args : List String) : Output :=
  match args with
  | [] => ⟨1, lines [usage], ""⟩
  | command :: args =>
    let session :=
      match command with
      | "validate" => .ofExcept (validate files args)
      | "run" => .ofExcept (evaluate files args)
      | "chain" => .ofExcept (chain files chance args)
      | "config" => .ofExcept (config files args)
      | "schema" => .ofExcept (schema args)
      | "version" | "--version" | "-v" => { printed := [programName ++ " " ++ version] }
      | "help" | "--help" | "-h" => { printed := [usage] }
      | _ =>
        { printed := [usage], warned := ["Unknown command: " ++ command]
          failure := some (.other "Unknown command") }
    Session.output session

end CommandLine

end ChatRules
