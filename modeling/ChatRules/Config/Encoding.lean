import ChatRules.Config.Basic
import ChatRules.Storage
import ChatRules.Yaml.Print
import ChatRules.Yaml.Read

/-!
# Configurations as documents

A configuration is a table in which every field may be left out.

Models how `EngineConfig` is read and written (`SPEC_FULL.md` §3.3, §3.4).
-/

namespace ChatRules.Config

open Document

/-- The lists of terms as an object. -/
def listsJson (lists : List (String × List String)) : Json :=
  .object (lists.map fun e => (e.1, Json.ofStrings e.2))

/-- The fields of a configuration. -/
def fields (c : Config) : List (String × Json) :=
  [("version", .ofNat c.version), ("strict_reads", .bool c.strictReads),
    ("allowed_targets", .ofStrings c.allowedTargets),
    ("target_aliases", .object (c.targetAliases.map fun e => (e.1, .string e.2))),
    ("allowlists", listsJson c.allowlists), ("lists", listsJson c.lists),
    ("history_window", .ofNat c.historyWindow)] ++ Json.optional "seed" .ofNat c.seed

/-- The configuration as an object. -/
def toJson (c : Config) : Json := .object c.fields

/-- How a configuration is decoded. -/
def shape : Document.Shape Config where
  expected := "struct EngineConfig"
  fields :=
    [("version", fun d c => (decodeWord32 d).map fun n => { c with version := n }),
     ("strict_reads", fun d c => (decodeBool d).map fun b => { c with strictReads := b }),
     ("allowed_targets", fun d c => (decodeTexts d).map fun ts => { c with allowedTargets := ts }),
     ("target_aliases", fun d c =>
      (decodeDict decodeText d).map fun es => { c with targetAliases := es }),
     ("allowlists", fun d c =>
      (decodeDict decodeTexts d).map fun es => { c with allowlists := es }),
     ("lists", fun d c => (decodeDict decodeTexts d).map fun es => { c with lists := es }),
     ("history_window", fun d c => (decodeSize d).map fun n => { c with historyWindow := n }),
     ("seed", fun d c => (decodeOption decodeWord64 d).map fun n => { c with seed := n })]
  excess := valueExcess

/-- The configuration of a document. -/
def ofDocument (origin : Origin) (d : Document) : Decoded Config :=
  decodeRecord origin shape {} d

/-- The configuration of a text. -/
def ofText (text : String) : Except LoadError Config :=
  match Yaml.read? text with
  | none => .error .yaml
  | some t =>
    match ofDocument .yaml t.root with
    | .ok c => if t.isAlone then .ok c else .error .yaml
    | .error _ => .error .yaml

/-- The configuration of a file. -/
def load (name : String) (stored : Stored) : Except Error Config := do
  (ofText (← stored.content)).mapError (.config (some name))

/-- The configuration as a YAML text. -/
def toYaml (c : Config) : String := Yaml.print c.fields

end ChatRules.Config
