import ChatRules.Condition.Encoding
import ChatRules.Loading
import ChatRules.Rule.Basic
import ChatRules.Sha256
import ChatRules.Yaml.Print

/-!
# Rules as documents

A set of rules is an object with the list of its rules, or just that list.
Loading is lenient about conditions and priorities, which are kept as they were
written when they do not fit. Any other misfit refuses the whole set.

Models how `RuleSet` is read and written, and its `hash` (`SPEC_FULL.md` §2, §3.4).
-/

namespace ChatRules

open Document

/-- The priority as a value. -/
def Priority.toJson : Priority → Json
  | .number x => .number (.float x)
  | .malformed raw => raw

/-- The priority of a document. -/
def Priority.ofDocument (d : Document) : Option Priority :=
  match float? d with
  | some x => some (.number x)
  | none => (d.toJson? false).map .malformed

/-- The fragments as a value. -/
def Fragments.toJson : Fragments → Json
  | .one text => .string text
  | .many texts => .ofStrings texts

/-- The fragments of a document. -/
def Fragments.ofDocument (d : Document) : Option Fragments :=
  ((text? d).map .one).or ((texts? d).map .many)

namespace Write

/-- The fields of a write. -/
def fields (w : Write) : List (String × Json) :=
  Json.optional "path" .string w.path ++ Json.optional "targetId" .string w.targetId ++
    [("op", .string w.op.word)] ++ Json.optional "value" .string w.value ++
    Json.optional "text" .string w.text

/-- The write as an object. -/
def toJson (w : Write) : Json := .object w.fields

/-- The names of the fields of a write, in the order in which a list gives them. -/
def fieldNames : List String := ["path", "targetId", "op", "value", "text"]

/-- The write of a document. -/
def ofDocument (d : Document) : Option Write := do
  let fields ← record? fieldNames d
  let text? := nullable? text?
  return {
    path := ← orElse? text? none "path" fields
    targetId := ← orElse? text? none "targetId" fields
    op := ← orElse? (word? WriteOp.words false) .append "op" fields
    value := ← orElse? text? none "value" fields
    text := ← orElse? text? none "text" fields }

/-- How a write is decoded with a reason for every misfit. -/
def shape : Document.Shape Write where
  expected := "struct WriteSpec"
  fields :=
    [("path", fun d w => (decodeOption decodeText d).map fun s => { w with path := s }),
     ("targetId", fun d w => (decodeOption decodeText d).map fun s => { w with targetId := s }),
     ("op", fun d w => (decodeWord WriteOp.words d).map fun op => { w with op := op }),
     ("value", fun d w => (decodeOption decodeText d).map fun s => { w with value := s }),
     ("text", fun d w => (decodeOption decodeText d).map fun s => { w with text := s })]
  excess := valueExcess

/-- The write of a free-form value. -/
def ofJson (j : Json) : Decoded Write := decodeRecord .json shape {} (Document.ofJson j)

end Write

namespace Rule

/-- The fields of a rule. -/
def fields (r : Rule) : List (String × Json) :=
  [("id", .string r.id)] ++ Json.optional "label" .string r.label ++
    [("moduleId", .string r.moduleId), ("priority", r.priority.toJson),
      ("targets", .ofStrings r.targets)] ++
    Json.optional "when" Condition.toJson r.condition ++
    Json.optional "effects" (fun es => .object (es.map fun e => (e.1, e.2.toJson))) r.effects ++
    Json.optional "write" Write.toJson r.write ++
    Json.optional "description" .string r.description

/-- The rule as an object. -/
def toJson (r : Rule) : Json := .object r.fields

/-- The names of the fields of a rule, in the order in which a list gives them. -/
def fieldNames : List String :=
  ["id", "label", "moduleId", "priority", "targets", "when", "effects", "write", "description"]

/-- The rule of a document. -/
def ofDocument (d : Document) : Option Rule := do
  let fields ← record? fieldNames d
  return {
    id := ← orElse? text? "" "id" fields
    label := ← orElse? (nullable? text?) none "label" fields
    moduleId := ← orElse? text? defaultModule "moduleId" fields
    priority := ← orElse? Priority.ofDocument (.number 0) "priority" fields
    targets := ← orElse? texts? [] "targets" fields
    condition := ← orElse? (nullable? Condition.ofDocument) none "when" fields
    effects := ← orElse? (nullable? (dictOf? Fragments.ofDocument)) none "effects" fields
    write := ← orElse? (nullable? Write.ofDocument) none "write" fields
    description := ← orElse? (nullable? text?) none "description" fields }

end Rule

namespace RuleSet

/-- The fields of a set. -/
def fields (s : RuleSet) : List (String × Json) := [("rules", .array (s.rules.map Rule.toJson))]

/-- The set as an object. -/
def toJson (s : RuleSet) : Json := .object s.fields

/-- The set as a JSON text. -/
def toText (s : RuleSet) : String := s.toJson.pretty

/-- The set as a YAML text. -/
def toYaml (s : RuleSet) : String := Yaml.print s.fields

/-- What tells one set from another: the beginning of the digest of its text. -/
def fingerprint (s : RuleSet) : String := "sha256:" ++ Sha256.hexOf s.toText 8

/-- The set of a document: a list of rules, or a record with such a list. -/
def ofDocument (d : Document) : Option RuleSet :=
  let listed := (listOf? Rule.ofDocument d).map RuleSet.mk
  listed.or do
    let fields ← record? ["rules"] d
    return ⟨← orElse? (listOf? Rule.ofDocument) [] "rules" fields⟩

/-- How a set is loaded. -/
def loader : Loader RuleSet := ⟨"RuleSetFile", ofDocument⟩

end RuleSet

end ChatRules
