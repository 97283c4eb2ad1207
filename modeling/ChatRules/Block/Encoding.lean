import ChatRules.Block.Basic
import ChatRules.Loading

/-!
# Blocks as documents

A set of blocks is an object with the list of its blocks and the lists of terms,
or just the list of blocks. Any misfit refuses the whole set.

Models how `BlockSet` is read and written (`SPEC_FULL.md` §2, §3.4).
-/

namespace ChatRules

open Document

/-! ## Gates -/

namespace Gate

/-- The field of a window. -/
def windowField (window : Option Nat) : List (String × Json) :=
  Json.optional "window" .ofNat window

/-- The fields of a comparison. -/
def comparisonFields (op : CompareOp) (value : Float) : List (String × Json) :=
  [("op", .string op.sign), ("value", .number (.float value))]

/-- The fields of a gate after its type. -/
def fieldsJson : Gate → List (String × Json)
  | .randomChance percent => [("percent", .number (.float percent))]
  | .messageCount op value => comparisonFields op value
  | .anyInList listId | .noneInList listId => [("listId", .string listId)]
  | .countInHistory listId window op value =>
    [("listId", .string listId)] ++ windowField window ++ comparisonFields op value
  | .historyContainsList listId window => ("listId", .string listId) :: windowField window
  | .derivedNumber key op value => ("key", .string key) :: comparisonFields op value
  | .memoryNumber key op value => ("memKey", .string key) :: comparisonFields op value
  | .memoryContains key text => [("memKey", .string key), ("text", .string text)]
  | .personalityContains text | .scenarioContains text => [("text", .string text)]

/-- The types of gates with the names of their fields. -/
def types : List (String × List String) :=
  [("randomChance", ["percent"]), ("messageCountComparison", ["op", "value"]),
   ("anyInList", ["listId"]), ("noneInList", ["listId"]),
   ("countInHistory", ["listId", "window", "op", "value"]),
   ("historyContainsList", ["listId", "window"]),
   ("derivedNumberComparison", ["key", "op", "value"]),
   ("memoryNumberComparison", ["memKey", "op", "value"]),
   ("memoryStringContains", ["memKey", "text"]), ("personalityContains", ["text"]),
   ("scenarioContains", ["text"])]

/-- The gate of a type with these fields. -/
def ofFields? (type : String) (fields : List (String × Document)) : Option Gate := do
  let op? := orElse? (word? CompareOp.words true) .greaterEqual "op" fields
  let value? := need? float? "value" fields
  let listId? := need? text? "listId" fields
  let window? := orElse? (nullable? size?) none "window" fields
  let text? (name : String) := need? text? name fields
  match type with
  | "randomChance" => return .randomChance (← need? float? "percent" fields)
  | "messageCountComparison" => return .messageCount (← op?) (← value?)
  | "anyInList" => return .anyInList (← listId?)
  | "noneInList" => return .noneInList (← listId?)
  | "countInHistory" => return .countInHistory (← listId?) (← window?) (← op?) (← value?)
  | "historyContainsList" => return .historyContainsList (← listId?) (← window?)
  | "derivedNumberComparison" => return .derivedNumber (← text? "key") (← op?) (← value?)
  | "memoryNumberComparison" => return .memoryNumber (← text? "memKey") (← op?) (← value?)
  | "memoryStringContains" => return .memoryContains (← text? "memKey") (← text? "text")
  | "personalityContains" => return .personalityContains (← text? "text")
  | "scenarioContains" => return .scenarioContains (← text? "text")
  | _ => none

end Gate

/-- The type that a document names among others, as a word or by its number. -/
def typeAmong? {α : Type} (types : List (String × α)) : Document → Option (String × α)
  | .scalar (.text s) _ => types.find? (·.1 == s)
  | .scalar (.number (.int i)) _ => if 0 ≤ i then types[i.toNat]? else none
  | _ => none

/-- The only field of a table with a key. -/
def onlyField? (name : String) (fields : List (Key × Document)) : Option Document :=
  match fields.filter fun f => f.1 == .name name with
  | [(_, d)] => some d
  | _ => none

/-- The fields of a table without those that have one of the keys. -/
def without (names : List String) (fields : List (Key × Document)) : List (Key × Document) :=
  fields.filter fun f => !names.any fun n => f.1 == .name n

/-- A record under the type that it names: a table with the type at a key, or a list that
    begins with it. -/
def typedRecord? (key : String) (types : List (String × List String)) :
    Document → Option (String × List (String × Document))
  | .table fields => do
    let (type, names) ← typeAmong? types (← onlyField? key fields)
    return (type, ← fieldsOfTable? names (without [key] fields))
  | .list (d :: rest) => do
    let (type, names) ← typeAmong? types d
    return (type, ← fieldsOfItems? names rest)
  | _ => none

namespace GateTree

mutual

/-- The tree as an object. -/
def toJson : GateTree → Json
  | .gate negated g =>
    .object ([("nodeType", .string "cond"), ("not", .bool negated),
      ("type", .string g.typeName)] ++ g.fieldsJson)
  | .group join negated items =>
    .object [("nodeType", .string "group"), ("join", .string join.groupWord),
      ("not", .bool negated), ("items", .array (itemsJson items))]

/-- The trees of a group as values. -/
def itemsJson : List GateTree → List Json
  | [] => []
  | t :: rest => t.toJson :: itemsJson rest

end

/-- The two kinds of nodes. -/
def nodeTypes : List (String × Bool) := [("cond", false), ("group", true)]

/-- A gate in a table, whose fields stand beside the kind of the node. -/
def gateOfTable? (fields : List (Key × Document)) : Option GateTree := do
  let negated ←
    match fields.filter fun f => f.1 == .name "not" with
    | [] => some false
    | [(_, d)] => bool? d
    | _ => none
  let (type, fields) ← typedRecord? "type" Gate.types (.table (without ["nodeType", "not"] fields))
  return .gate negated (← Gate.ofFields? type fields)

/-- The fields of a group, in the order in which a list gives them. -/
def groupFields : List String := ["join", "not", "items"]

/-- A group while its fields are read. -/
structure Draft where
  join : Option Join := none
  negated : Option Bool := none
  items : Option (List GateTree) := none

/-- The group of a draft. -/
def Draft.finish (d : Draft) : GateTree :=
  .group (d.join.getD .all) (d.negated.getD false) (d.items.getD [])

/-- The join of a group. -/
def join? : Document → Option Join := word? Join.words true

mutual

/-- The tree of a document. -/
def ofDocument (d : Document) : Option GateTree :=
  match d with
  | .table fields =>
    match (onlyField? "nodeType" fields).bind (typeAmong? nodeTypes) with
    | some (_, false) => gateOfTable? fields
    | some (_, true) => (takeFields fields {}).map Draft.finish
    | none => none
  | .list (type :: rest) =>
    match typeAmong? nodeTypes type with
    | some (_, true) =>
      match rest with
      | [] => some (.group .all false [])
      | [join] => (join? join).map fun j => .group j false []
      | [join, negated] => do return .group (← join? join) (← bool? negated) []
      | [join, negated, items] =>
        match join? join, bool? negated, ofList items with
        | some j, some n, some ts => some (.group j n ts)
        | _, _, _ => none
      | _ => none
    | _ => none
  | _ => none

/-- The trees of a list. -/
def ofList (d : Document) : Option (List GateTree) :=
  match d with
  | .list items => ofItems items
  | _ => none

/-- The trees of the items of a list. -/
def ofItems (items : List Document) : Option (List GateTree) :=
  match items with
  | [] => some []
  | d :: rest =>
    match ofDocument d, ofItems rest with
    | some t, some ts => some (t :: ts)
    | _, _ => none

/-- Takes in the fields of a group, each at most once. -/
def takeFields (fields : List (Key × Document)) (draft : Draft) : Option Draft :=
  match fields with
  | [] => some draft
  | (key, d) :: rest =>
    if key = .name "nodeType" then takeFields rest draft
    else
      match fieldOfKey? groupFields key with
      | some (some "join") =>
        match draft.join, join? d with
        | none, some j => takeFields rest { draft with join := some j }
        | _, _ => none
      | some (some "not") =>
        match draft.negated, bool? d with
        | none, some b => takeFields rest { draft with negated := some b }
        | _, _ => none
      | some (some _) =>
        match draft.items, ofList d with
        | none, some ts => takeFields rest { draft with items := some ts }
        | _, _ => none
      | some none => takeFields rest draft
      | none => none

end

end GateTree

/-! ## Actions -/

namespace BlockAction

/-- The fields of an action after its type. -/
def fieldsJson : BlockAction → List (String × Json)
  | .append _ text => [("text", .string text)]
  | .appendRandom listId field => [("listId", .string listId), ("target", .string field.word)]
  | .memoryNumber key mode value text =>
    [("memKey", .string key), ("mode", .string mode.word)] ++
      Json.optional "value" (fun x => .number (.float x)) value ++
      Json.optional "text" .string text
  | .memoryText key op text =>
    [("memKey", .string key), ("mode", .string op.word), ("text", .string text)]

/-- The action as an object. -/
def toJson (a : BlockAction) : Json := .object (("type", .string a.typeName) :: a.fieldsJson)

/-- The types of actions with the names of their fields. -/
def types : List (String × List String) :=
  [("appendPersonality", ["text"]), ("appendScenario", ["text"]),
   ("appendExampleDialogs", ["text"]), ("appendRandomFromList", ["listId", "target"]),
   ("memoryNumeric", ["memKey", "mode", "value", "text"]),
   ("memoryString", ["memKey", "mode", "text"])]

/-- The action of a type with these fields. -/
def ofFields? (type : String) (fields : List (String × Document)) : Option BlockAction := do
  let text := orElse? text? "" "text" fields
  match type with
  | "appendPersonality" => return .append .personality (← text)
  | "appendScenario" => return .append .scenario (← text)
  | "appendExampleDialogs" => return .append .exampleDialogs (← text)
  | "appendRandomFromList" =>
    return .appendRandom (← need? text? "listId" fields)
      (← orElse? (word? TextField.words true) .personality "target" fields)
  | "memoryNumeric" =>
    return .memoryNumber (← need? text? "memKey" fields)
      (← orElse? (word? NumericMode.words true) .set "mode" fields)
      (← orElse? (nullable? float?) none "value" fields)
      (← orElse? (nullable? text?) none "text" fields)
  | "memoryString" =>
    return .memoryText (← need? text? "memKey" fields)
      (← orElse? (word? WriteOp.words true) .set "mode" fields) (← text)
  | _ => none

/-- The action of a document. -/
def ofDocument (d : Document) : Option BlockAction := do
  let (type, fields) ← typedRecord? "type" types d
  ofFields? type fields

end BlockAction

/-! ## Blocks -/

namespace Block

/-- The block as an object. -/
def toJson (b : Block) : Json :=
  .object ([("id", .string b.id), ("type", .string b.kind.word), ("label", .string b.label),
    ("join", .string b.join.word), ("conditions", .array (b.conditions.map GateTree.toJson)),
    ("actions", .array (b.actions.map BlockAction.toJson))] ++
    Json.optional "groupId" .string b.groupId)

/-- The fields of a block, in the order in which a list gives them. -/
def fieldNames : List String :=
  ["id", "type", "label", "join", "conditions", "actions", "groupId"]

/-- The block of a document. -/
def ofDocument (d : Document) : Option Block := do
  let fields ← record? fieldNames d
  return {
    id := ← orElse? text? "" "id" fields
    kind := ← orElse? (word? BlockKind.words false) .opening "type" fields
    label := ← orElse? text? "" "label" fields
    join := ← orElse? (word? Join.words false) .all "join" fields
    conditions := ← orElse? (listOf? GateTree.ofDocument) [] "conditions" fields
    actions := ← orElse? (listOf? BlockAction.ofDocument) [] "actions" fields
    groupId := ← orElse? (nullable? text?) none "groupId" fields }

end Block

namespace BlockSet

/-- The set as an object. -/
def toJson (s : BlockSet) : Json :=
  .object [("blocks", .array (s.blocks.map Block.toJson)),
    ("lists", .object (s.lists.map fun e => (e.1, Json.ofStrings e.2)))]

/-- The set as a text. -/
def toText (s : BlockSet) : String := s.toJson.pretty

/-- The set of a document: a list of blocks, or a record with such a list. -/
def ofDocument (d : Document) : Option BlockSet :=
  let listed := (listOf? Block.ofDocument d).map fun blocks => ⟨blocks, []⟩
  listed.or do
    let fields ← record? ["blocks", "lists"] d
    return ⟨← orElse? (listOf? Block.ofDocument) [] "blocks" fields,
      ← orElse? (dictOf? texts?) [] "lists" fields⟩

/-- How a set is loaded. -/
def loader : Loader BlockSet := ⟨"BlockSetFile", ofDocument⟩

end BlockSet

end ChatRules
