import ChatRules.Error
import ChatRules.Json.Read
import ChatRules.Yaml.Read

/-!
# Contexts as documents

A context is written with the character and the chat first and the free-form
slots beside them, on one level. Every part may be left out. What is read at a
key of the character or the chat that is not known is skipped; at the top such
a key is a free-form slot.

Models how `Context` is read and written (`SPEC_FULL.md` §2, §3.4).
-/

namespace ChatRules

open Document

namespace Character

/-- The character as an object. -/
def toJson (c : Character) : Json :=
  .object [("personality", .string c.personality), ("scenario", .string c.scenario),
    ("example_dialogs", .string c.exampleDialogs), ("memory", .object c.memory)]

/-- How a character is decoded. -/
def shape : Document.Shape Character where
  expected := "struct Character"
  fields :=
    [("personality", fun d c => (decodeText d).map fun s => { c with personality := s }),
     ("scenario", fun d c => (decodeText d).map fun s => { c with scenario := s }),
     ("example_dialogs", fun d c => (decodeText d).map fun s => { c with exampleDialogs := s }),
     ("memory", fun d c =>
      (decodeDict (decodeJson (depthLimit - 3) true) d).map fun m => { c with memory := m })]
  excess := textExcess

end Character

namespace Chat

/-- The chat as an object. -/
def toJson (c : Chat) : Json :=
  .object
    [("last_messages", .array (c.messages.map fun m => .object [("message", .string m)])),
     ("chat_metadata", .object [("public_message_count", .ofNat c.messageCount)])]

/-- How a message is decoded. -/
def messageShape : Document.Shape String where
  expected := "struct Message"
  fields := [("message", fun d _ => decodeText d)]
  excess := textExcess

/-- How the figures about a chat are decoded. -/
def metadataShape : Document.Shape Nat where
  expected := "struct ChatMetadata"
  fields := [("public_message_count", fun d _ => decodeWord64 d)]
  excess := textExcess

/-- How a chat is decoded. -/
def shape (origin : Origin) : Document.Shape Chat where
  expected := "struct Chat"
  fields :=
    [("last_messages", fun d c =>
      (decodeList (decodeRecord origin messageShape "") d).map fun ms => { c with messages := ms }),
     ("chat_metadata", fun d c =>
      (decodeRecord origin metadataShape 0 d).map fun n => { c with messageCount := n })]
  excess := textExcess

end Chat

namespace Context

/-- The context as an object. -/
def toJson (ctx : Context) : Json :=
  .object (("character", ctx.character.toJson) :: ("chat", ctx.chat.toJson) :: ctx.extra)

/-- The context as a text. -/
def toText (ctx : Context) : String := ctx.toJson.pretty

/-- The parts of a context that have been read. -/
structure Draft where
  character : Option Character := none
  chat : Option Chat := none
  extra : List (String × Json) := []

/-- Takes in the fields of a context in order. -/
def takeFields (origin : Origin) : List (Key × Document) → Draft → Decoded Draft
  | [], draft => .ok draft
  | (key, d) :: rest, draft =>
    match keyName key with
    | .error e => .error e
    | .ok name =>
      if name = "character" then
        match draft.character with
        | some _ => .error (.duplicateField name)
        | none =>
          match decodeRecord origin Character.shape {} d with
          | .error e => .error e
          | .ok c => takeFields origin rest { draft with character := some c }
      else if name = "chat" then
        match draft.chat with
        | some _ => .error (.duplicateField name)
        | none =>
          match decodeRecord origin (Chat.shape origin) {} d with
          | .error e => .error e
          | .ok c => takeFields origin rest { draft with chat := some c }
      else
        match decodeJson (depthLimit - 1) false d with
        | .error e => .error e
        | .ok j => takeFields origin rest { draft with extra := Dict.insert name j draft.extra }

/-- The context of a document. -/
def ofDocument (origin : Origin) (d : Document) : Decoded Context :=
  if d.isVoid then .ok {}
  else
    match d.untagged with
    | .table fields =>
      (takeFields origin fields {}).map fun draft =>
        ⟨draft.character.getD {}, draft.chat.getD {}, draft.extra⟩
    | d => .error (d.mismatch "struct Context")

/-- The context of a JSON text. -/
def ofJsonText (text : String) : Decoded Context :=
  let t := Json.read text
  match ofDocument .json t.root, t.trailing with
  | .ok _, some f => .error (.fault f)
  | result, _ => result

/-- The context of a YAML text. -/
def ofYamlText? (text : String) : Option Context := do
  let t ← Yaml.read? text
  let ctx ← (ofDocument .yaml t.root).toOption
  if t.isAlone then some ctx else none

/-- The context of a file, whose name tells what kind of text it is. -/
def ofFile (name text : String) : Except Error Context :=
  if name.endsWith ".yaml" || name.endsWith ".yml" then
    match ofYamlText? text with
    | some ctx => .ok ctx
    | none => .error .yaml
  else (ofJsonText text).mapError .json

end Context

end ChatRules
