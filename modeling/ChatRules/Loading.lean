import ChatRules.Document.Fit
import ChatRules.Error
import ChatRules.Json.Read
import ChatRules.Yaml.Read

/-!
# Loading texts

How rules and blocks come from a text. A fault of the text is met before a misfit
of its shape, except for a fault in what follows the document, which is met last.

Models `from_path_str` of rules and of blocks (`SPEC_FULL.md` §3.4).
-/

namespace ChatRules

/-- What a loaded document can become, with the name of the forms that are accepted. -/
structure Loader (α : Type) where
  expected : String
  ofDocument : Document → Option α

namespace Loader

variable {α : Type}

/-- The result of a document without faults. -/
def load (l : Loader α) (d : Document) : Except LoadError α :=
  match l.ofDocument d with
  | some a => .ok a
  | none => .error (.shape l.expected)

/-- The result of a JSON text. -/
def ofJsonText (l : Loader α) (text : String) : Except LoadError α :=
  let t := Json.read text
  match t.root.fault? Document.depthLimit with
  | some f => .error (.json f)
  | none =>
    match l.load t.root, t.trailing with
    | .ok _, some f => .error (.json f)
    | result, _ => result

/-- The result of a YAML text. It holds one document, without tags of its own and without
    whole numbers of more than 64 bits. -/
def ofYamlText (l : Loader α) (text : String) : Except LoadError α :=
  match Yaml.read? text with
  | none => .error .yaml
  | some t =>
    if (t.root.fault? Yaml.depthLimit).isSome || t.root.isForeign then .error .yaml
    else
      match l.load t.root with
      | .error e => .error e
      | .ok a => if t.isAlone then .ok a else .error .yaml

/-- The result of a file, whose name tells what kind of text it is. -/
def ofFile (l : Loader α) (name text : String) : Except LoadError α :=
  if name.endsWith ".json" then l.ofJsonText text else l.ofYamlText text

end Loader

end ChatRules
