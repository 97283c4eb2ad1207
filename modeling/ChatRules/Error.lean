import ChatRules.Context
import ChatRules.Document.Decode

/-!
# Errors

Everything that can go wrong outside the decision of a single condition, by
cause, with the sentence that reports it.

Models `Error` (`SPEC_FULL.md` §3.1).
-/

namespace ChatRules

/-- Why a text of rules, of blocks or of a configuration is refused. -/
inductive LoadError where
  /-- A JSON text goes wrong. -/
  | json (f : Fault)
  /-- A YAML text goes wrong. -/
  | yaml
  /-- A document is well formed, but has another shape. -/
  | shape (expected : String)
  /-- A document does not decode. -/
  | decode (e : DecodeError)
deriving DecidableEq

/-- The sentence for a refused text. -/
def LoadError.message : LoadError → String
  | .json f => f.message
  | .yaml => "malformed document"
  | .shape expected => "data did not match any variant of untagged enum " ++ expected
  | .decode e => e.message

/-- Why a source is not registered. -/
inductive RegistryError where
  | idRequired
  | alreadyRegistered (id : String)
deriving DecidableEq, Repr

/-- The sentence for a refused registration. -/
def RegistryError.message : RegistryError → String
  | .idRequired => "source id is required"
  | .alreadyRegistered id => "source already registered: " ++ id

/-- Why a source gives no value. -/
inductive ReadFailure where
  | unknown (sourceId : String)
  | notAllowed (moduleId sourceId : String)
  | failed (sourceId message : String)
deriving DecidableEq, Repr

/-- The sentence for a failed read. -/
def ReadFailure.message : ReadFailure → String
  | .unknown sourceId => "unknown source: " ++ sourceId
  | .notAllowed moduleId sourceId => "module " ++ moduleId ++ " may not read " ++ sourceId
  | .failed sourceId message => sourceId ++ " failed: " ++ message

/-- An error, by the part of the library that it comes from. -/
inductive Error where
  | rules (e : LoadError)
  | blocks (e : LoadError)
  | registry (e : RegistryError)
  | source (e : ReadFailure)
  | write (e : WriteError)
  | config (file : Option String) (e : LoadError)
  | file (message : String)
  | yaml
  | json (e : DecodeError)
  | other (message : String)
deriving DecidableEq

/-- The sentence for an error. -/
def Error.message : Error → String
  | .rules e => "Rule parse error: " ++ e.message
  | .blocks e => "Block parse error: " ++ e.message
  | .registry e => "Registry error: " ++ e.message
  | .source e => "Source error: " ++ e.message
  | .write e => "Write error: " ++ e.message
  | .config none e => "Config error: " ++ e.message
  | .config (some name) e => "Config error: " ++ name ++ ": Config error: " ++ e.message
  | .file message => "IO error: " ++ message
  | .yaml => "YAML error: malformed document"
  | .json e => "JSON error: " ++ e.message
  | .other message => message

end ChatRules
