import ChatRules.Source.Value
import ChatRules.Traced

/-!
# The registry of sources

Conditions read the context by the names of sources. The registry holds the
sources with the functions that compute them, the named normalizers that are
applied to what they give, and for some modules the list of sources that they
may read. A module without a list may read everything.

Models `SourceRegistry` with `register`, `set_allowlist` and `read` (`SPEC_FULL.md` §2.1).

Results:

* `read_events`: a read leaves an event exactly if it fails.
* `read_strict`: where failed reads are errors, a read that succeeds gives a value.
-/

namespace ChatRules

/-- What the function of a source may look at. -/
structure View where
  context : Context := {}
  state : Json := .null
  derived : List (String × Float) := []

/-- A source: its name, its form, and the function that computes it. -/
structure Source where
  id : String
  kind : SourceKind := .text
  label : Option String := none
  normalizer : Option String := none
  get : View → Except String SourceValue

/-- What stands before the name of a derived number to make it a source. -/
def derivedStart : String := "derived."

/-- The sources, the normalizers and the restrictions of modules, by name. -/
structure Registry where
  sources : List (String × Source) := []
  normalizers : List (String × (String → String)) := []
  allowlists : List (String × List String) := []

namespace Registry

/-- Registers a source under a name that is new and not blank. -/
def register (r : Registry) (s : Source) : Except RegistryError Registry :=
  if Text.isAllBlank s.id then .error .idRequired
  else if Dict.has s.id r.sources then .error (.alreadyRegistered s.id)
  else .ok { r with sources := Dict.insert s.id s r.sources }

/-- Takes a source out. -/
def unregister (r : Registry) (id : String) : Registry :=
  { r with sources := Dict.erase id r.sources }

/-- The names of the sources. -/
def ids (r : Registry) : List String := r.sources.map (·.1)

/-- Names a normalizer, in place of the one that had the name. -/
def setNormalizer (r : Registry) (name : String) (f : String → String) : Registry :=
  { r with normalizers := Dict.insert name f r.normalizers }

/-- Restricts a module to some sources. -/
def setAllowlist (r : Registry) (moduleId : String) (ids : List String) : Registry :=
  { r with allowlists := Dict.insert moduleId ids r.allowlists }

/-- Takes back the restriction of a module. -/
def clearAllowlist (r : Registry) (moduleId : String) : Registry :=
  { r with allowlists := Dict.erase moduleId r.allowlists }

/-- Whether a module may read a source. -/
def isAllowed (r : Registry) (moduleId sourceId : String) : Bool :=
  match Dict.find? moduleId r.allowlists with
  | some ids => ids.contains sourceId
  | none => true

/-- The text under a normalizer. -/
def normalize? (r : Registry) (name text : String) : Option String :=
  (Dict.find? name r.normalizers).map (· text)

/-- The derived number that a name stands for. -/
def derived? (view : View) (sourceId : String) : Option Float :=
  (Path.after? derivedStart sourceId).bind (Dict.find? · view.derived)

/-- What a source gives after its normalizer. -/
def compute (r : Registry) (s : Source) (view : View) : Except String SourceValue :=
  match s.get view with
  | .error message => .error message
  | .ok value =>
    match s.normalizer with
    | none => .ok value
    | some name =>
      match Dict.find? name r.normalizers with
      | some f => .ok (value.mapText f)
      | none => .error ("unknown normalizer: " ++ name)

/-- The value of a source for a module. A registered source hides the derived number of
    its name; whether the source exists is decided before whether it may be read. -/
def resolve (r : Registry) (moduleId sourceId : String) (view : View) :
    Except ReadFailure SourceValue :=
  match Dict.find? sourceId r.sources with
  | some s =>
    if r.isAllowed moduleId sourceId then
      (r.compute s view).mapError (.failed sourceId)
    else .error (.notAllowed moduleId sourceId)
  | none =>
    match derived? view sourceId with
    | some x =>
      if r.isAllowed moduleId sourceId then .ok (.number x)
      else .error (.notAllowed moduleId sourceId)
    | none => .error (.unknown sourceId)

/-- The event of a failed read. -/
def failureEvent (moduleId sourceId : String) : ReadFailure → TraceEvent
  | .unknown _ => .sourceMissing moduleId sourceId
  | .notAllowed _ _ => .sourceNotAllowed moduleId sourceId
  | .failed _ message => .sourceError moduleId sourceId message

/-- Reads a source for a module. A failure leaves an event; if reads are strict it is
    an error, else there is no value. -/
def read (r : Registry) (moduleId : String) (view : View) (strict : Bool) (sourceId : String) :
    Traced (Option SourceValue) :=
  match r.resolve moduleId sourceId view with
  | .ok value => ⟨[], .ok (some value)⟩
  | .error failure =>
    ⟨[failureEvent moduleId sourceId failure],
      if strict then .error (.source failure) else .ok none⟩

theorem read_events (r : Registry) (moduleId : String) (view : View) (strict : Bool)
    (sourceId : String) :
    (r.read moduleId view strict sourceId).events = [] ↔
      ∃ value, r.resolve moduleId sourceId view = .ok value := by
  unfold read
  split <;> simp_all

theorem read_strict {r : Registry} {moduleId sourceId : String} {view : View}
    {value? : Option SourceValue}
    (h : (r.read moduleId view true sourceId).result = .ok value?) : value?.isSome := by
  unfold read at h
  split at h <;> simp at h
  simp [← h]

/-! ## Descriptions -/

/-- A list of texts in quotes. -/
def quotedList (names : List String) : String :=
  ", ".intercalate (names.map Text.quoted)

/-- An optional text in quotes. -/
def quotedOption : Option String → String
  | some s => "Some(" ++ Text.quoted s ++ ")"
  | none => "None"

/-- The registry by its names. -/
def describe (r : Registry) : String :=
  let allowlist (e : String × List String) : String :=
    Text.quoted e.1 ++ ": \x7b" ++ quotedList e.2.eraseDups ++ "\x7d"
  "SourceRegistry \x7b sources: [" ++ quotedList r.ids ++ "], normalizers: [" ++
    quotedList (r.normalizers.map (·.1)) ++ "], allowlists: \x7b" ++
    ", ".intercalate (r.allowlists.map allowlist) ++ "\x7d \x7d"

end Registry

/-- The source without its function. -/
def Source.describe (s : Source) : String :=
  let kind := match s.kind with
    | .text => "Text"
    | .list => "List"
    | .number => "Number"
  "SourceSpec \x7b id: " ++ Text.quoted s.id ++ ", kind: " ++ kind ++ ", label: " ++
    Registry.quotedOption s.label ++ ", normalizer: " ++ Registry.quotedOption s.normalizer ++
    ", .. \x7d"

end ChatRules
