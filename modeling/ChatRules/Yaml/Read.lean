import ChatRules.Yaml.Scan

/-!
# Reading YAML texts

A YAML text holds a document, in which an alias stands for the node that was
anchored under its name. A text may hold several documents; only the first one
is read, and whether others follow is told apart.

Models the reader of YAML that the persisted types are loaded with (`SPEC_FULL.md` §3.4).
-/

namespace ChatRules.Yaml

/-- What is left to read, and what is known from before: what handles stand for, and the
    nodes with anchors by number. -/
structure Reading where
  tokens : List Token
  handles : List (String × String)
  anchors : List (String × Nat) := []
  nodes : List (Nat × Document) := []
  count : Nat := 0

/-- The anchor and the tag of a node. -/
structure Properties where
  anchor : Option String := none
  tag : Option (String × String) := none

/-- Whether a node has no properties. -/
def Properties.isEmpty (p : Properties) : Bool := p.anchor.isNone && p.tag.isNone

namespace Reading

/-- The reading behind one sign. -/
def skip (r : Reading) : Reading := { r with tokens := r.tokens.drop 1 }

/-- The properties at the beginning of a node, in either order. -/
def properties (r : Reading) : Properties × Reading :=
  match r.tokens with
  | .anchor a :: .tag h s :: rest | .tag h s :: .anchor a :: rest =>
    (⟨some a, some (h, s)⟩, { r with tokens := rest })
  | .anchor a :: rest => (⟨some a, none⟩, { r with tokens := rest })
  | .tag h s :: rest => (⟨none, some (h, s)⟩, { r with tokens := rest })
  | _ => ({}, r)

/-- The whole tag of a handle and a suffix. -/
def resolveTag (r : Reading) (tag : String × String) : Option String :=
  if tag.1.isEmpty then some tag.2
  else (Dict.find? tag.1 r.handles).map (· ++ tag.2)

/-- The whole tag of properties that may have none. -/
def tagOf (r : Reading) (p : Properties) : Option (Option String) :=
  match p.tag with
  | none => some none
  | some tag => (r.resolveTag tag).map some

/-- The node that an alias stands for. A node that holds itself can only be skipped. -/
def aliased (r : Reading) (name : String) : Option Document :=
  (Dict.find? name r.anchors).map fun id =>
    ((r.nodes.find? (·.1 == id)).map (·.2)).getD (.broken ⟨.tooDeep, none⟩)

/-- The reading after an anchor was met. -/
def meetAnchor (r : Reading) (p : Properties) : Reading :=
  match p.anchor with
  | none => r
  | some name => { r with anchors := (name, r.count) :: r.anchors, count := r.count + 1 }

/-- The reading after a node with properties, that began at a number of anchors. -/
def closeAnchor (r : Reading) (p : Properties) (id : Nat) (d : Document) : Reading :=
  if p.anchor.isSome then { r with nodes := (id, d) :: r.nodes } else r

end Reading

/-- A collection under a tag. -/
def taggedCollection (tag : Option String) (d : Document) : Document :=
  if tag.any (·.startsWith "!") then .tagged d else d

/-- A scalar under a tag. The tag that is just an exclamation mark says nothing. -/
def scalarDocument (tag : Option String) (isPlain : Bool) (s : String) : Document :=
  match tag.filter (· != "!") with
  | some tag => taggedScalar tag isPlain s
  | none => if isPlain then plainDocument s else quotedDocument s

/-- The key that a document is. -/
def keyOf : Document → Key
  | .scalar (.text s) _ => .name s
  | .scalar (.number (.int i)) (some spelling) =>
    if 0 ≤ i then .index i.toNat spelling else .scalar spelling
  | .scalar _ spelling => .scalar (spelling.getD "")
  | .tagged inner => match inner with
    | .scalar (.text s) _ => .scalar s
    | .scalar _ spelling => .scalar (spelling.getD "")
    | _ => .compound
  | .broken b => .broken b
  | .list _ | .table _ => .compound

/-- What a reader of nodes comes to: a document, and what is left. -/
abbrev Step (α : Type) := Option (α × Reading)

/-- Nothing, where a node could stand. -/
def nothing (r : Reading) : Step Document := some (emptyDocument, r)

/-- Whether the next sign is one of some. -/
def Reading.meets (r : Reading) (tokens : List Token) : Bool := r.tokens.head?.any tokens.contains

mutual

/-- A node, in a block or between brackets. In a block mapping the items of a sequence may
    stand as far to the left as the keys. -/
def node (inBlock isValue : Bool) : Nat → Reading → Step Document
  | 0, _ => none
  | fuel + 1, r =>
    match r.tokens with
    | .alias name :: _ => (r.aliased name).map fun d => (d, r.skip)
    | _ =>
      let id := r.count
      let (p, r) := r.properties
      let r := r.meetAnchor p
      match r.tagOf p with
      | none => none
      | some tag =>
        match content inBlock isValue p.isEmpty tag fuel r with
        | none => none
        | some (d, r) => some (d, r.closeAnchor p id d)

/-- A node after its properties. -/
def content (inBlock isValue isBare : Bool) (tag : Option String) :
    Nat → Reading → Step Document
  | 0, _ => none
  | fuel + 1, r =>
    let collection {α : Type} (build : α → Document) (x : Step α) : Step Document :=
      x.map fun (a, r) => (taggedCollection tag (build a), r)
    match r.tokens, inBlock, isValue with
    | .entry :: _, _, true => collection .list (looseItems fuel r)
    | .scalar s isPlain :: _, _, _ => some (scalarDocument tag isPlain s, r.skip)
    | .flowSequence :: _, _, _ => collection .list (flowItems true fuel r.skip)
    | .flowMapping :: _, _, _ => collection .table (flowFields true fuel r.skip)
    | .blockSequence :: _, true, _ => collection .list (blockItems fuel r.skip)
    | .blockMapping :: _, true, _ => collection .table (blockFields fuel r.skip)
    | _, _, _ => if isBare then none else some (scalarDocument tag true "", r)

/-- A node in a block, or nothing where one of some signs follows. -/
def nodeUnless (stops : List Token) (isValue : Bool) : Nat → Reading → Step Document
  | 0, _ => none
  | fuel + 1, r => if r.meets stops then nothing r else node true isValue fuel r

/-- A node between brackets, or nothing where one of some signs follows. -/
def flowNodeUnless (stops : List Token) : Nat → Reading → Step Document
  | 0, _ => none
  | fuel + 1, r => if r.meets stops then nothing r else node false false fuel r

/-- The items of a sequence in a block. -/
def blockItems : Nat → Reading → Step (List Document)
  | 0, _ => none
  | fuel + 1, r =>
    match r.tokens with
    | .blockEnd :: _ => some ([], r.skip)
    | .entry :: _ =>
      match nodeUnless [.entry, .blockEnd] false fuel r.skip with
      | none => none
      | some (d, r) => (blockItems fuel r).map fun (ds, r) => (d :: ds, r)
    | _ => none

/-- The items of a sequence that is not indented. -/
def looseItems : Nat → Reading → Step (List Document)
  | 0, _ => none
  | fuel + 1, r =>
    match r.tokens with
    | .entry :: _ =>
      match nodeUnless [.entry, .key, .value, .blockEnd] false fuel r.skip with
      | none => none
      | some (d, r) => (looseItems fuel r).map fun (ds, r) => (d :: ds, r)
    | _ => some ([], r)

/-- The fields of a mapping in a block. -/
def blockFields : Nat → Reading → Step (List (Key × Document))
  | 0, _ => none
  | fuel + 1, r =>
    match r.tokens with
    | .blockEnd :: _ => some ([], r.skip)
    | .key :: _ =>
      match nodeUnless [.key, .value, .blockEnd] true fuel r.skip with
      | none => none
      | some (k, r) =>
        let value :=
          if r.meets [.value] then nodeUnless [.key, .value, .blockEnd] true fuel r.skip
          else nothing r
        match value with
        | none => none
        | some (d, r) => (blockFields fuel r).map fun (fs, r) => ((keyOf k, d) :: fs, r)
    | _ => none

/-- The items of a sequence between brackets. A field among them is a mapping of its own. -/
def flowItems (isFirst : Bool) : Nat → Reading → Step (List Document)
  | 0, _ => none
  | fuel + 1, r =>
    if r.meets [.flowSequenceEnd] then some ([], r.skip)
    else if !isFirst && !r.meets [.separator] then none
    else
      let r := if isFirst then r else r.skip
      if r.meets [.flowSequenceEnd] then some ([], r.skip)
      else
        let item := if r.meets [.key] then flowPair fuel r.skip else node false false fuel r
        match item with
        | none => none
        | some (d, r) => (flowItems false fuel r).map fun (ds, r) => (d :: ds, r)

/-- A field among the items of a sequence. A key that is missing takes one sign with it. -/
def flowPair : Nat → Reading → Step Document
  | 0, _ => none
  | fuel + 1, r =>
    let key :=
      if r.meets [.value, .separator, .flowSequenceEnd] then nothing r.skip
      else node false false fuel r
    match key with
    | none => none
    | some (k, r) =>
      let value :=
        if r.meets [.value] then flowNodeUnless [.separator, .flowSequenceEnd] fuel r.skip
        else nothing r
      value.map fun (d, r) => (.table [(keyOf k, d)], r)

/-- The fields of a mapping between brackets. -/
def flowFields (isFirst : Bool) : Nat → Reading → Step (List (Key × Document))
  | 0, _ => none
  | fuel + 1, r =>
    if r.meets [.flowMappingEnd] then some ([], r.skip)
    else if !isFirst && !r.meets [.separator] then none
    else
      let r := if isFirst then r else r.skip
      if r.meets [.flowMappingEnd] then some ([], r.skip)
      else
        match flowField fuel r with
        | none => none
        | some (f, r) => (flowFields false fuel r).map fun (fs, r) => (f :: fs, r)

/-- A field of a mapping between brackets. Without the sign of a key it has no value. -/
def flowField : Nat → Reading → Step (Key × Document)
  | 0, _ => none
  | fuel + 1, r =>
    let stops := [Token.value, .separator, .flowMappingEnd]
    if r.meets [.key] then
      match flowNodeUnless stops fuel r.skip with
      | none => none
      | some (k, r) =>
        let value :=
          if r.meets [.value] then flowNodeUnless (stops.drop 1) fuel r.skip else nothing r
        value.map fun (d, r) => ((keyOf k, d), r)
    else (node false false fuel r).map fun (k, r) => ((keyOf k, emptyDocument), r)

end

/-- What handles stand for without directives. -/
def commonHandles : List (String × String) := [("!", "!"), ("!!", commonTag)]

/-- Takes in the directives before a document. At most one names the version, which is
    one that is understood; no handle is named twice. -/
def takeDirectives (hasVersion : Bool) :
    List Token → List (String × String) → Option (List Token × List (String × String))
  | .version major minor :: rest, handles =>
    if hasVersion || major != 1 || (minor != 1 && minor != 2) then none
    else takeDirectives true rest handles
  | .tagDirective handle start :: rest, handles =>
    if Dict.has handle handles then none
    else takeDirectives hasVersion rest (handles ++ [(handle, start)])
  | tokens, handles => some (tokens, handles)

/-- The handles of directives over the common ones. -/
def allHandles (handles : List (String × String)) : List (String × String) :=
  handles ++ commonHandles.filter fun h => !Dict.has h.1 handles

/-- How deep collections may be nested. -/
def depthLimit : Nat := 128

/-- The documents of a text: the first one, and whether others follow it. -/
structure Text where
  root : Document
  isAlone : Bool

/-- Whether no further document follows the signs. -/
def endsText (tokens : List Token) : Bool := tokens.all fun t => t == .documentEnd

/-- The documents of signs. -/
def readTokens (tokens : List Token) : Option Text :=
  match tokens with
  | [] => some ⟨emptyDocument, true⟩
  | first :: _ => do
    let (rest, handles) ← takeDirectives false tokens []
    let fuel := 4 * tokens.length + 4
    let r : Reading := { tokens := rest, handles := allHandles handles }
    let isMarked := r.meets [.documentStart]
    let hasDirectives := rest.length < tokens.length
    if hasDirectives && !isMarked then none
    let (root, r) ←
      if isMarked then
        let r := r.skip
        match r.tokens with
        | [] | .documentStart :: _ | .documentEnd :: _ | .version _ _ :: _
        | .tagDirective _ _ :: _ => nothing r
        | _ => node true false fuel r
      else if first == .documentEnd then none
      else node true false fuel r
    return ⟨root, endsText r.tokens⟩

/-- The documents of a text, if it is a YAML text. -/
def read? (text : String) : Option Text :=
  let chars := text.toList
  let chars := if chars.head? == some byteOrderMark then chars.drop 1 else chars
  if chars.all isAllowed then (scan? chars).bind readTokens else none

end ChatRules.Yaml
