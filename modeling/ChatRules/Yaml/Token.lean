import ChatRules.Yaml.Text

/-!
# The signs of YAML texts

What a YAML text is made of, seen without its layout: the beginnings and ends of
collections, the signs in them, properties and scalars. The beginnings and ends
that the layout implies are signs too.
-/

namespace ChatRules.Yaml

/-- A sign. -/
inductive Token where
  | version (major minor : Nat)
  | tagDirective (handle start : String)
  | documentStart
  | documentEnd
  | blockSequence
  | blockMapping
  | blockEnd
  | flowSequence
  | flowSequenceEnd
  | flowMapping
  | flowMappingEnd
  | entry
  | separator
  | key
  | value
  | alias (name : String)
  | anchor (name : String)
  | tag (handle suffix : String)
  | scalar (text : String) (isPlain : Bool)
deriving DecidableEq, Repr

/-- Whether a character may stand in the name of an anchor or of a handle. -/
def isNameChar (c : Char) : Bool := c.isAlphanum || c == '-' || c == '_'

/-- The name at the beginning of a text. -/
def nameAt (text : List Char) : List Char := text.takeWhile isNameChar

/-- Whether a text may follow the name of an anchor. -/
def followsAnchor (text : List Char) : Bool :=
  endsWord text || text.head?.any fun c =>
    c == '?' || c == ':' || c == ',' || c == ']' || c == '}' || c == '%' || c == '@' || c == '`'

/-- The name of an anchor and the cursor behind it. -/
def takeAnchor (c : Cursor) : Option (String × Cursor) :=
  let name := nameAt c.rest
  let c := c.skip name.length
  if name.isEmpty || !followsAnchor c.rest then none else some (String.ofList name, c)

/-! ## Tags -/

/-- Whether a character may stand in a tag; the last three only in a whole address. -/
def isAddressChar (isWhole : Bool) (c : Char) : Bool :=
  isNameChar c || ";/?:@&=+$.!~*'()".toList.contains c ||
    (isWhole && (c == ',' || c == '[' || c == ']'))

/-- The bytes of an address, in which a per cent sign stands before two digits to base
    16, and the number of characters that spell them. -/
def addressBytes (isWhole : Bool) : Nat → List Char → Option (List UInt8 × Nat)
  | 0, _ => none
  | _ + 1, [] => some ([], 0)
  | fuel + 1, c :: rest =>
    if c == '%' then
      match Digits.toNat? 16 (rest.take 2) with
      | some n =>
        if rest.length < 2 then none
        else (addressBytes isWhole fuel (rest.drop 2)).map fun (bs, k) => (n.toUInt8 :: bs, k + 3)
      | none => none
    else if isAddressChar isWhole c then
      (addressBytes isWhole fuel rest).map fun (bs, k) =>
        ((String.singleton c).toUTF8.toList ++ bs, k + 1)
    else some ([], 0)

/-- An address after what is known of it, and the cursor behind it. An address without
    characters is a fault. -/
def takeAddress (isWhole : Bool) (known : String) (mayBeEmpty : Bool) (c : Cursor) :
    Option (String × Cursor) := do
  let (bytes, n) ← addressBytes isWhole (c.rest.length + 1) c.rest
  if n = 0 && !mayBeEmpty then none
  let s ← String.fromUTF8? ⟨bytes.toArray⟩
  return (known ++ s, c.skip n)

/-- A handle and the cursor behind it: an exclamation mark, alone or with a name and a
    second one. Without the second one it is the beginning of a suffix. -/
def takeHandle (c : Cursor) : Option (String × Cursor) :=
  match c.rest with
  | '!' :: rest =>
    let name := nameAt rest
    let c := c.skip (1 + name.length)
    if c.rest.head? == some '!' then some ("!" ++ String.ofList name ++ "!", c.skip 1)
    else some ("!" ++ String.ofList name, c)
  | _ => none

/-- Whether a text may follow a tag. -/
def followsTag (inBrackets : Bool) (text : List Char) : Bool :=
  endsWord text || (inBrackets && text.head? == some ',')

/-- The parts of a tag. -/
def tagParts (c : Cursor) : Option ((String × String) × Cursor) :=
  match c.rest with
  | '!' :: '<' :: _ => do
    let (address, c) ← takeAddress true "" false (c.skip 2)
    if c.rest.head? == some '>' then some (("", address), c.skip 1) else none
  | _ => do
    let (handle, c) ← takeHandle c
    if handle.length > 1 && handle.endsWith "!" then
      let (suffix, c) ← takeAddress false "" false c
      return ((handle, suffix), c)
    else
      let (suffix, c) ← takeAddress false (handle.drop 1).toString true c
      return (if suffix.isEmpty then ("", "!") else ("!", suffix), c)

/-- A tag and the cursor behind it. -/
def takeTag (inBrackets : Bool) (c : Cursor) : Option (Token × Cursor) := do
  let ((handle, suffix), c) ← tagParts c
  if followsTag inBrackets c.rest then some (.tag handle suffix, c) else none

/-! ## Directives -/

/-- The number at the beginning of a text, of at most nine digits, and its length. -/
def numberAt (text : List Char) : Option (Nat × Nat) :=
  let digits := text.takeWhile Char.isDigit
  if digits.isEmpty || 9 < digits.length then none
  else (Digits.toNat? 10 digits).map (·, digits.length)

/-- The version of a directive. -/
def takeVersion (c : Cursor) : Option (Token × Cursor) := do
  let c := c.skipWhile isBlank
  let (major, n) ← numberAt c.rest
  let c := c.skip n
  if c.rest.head? != some '.' then none
  let c := c.skip 1
  let (minor, n) ← numberAt c.rest
  return (.version major minor, c.skip n)

/-- The handle of a directive and what it stands for. -/
def takeTagDirective (c : Cursor) : Option (Token × Cursor) := do
  let (handle, c) ← takeHandle (c.skipWhile isBlank)
  if handle != "!" && !handle.endsWith "!" then none
  if !c.rest.head?.any isBlank then none
  let (start, c) ← takeAddress true "" false (c.skipWhile isBlank)
  if endsWord c.rest then some (.tagDirective handle start, c) else none

/-- A directive from behind its sign, with the rest of its line. -/
def takeDirective (c : Cursor) : Option (Token × Cursor) := do
  let name := nameAt c.rest
  let c := c.skip name.length
  if !endsWord c.rest then none
  let (token, c) ←
    if name == "YAML".toList then takeVersion c
    else if name == "TAG".toList then takeTagDirective c
    else none
  let c := c.skipWhile isBlank
  let c := if c.rest.head? == some '#' then c.toLineEnd else c
  if endsLine c.rest then some (token, c.takeBreak.2) else none

end ChatRules.Yaml
