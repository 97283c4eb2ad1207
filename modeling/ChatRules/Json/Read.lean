import ChatRules.Digits
import ChatRules.Json.Numeral
import ChatRules.Text.Search

/-!
# Reading JSON texts

A text becomes a document. Reading never fails: where the text breaks off or
goes wrong, the document holds a broken place and ends. Two faults leave the
text after them readable: a number out of range, and half of a surrogate pair.
-/

namespace ChatRules.Json

/-- The blanks between tokens. -/
def isBlank (c : Char) : Bool := c == ' ' || c == '\n' || c == '\t' || c == '\r'

/-- The text from its first character that is no blank. -/
def skipBlanks (text : List Char) : List Char := text.dropWhile isBlank

/-- The number of four digits to base 16, and the text after them. -/
def readHex (text : List Char) : Except Fault (Nat × List Char) :=
  if Text.byteSize (text.take 4) < 4 then .error .endInString
  else
    match text with
    | a :: b :: c :: d :: rest =>
      match Digits.toNat? 16 [a, b, c, d] with
      | some n => .ok (n, rest)
      | none => .error .invalidEscape
    | _ => .error .invalidEscape

/-- A step inside a string: a character, half of a pair, or a fault. -/
inductive EscapeStep where
  | char (c : Char) (rest : List Char)
  | half (f : Fault) (rest : List Char)
  | fault (b : Break)

/-- The second half of a surrogate pair. The text after a first half that stays alone
    is still readable from there on. -/
def readPair (first : Nat) (text : List Char) : EscapeStep :=
  match text with
  | [] => .fault (.hard .endInString)
  | '\\' :: [] => .fault (.hard .endInString)
  | '\\' :: 'u' :: rest =>
    match readHex rest with
    | .error f => .fault (.hard f)
    | .ok (second, rest') =>
      if 0xDC00 ≤ second && second ≤ 0xDFFF then
        .char (Char.ofNat ((first - 0xD800) * 1024 + (second - 0xDC00) + 0x10000)) rest'
      else .half .loneSurrogate text
  | rest => .half .unexpectedEndOfEscape rest

/-- An escape, after its backslash. -/
def readEscape (text : List Char) : EscapeStep :=
  match text with
  | [] => .fault (.hard .endInString)
  | '"' :: rest => .char '"' rest
  | '\\' :: rest => .char '\\' rest
  | '/' :: rest => .char '/' rest
  | 'b' :: rest => .char '\x08' rest
  | 'f' :: rest => .char '\x0c' rest
  | 'n' :: rest => .char '\n' rest
  | 'r' :: rest => .char '\r' rest
  | 't' :: rest => .char '\t' rest
  | 'u' :: rest =>
    match readHex rest with
    | .error f => .fault (.hard f)
    | .ok (n, rest) =>
      if 0xDC00 ≤ n && n ≤ 0xDFFF then .half .loneSurrogate rest
      else if 0xD800 ≤ n && n ≤ 0xDBFF then readPair n rest
      else .char (Char.ofNat n) rest
  | _ => .fault (.hard .invalidEscape)

/-- A string token: its text or its break, and the text after it. -/
structure StringToken where
  content : Except Break String
  rest : Option (List Char)

/-- A break, the first fault of which may have been met before. -/
def breakAfter (half : Option Fault) (b : Break) : Break :=
  match half with
  | some f => ⟨f, b.skip⟩
  | none => b

/-- The rest of a string, of at most `fuel` characters. The characters so far are given
    backwards, with the first half of a pair that stayed alone, if there was one. -/
def readStringFrom (fuel : Nat) (done : List Char) (half : Option Fault)
    (text : List Char) : StringToken :=
  match fuel, text with
  | 0, _ | _, [] => ⟨.error (breakAfter half (.hard .endInString)), none⟩
  | fuel + 1, c :: rest =>
    if c = '"' then
      match half with
      | none => ⟨.ok (String.ofList done.reverse), some rest⟩
      | some f => ⟨.error ⟨f, none⟩, some rest⟩
    else if c = '\\' then
      match readEscape rest with
      | .char c rest => readStringFrom fuel (c :: done) half rest
      | .half f rest => readStringFrom fuel done (half.or (some f)) rest
      | .fault b => ⟨.error (breakAfter half b), none⟩
    else if c.toNat < 32 then ⟨.error (breakAfter half (.hard .controlCharacter)), none⟩
    else readStringFrom fuel (c :: done) half rest

/-- A string, after its opening quote. -/
def readString (text : List Char) : StringToken :=
  readStringFrom (text.length + 1) [] none text

/-- A document and the text after it, if the text can be read on. -/
abbrev Reading := Document × Option (List Char)

/-- The document of a break at which reading ends. -/
def stop (read skip : Fault) : Reading := (.broken ⟨read, some skip⟩, none)

/-- A word such as `true`, the first letter of which has been read. -/
def readWord (letters : List Char) (value : Scalar) (text : List Char) : Reading :=
  match letters, text with
  | [], rest => (.scalar value none, some rest)
  | _ :: _, [] => stop .endInValue .endInValue
  | l :: letters, c :: rest =>
    if l = c then readWord letters value rest else stop .expectedIdent .expectedIdent

/-- A number token as a document. -/
def numeralReading : Numeral × Option (List Char) → Reading
  | (.value n, rest) => (.scalar (.number n) none, rest)
  | (.fault b, rest) => (.broken b, rest)

mutual

/-- The value that begins at a text without leading blanks. -/
def readValue (fuel : Nat) (text : List Char) : Reading :=
  match fuel, text with
  | 0, _ | _, [] => stop .endInValue .endInValue
  | fuel + 1, c :: rest =>
    if c = 'n' then readWord ['u', 'l', 'l'] .null rest
    else if c = 't' then readWord ['r', 'u', 'e'] (.bool true) rest
    else if c = 'f' then readWord ['a', 'l', 's', 'e'] (.bool false) rest
    else if c = '-' then numeralReading (readNumeral true rest)
    else if c.isDigit then numeralReading (readNumeral false (c :: rest))
    else if c = '"' then
      match readString rest with
      | ⟨.ok s, rest⟩ => (.scalar (.text s) none, rest)
      | ⟨.error b, rest⟩ => (.broken b, rest)
    else if c = '[' then
      match readItems fuel true (skipBlanks rest) with
      | (items, rest) => (.list items, rest)
    else if c = '\x7b' then
      match readFields fuel true (skipBlanks rest) with
      | (fields, rest) => (.table fields, rest)
    else stop .expectedValue .expectedValue

/-- The items from a place in a list on, up to its end. -/
def readItems (fuel : Nat) (first : Bool) (text : List Char) :
    List Document × Option (List Char) :=
  let broken (read skip : Fault) : List Document × Option (List Char) :=
    ([.broken ⟨read, some skip⟩], none)
  match fuel, text with
  | 0, _ | _, [] => broken .endInList .endInList
  | fuel + 1, c :: rest =>
    if c = ']' then ([], some rest)
    else if first then itemsWith fuel (c :: rest)
    else if c = ',' then
      match skipBlanks rest with
      | [] => broken .endInValue .endInValue
      | ']' :: _ => broken .trailingComma .expectedValue
      | rest => itemsWith fuel rest
    else broken .expectedCommaOrBracket .expectedCommaOrBracket

/-- An item and those after it. -/
def itemsWith (fuel : Nat) (text : List Char) : List Document × Option (List Char) :=
  match fuel with
  | 0 => ([], none)
  | fuel + 1 =>
    match readValue fuel text with
    | (d, none) => ([d], none)
    | (d, some rest) =>
      match readItems fuel false (skipBlanks rest) with
      | (items, rest) => (d :: items, rest)

/-- The fields from a place in an object on, up to its end. -/
def readFields (fuel : Nat) (first : Bool) (text : List Char) :
    List (Key × Document) × Option (List Char) :=
  let broken (read skip : Fault) : List (Key × Document) × Option (List Char) :=
    ([(.broken ⟨read, some skip⟩, .scalar .null none)], none)
  match fuel, text with
  | 0, _ | _, [] => broken .endInObject .endInObject
  | fuel + 1, c :: rest =>
    if c = '\x7d' then ([], some rest)
    else if first then
      if c = '"' then fieldsWith fuel rest else broken .keyMustBeString .keyMustBeString
    else if c = ',' then
      match skipBlanks rest with
      | [] => broken .endInValue .endInObject
      | '"' :: rest => fieldsWith fuel rest
      | '\x7d' :: _ => broken .trailingComma .keyMustBeString
      | _ => broken .keyMustBeString .keyMustBeString
    else broken .expectedCommaOrBrace .expectedCommaOrBrace

/-- A field, the opening quote of its key read, and those after it. -/
def fieldsWith (fuel : Nat) (text : List Char) : List (Key × Document) × Option (List Char) :=
  match fuel with
  | 0 => ([], none)
  | fuel + 1 =>
    let token := readString text
    let key : Key := match token.content with
      | .ok s => .name s
      | .error b => .broken b
    let ended (f : Fault) : List (Key × Document) × Option (List Char) :=
      ([(key, .broken (.hard f))], none)
    match token.rest with
    | none => ([(key, .scalar .null none)], none)
    | some rest =>
      match skipBlanks rest with
      | ':' :: rest =>
        match readValue fuel (skipBlanks rest) with
        | (d, none) => ([(key, d)], none)
        | (d, some rest) =>
          match readFields fuel false (skipBlanks rest) with
          | (fields, rest) => ((key, d) :: fields, rest)
      | [] => ended .endInObject
      | _ => ended .expectedColon

end

/-- What a JSON text holds: a document, and the fault in what follows it. -/
structure Text where
  root : Document
  trailing : Option Fault

/-- The document of a JSON text. -/
def read (text : String) : Text :=
  let chars := text.toList
  match readValue (3 * chars.length + 3) (skipBlanks chars) with
  | (root, none) => ⟨root, none⟩
  | (root, some rest) =>
    ⟨root, if (skipBlanks rest).isEmpty then none else some .trailingCharacters⟩

/-- The first fault of a text that is read as a whole. -/
def Text.fault? (t : Text) : Option Fault := (t.root.fault? Document.depthLimit).or t.trailing

/-- The value of a JSON text. -/
def parse (text : String) : Except Fault Json :=
  let t := read text
  match t.fault? with
  | some f => .error f
  | none => .ok ((t.root.toJson? false).getD .null)

end ChatRules.Json
