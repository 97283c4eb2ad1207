import ChatRules.Decimal.Read
import ChatRules.Digits
import ChatRules.Document.Basic
import ChatRules.Word

/-!
# What plain scalars stand for

A scalar without quotes is `null`, a truth value or a number if it is spelled
like one, and a text otherwise. Whole numbers may have the base 2, 8, 10 or 16.
A zero before further digits makes a text of what would be a number.

Results:

* `text_of_resolve`: a scalar that stands for a text stands for its own spelling.
-/

namespace ChatRules.Yaml

/-- Whether a word stands for nothing. -/
def isNullWord (s : String) : Bool := s == "null" || s == "Null" || s == "NULL" || s == "~"

/-- The truth value of a word. -/
def boolOf? (s : String) : Option Bool :=
  if s == "true" || s == "True" || s == "TRUE" then some true
  else if s == "false" || s == "False" || s == "FALSE" then some false
  else none

/-- Whether a spelling is a zero before further digits, perhaps with a sign. -/
def hasLeadingZero (text : List Char) : Bool :=
  let digits := match text with
    | '-' :: rest | '+' :: rest => rest
    | _ => text
  match digits with
  | '0' :: d :: rest => (d :: rest).all Char.isDigit
  | _ => false

/-- The number that digits spell after the mark of their base. -/
def basedNat? : List Char → Option Nat
  | '0' :: 'x' :: digits => Digits.toNat? 16 digits
  | '0' :: 'o' :: digits => Digits.toNat? 8 digits
  | '0' :: 'b' :: digits => Digits.toNat? 2 digits
  | _ => none

/-- The whole number that a text spells. -/
def intOf? (text : List Char) : Option Int :=
  let plain (digits : List Char) : Option Nat :=
    if hasLeadingZero text then none else Digits.toNat? 10 digits
  match text with
  | '-' :: digits => ((basedNat? digits).or (plain digits)).map fun n => -(n : Int)
  | '+' :: digits => ((basedNat? digits).or (plain digits)).map fun n => (n : Int)
  | digits => ((basedNat? digits).or (plain digits)).map fun n => (n : Int)

/-- The scalar of a whole number, unless it is beyond all bounds. -/
def intScalar? (i : Int) : Option Scalar :=
  if -(wordSize 63 : Int) ≤ i ∧ i < wordSize 64 then some (.number (.int i))
  else if -(wordSize 127 : Int) ≤ i ∧ i < wordSize 128 then some .oversized
  else none

/-- The double that a text spells. -/
def floatOf? (s : String) : Option Float :=
  let body := match s.toList with
    | '+' :: '+' :: _ | '+' :: '-' :: _ => ""
    | '+' :: rest => String.ofList rest
    | _ => s
  if body == ".inf" || body == ".Inf" || body == ".INF" then some (1.0 / 0.0)
  else if s == "-.inf" || s == "-.Inf" || s == "-.INF" then some (-1.0 / 0.0)
  else if s == ".nan" || s == ".NaN" || s == ".NAN" then some (0.0 / 0.0)
  else (Decimal.read? body).filter Decimal.isFinite

/-- What a plain scalar stands for. -/
def resolve (s : String) : Scalar :=
  let text := s.toList
  if s.isEmpty || isNullWord s then .null
  else
    match boolOf? s with
    | some b => .bool b
    | none =>
      match (intOf? text).bind intScalar? with
      | some n => n
      | none =>
        if hasLeadingZero text then .text s
        else
          match floatOf? s with
          | some x => .number (.float x)
          | none => .text s

theorem intScalar?_ne_text (i : Int) (t : String) : intScalar? i ≠ some (.text t) := by
  grind [intScalar?]

/-- A scalar that stands for a text stands for its own spelling. -/
theorem text_of_resolve {s t : String} (h : resolve s = .text t) : t = s := by
  simp only [resolve] at h
  split at h
  · cases h
  split at h
  · cases h
  split at h
  next n hn =>
    -- No number is a text.
    obtain ⟨i, -, hi⟩ := Option.bind_eq_some_iff.1 hn
    exact absurd (h ▸ hi) (intScalar?_ne_text i t)
  split at h
  · exact (Scalar.text.inj h).symm
  split at h
  · cases h
  · exact (Scalar.text.inj h).symm

/-- The document of a scalar without quotes. -/
def plainDocument (s : String) : Document := .scalar (resolve s) (some s)

/-- The document of a scalar in quotes or in a block. -/
def quotedDocument (s : String) : Document := .scalar (.text s) none

/-- The document of a place where nothing stands. -/
def emptyDocument : Document := plainDocument ""

/-- What stands before the names of the common tags. -/
def commonTag : String := "tag:yaml.org,2002:"

/-- The document of a scalar under a tag. A tag of its own makes a tagged document, a
    common tag decides what the scalar is, and under any other tag it is a text. -/
def taggedScalar (tag : String) (isPlain : Bool) (s : String) : Document :=
  let refused : Document := .tagged (quotedDocument s)
  if tag.startsWith "!" then .tagged (if isPlain then plainDocument s else quotedDocument s)
  else if tag == commonTag ++ "bool" then
    match boolOf? s with
    | some b => .scalar (.bool b) (some s)
    | none => refused
  else if tag == commonTag ++ "int" then
    match (intOf? s.toList).bind intScalar? with
    | some n => .scalar n (some s)
    | none => refused
  else if tag == commonTag ++ "float" then
    match floatOf? s with
    | some x => .scalar (.number (.float x)) (some s)
    | none => refused
  else if tag == commonTag ++ "null" then
    if isNullWord s then .scalar .null (some s) else refused
  else .scalar (.text s) (some s)

end ChatRules.Yaml
