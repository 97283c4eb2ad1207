import ChatRules.Decimal.Shortest

/-!
# Writing numbers

The spellings of a double in the texts of this library. All of them write the
shortest digits that read back. They differ in where positional notation ends,
in the mark of a whole number, in the sign of an exponent, in the words for what
is no number and in the choice between two decimals that are as near.
-/

namespace ChatRules.Decimal

/-- One way to write doubles. -/
structure Spelling where
  /-- The exponents of the first digit that are written positionally. -/
  positional : Int → Bool
  /-- Whether a whole number ends in `.0`. -/
  pointZero : Bool
  /-- Whether a positive exponent has a sign. -/
  plusSign : Bool
  /-- The word for an infinity, a negative one if so. -/
  infinity : Bool → String
  nan : String
  /-- Which of two decimals is written that are as near. -/
  tie : Tie

/-- JSON documents: an exponent from 10^16 on and below 10^-5. -/
def Spelling.json : Spelling :=
  ⟨fun e => -5 ≤ e && e < 16, true, true, fun _ => "null", "null", .even⟩

/-- YAML documents: as in JSON, but for the sign of the exponent. -/
def Spelling.yaml : Spelling :=
  ⟨fun e => -5 ≤ e && e < 16, true, false, fun negative => if negative then "-.inf" else ".inf",
    ".nan", .even⟩

/-- Running text: never an exponent. -/
def Spelling.plain : Spelling :=
  ⟨fun _ => true, false, false, fun negative => if negative then "-inf" else "inf", "NaN",
    .up⟩

/-- Dumps of values. -/
def Spelling.dump : Spelling :=
  { plain with positional := fun e => -5 ≤ e && e < 16, pointZero := true }

/-- Digits in positional notation: the text before the point and the text after it. -/
def positionalParts (ds : List Char) (exponent : Int) : List Char × List Char :=
  if 0 ≤ exponent then (ds ++ List.replicate exponent.toNat '0', [])
  else
    let places := (-exponent).toNat
    if ds.length ≤ places then (['0'], List.replicate (places - ds.length) '0' ++ ds)
    else (ds.take (ds.length - places), ds.drop (ds.length - places))

/-- Digits in positional notation. -/
def Spelling.positionalText (n : Spelling) (ds : List Char) (exponent : Int) : List Char :=
  match positionalParts ds exponent with
  | (whole, []) => if n.pointZero then whole ++ ['.', '0'] else whole
  | (whole, fraction) => whole ++ '.' :: fraction

/-- Digits with an exponent: one digit before the point. -/
def Spelling.exponentText (n : Spelling) (ds : List Char) (first : Int) : List Char :=
  let sign := if first < 0 then ['-'] else if n.plusSign then ['+'] else []
  let exponent := 'e' :: sign ++ Nat.toDigits 10 first.natAbs
  match ds with
  | d :: d' :: rest => d :: '.' :: d' :: rest ++ exponent
  | _ => ds ++ exponent

/-- The digits of a decimal without the zeros at its end. -/
def Digits.trimmed (d : Digits) : List Char × Int :=
  let ds := Nat.toDigits 10 d.digits
  let kept := (ds.reverse.dropWhile (· == '0')).reverse
  (kept, d.exponent + (ds.length - kept.length))

/-- The text of a double without its sign. -/
def Spelling.magnitude (n : Spelling) (b : Binary) : List Char :=
  if b.mantissa = 0 then n.positionalText ['0'] 0
  else
    let (ds, exponent) := (b.shortest n.tie).trimmed
    let first := exponent + ds.length - 1
    if n.positional first then n.positionalText ds exponent else n.exponentText ds first

/-- The text of a double. -/
def Spelling.write (n : Spelling) (x : Float) : String :=
  match shape x with
  | .nan => n.nan
  | .infinite negative => n.infinity negative
  | .finite negative b =>
    String.ofList (if negative then '-' :: n.magnitude b else n.magnitude b)

/-- A quotient rounded to a whole number, a tie to the even neighbour. -/
def roundDiv (numerator denominator : Nat) : Nat :=
  let q := numerator / denominator
  let r := numerator % denominator
  if 2 * r < denominator || (2 * r == denominator && q % 2 == 0) then q else q + 1

/-- A double with a fixed number of places, rounded from its exact value. -/
def fixed (places : Nat) (x : Float) : String :=
  match shape x with
  | .nan => "NaN"
  | .infinite negative => if negative then "-inf" else "inf"
  | .finite negative b =>
    let n := roundDiv (b.mantissa * Nat.pow 2 b.exponent.toNat * Nat.pow 10 places)
      (Nat.pow 2 (-b.exponent).toNat)
    let ds := Nat.toDigits 10 n
    let ds := List.replicate (places + 1 - ds.length) '0' ++ ds
    let whole := ds.take (ds.length - places)
    let fraction := ds.drop (ds.length - places)
    let text := if places = 0 then whole else whole ++ '.' :: fraction
    String.ofList (if negative then '-' :: text else text)

/-- Whether a double is a whole number. -/
def isWhole (x : Float) : Bool :=
  match shape x with
  | .finite _ b => 0 ≤ b.exponent || b.mantissa % Nat.pow 2 (-b.exponent).toNat == 0
  | _ => false

/-- The whole number that a double is, its fraction cut off. -/
def truncated (x : Float) : Int :=
  match shape x with
  | .finite negative b =>
    let n := b.mantissa * Nat.pow 2 b.exponent.toNat / Nat.pow 2 (-b.exponent).toNat
    if negative then -(n : Int) else n
  | _ => 0

/-- Whether a double is neither infinite nor no number. -/
def isFinite (x : Float) : Bool :=
  match shape x with
  | .finite _ _ => true
  | _ => false

end ChatRules.Decimal
