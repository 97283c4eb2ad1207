import ChatRules.Decimal.Spelling

/-!
# Reading numbers

A decimal numeral is an optional sign, digits with at most one point among or
beside them, and an optional exponent. It stands for the double nearest to it.
Beside numerals, the words `inf`, `infinity` and `nan` are read in any case.
-/

namespace ChatRules.Decimal

/-- The value of a digit. -/
def digitValue (c : Char) : Nat := c.toNat - '0'.toNat

/-- The number that a list of digits stands for. -/
def digitsValue (ds : List Char) : Nat := ds.foldl (fun n c => 10 * n + digitValue c) 0

/-- The double nearest to `digits · 10^exponent`. Far beyond the range of doubles
    the answer is known without computing it. -/
def nearest (d : Digits) : Float :=
  if d.digits = 0 then 0
  else
    let first := d.exponent + digitCount d.digits
    if 400 < first then 1.0 / 0.0
    else if first < -400 then 0
    else if d.exponent < 0 then Float.ofScientific d.digits true d.exponent.natAbs
    else Float.ofScientific d.digits false d.exponent.natAbs

/-- The exponent of a numeral, if that is all that is left. -/
def readExponent? : List Char → Option Int
  | [] => some 0
  | mark :: rest =>
    if mark != 'e' && mark != 'E' then none
    else
      let (negative, ds) := match rest with
        | '-' :: ds => (true, ds)
        | '+' :: ds => (false, ds)
        | ds => (false, ds)
      if ds.isEmpty || !ds.all Char.isDigit then none
      else some (if negative then -(digitsValue ds : Int) else digitsValue ds)

/-- An unsigned numeral. -/
def readUnsigned? (text : List Char) : Option Digits :=
  let whole := text.takeWhile Char.isDigit
  let rest := text.dropWhile Char.isDigit
  let (fraction, rest) := match rest with
    | '.' :: rest => (rest.takeWhile Char.isDigit, rest.dropWhile Char.isDigit)
    | rest => ([], rest)
  if whole.isEmpty && fraction.isEmpty then none
  else (readExponent? rest).map fun e => ⟨digitsValue (whole ++ fraction), e - fraction.length⟩

/-- The words that stand for doubles that are no numerals. -/
def readWord? (text : List Char) : Option Float :=
  match String.ofList (text.map Char.toLower) with
  | "inf" | "infinity" => some (1.0 / 0.0)
  | "nan" => some (0.0 / 0.0)
  | _ => none

/-- The double that a text stands for. -/
def read? (text : String) : Option Float :=
  let (negative, body) := match text.toList with
    | '-' :: rest => (true, rest)
    | '+' :: rest => (false, rest)
    | rest => (false, rest)
  let value := match readUnsigned? body with
    | some d => some (nearest d)
    | none => readWord? body
  value.map fun x => if negative then -x else x

end ChatRules.Decimal
