import ChatRules.Decimal.Read
import ChatRules.Document.Basic
import ChatRules.Word

/-!
# Numbers in JSON texts

A whole number of 64 bits is kept as it is. Any other number is a double, put
together in steps that each round: the digits that fit into 64 bits are a
double, which is multiplied or divided by a power of ten. The result can
therefore miss the nearest double by a unit in the last place.
-/

namespace ChatRules.Json

/-- The largest number of 64 bits without a sign. -/
def maxWord : Nat := wordSize 64 - 1

/-- The significand of a number while its digits are read: later digits that do not
    fit only move the exponent, or are dropped. -/
structure Significand where
  value : Nat
  exponent : Int
  full : Bool

/-- One more digit before the point. -/
def Significand.wholeDigit (s : Significand) (digit : Nat) : Significand :=
  if s.full || maxWord < 10 * s.value + digit then ⟨s.value, s.exponent + 1, true⟩
  else ⟨10 * s.value + digit, s.exponent, false⟩

/-- One more digit after the point; `full` then means that digits are dropped. -/
def Significand.fractionDigit (s : Significand) (digit : Nat) : Significand :=
  if s.full || maxWord < 10 * s.value + digit then ⟨s.value, s.exponent, true⟩
  else ⟨10 * s.value + digit, s.exponent - 1, false⟩

/-- `10^n` as a double. -/
def powerOfTen (n : Nat) : Float := Float.ofScientific 1 false n

/-- A double of at most 64 whole bits divided by a power of ten, in steps of at most
    308 places. After two such steps nothing is left. -/
def scaleDown (x : Float) (n : Nat) : Float :=
  if n ≤ 308 then x / powerOfTen n
  else if n ≤ 616 then x / powerOfTen 308 / powerOfTen (n - 308)
  else 0

/-- The double of a significand and an exponent, if it is in range. -/
def scale (value : Nat) (exponent : Int) : Option Float :=
  let x := Float.ofNat value
  if exponent < 0 then some (scaleDown x exponent.natAbs)
  else if exponent ≤ 308 then some (x * powerOfTen exponent.toNat)
  else if value = 0 then some x
  else none

/-- The largest exponent that is counted exactly. -/
def maxExponent : Nat := wordSize 31 - 1

/-- An exponent within the range that is counted. -/
def clampExponent (e : Int) : Int := max (-(wordSize 31 : Int)) (min maxExponent e)

/-- What a number comes to: a value, or a fault at its place. -/
inductive Numeral where
  | value (n : Number)
  | fault (b : Break)

/-- A double as a number. One that is not finite is out of range. -/
def Numeral.ofFloat (x : Float) : Numeral :=
  if Decimal.isFinite x then .value (.float x) else .fault ⟨.numberOutOfRange, none⟩

/-- The number of a significand and an exponent, with its sign. -/
def Numeral.ofScale (negative : Bool) (s : Significand) (exponent : Int) : Numeral :=
  match scale s.value exponent with
  | some x => .ofFloat (if negative then -x else x)
  | none => .fault ⟨.numberOutOfRange, none⟩

/-- The digits of an exponent, after its sign. -/
def readExponentDigits (negative : Bool) (s : Significand) (down : Bool) (text : List Char) :
    Numeral × Option (List Char) :=
  match text with
  | [] => (.fault ⟨.endInValue, some .invalidNumber⟩, none)
  | c :: _ =>
    if !c.isDigit then (.fault (.hard .invalidNumber), none)
    else
      let e := Decimal.digitsValue (text.takeWhile Char.isDigit)
      let rest := text.dropWhile Char.isDigit
      if maxExponent < e then
        if s.value = 0 || down then (.ofFloat (if negative then -0.0 else 0.0), some rest)
        else (.fault ⟨.numberOutOfRange, none⟩, some rest)
      else
        let exponent := clampExponent (if down then s.exponent - e else s.exponent + e)
        (.ofScale negative s exponent, some rest)

/-- The exponent of a number, read from the text after its mark. -/
def readExponent (negative : Bool) (s : Significand) (text : List Char) :
    Numeral × Option (List Char) :=
  match text with
  | '+' :: rest => readExponentDigits negative s false rest
  | '-' :: rest => readExponentDigits negative s true rest
  | rest => readExponentDigits negative s false rest

/-- The end of a double: an exponent, or nothing. -/
def readEnd (negative : Bool) (s : Significand) (text : List Char) :
    Numeral × Option (List Char) :=
  match text with
  | 'e' :: rest | 'E' :: rest => readExponent negative s rest
  | rest => (.ofScale negative s s.exponent, some rest)

/-- The places of a number, read from the text after its point. -/
def readFraction (negative : Bool) (s : Significand) (text : List Char) :
    Numeral × Option (List Char) :=
  let ds := text.takeWhile Char.isDigit
  let rest := text.dropWhile Char.isDigit
  match ds with
  | [] =>
    match rest with
    | [] => (.fault ⟨.endInValue, some .invalidNumber⟩, none)
    | _ => (.fault (.hard .invalidNumber), none)
  | _ =>
    let s := ds.foldl (fun s c => s.fractionDigit (Decimal.digitValue c)) { s with full := false }
    readEnd negative s rest

/-- A number of whole digits that fit into 64 bits. -/
def Numeral.ofWhole (negative : Bool) (value : Nat) : Numeral :=
  if !negative then .value (.int value)
  else if value = 0 || wordSize 63 < value then .ofFloat (-(Float.ofNat value))
  else .value (.int (-(value : Int)))

/-- What stands after the whole digits of a number. -/
def readAfterWhole (negative : Bool) (s : Significand) (text : List Char) :
    Numeral × Option (List Char) :=
  match text with
  | '.' :: rest => readFraction negative s rest
  | 'e' :: rest | 'E' :: rest => readExponent negative s rest
  | rest => if s.full then readEnd negative s rest else (.ofWhole negative s.value, some rest)

/-- A number without its sign. The answer is the number and the text after it,
    unless nothing can be read after it. -/
def readNumeral (negative : Bool) (text : List Char) : Numeral × Option (List Char) :=
  match text with
  | [] => (.fault ⟨.endInValue, some .invalidNumber⟩, none)
  | c :: _ =>
    let ds := text.takeWhile Char.isDigit
    if !c.isDigit || c = '0' && 1 < ds.length then (.fault (.hard .invalidNumber), none)
    else
      let s := ds.foldl (fun s c => s.wholeDigit (Decimal.digitValue c)) ⟨0, 0, false⟩
      readAfterWhole negative s (text.dropWhile Char.isDigit)

end ChatRules.Json
