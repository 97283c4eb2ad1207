import ChatRules.Word

/-!
# Shortest decimals

A finite double is `m · 2^q`. The reals that round to it form an interval, with
its ends exactly when `m` is even. Of all decimals in that interval the
shortest one is wanted, and of several with that many digits the nearest one. If
two are as near, one convention takes the even one, another the greater one.
A grid `10^e` meets the interval only if one of the value's two neighbours on
that grid does, so only these are tried, from coarse grids to fine ones.
-/

namespace ChatRules.Decimal

/-- A double apart from its sign: the value is `mantissa · 2^exponent`. -/
structure Binary where
  mantissa : Nat
  exponent : Int
deriving Repr, DecidableEq

/-- What a double stands for. -/
inductive Shape where
  | nan
  | infinite (negative : Bool)
  | finite (negative : Bool) (value : Binary)
deriving Repr, DecidableEq

/-- Sign, exponent and fraction of a double, put together. -/
def shape (x : Float) : Shape :=
  let bits : Nat := x.toBits.toNat
  let negative : Bool := bits / wordSize 63 == 1
  let biased : Nat := bits / wordSize 52 % wordSize 11
  let fraction : Nat := bits % wordSize 52
  if biased = 2047 then if fraction = 0 then .infinite negative else .nan
  else if biased = 0 then .finite negative ⟨fraction, -1074⟩
  else .finite negative ⟨wordSize 52 + fraction, (biased : Int) - 1075⟩

/-- A decimal `digits · 10^exponent`. -/
structure Digits where
  digits : Nat
  exponent : Int
deriving Repr, DecidableEq

/-- A positive value and the interval that rounds to it, over one denominator. -/
structure Interval where
  low : Nat
  value : Nat
  high : Nat
  denominator : Nat
  closed : Bool
deriving Repr

/-- The interval of a double: half the distance to its neighbours. The neighbour
    below a power of two is only half as far away. -/
def Binary.interval (b : Binary) : Interval :=
  let below := if b.mantissa = wordSize 52 ∧ -1074 < b.exponent then 1 else 2
  let up := Nat.pow 2 (b.exponent - 2).toNat
  { low := (4 * b.mantissa - below) * up
    value := 4 * b.mantissa * up
    high := (4 * b.mantissa + 2) * up
    denominator := Nat.pow 2 (2 - b.exponent).toNat
    closed := b.mantissa % 2 == 0 }

/-- Whether `d · 10^e` lies in the interval; `scale` is `10^e` over the
    interval's denominator, as a fraction. -/
def Interval.has (i : Interval) (scale : Nat × Nat) (d : Nat) : Bool :=
  let x := d * scale.1
  let low := i.low * scale.2
  let high := i.high * scale.2
  (low < x && x < high) || (i.closed && (x == low || x == high))

/-- `10^e` in units of one over the denominator. -/
def Interval.scale (i : Interval) (e : Int) : Nat × Nat :=
  (Nat.pow 10 e.toNat * i.denominator, Nat.pow 10 (-e).toNat)

/-- Which of two decimals is taken that are as near to the value. -/
inductive Tie where
  | even | up
deriving DecidableEq, Repr

/-- The best decimal on the grid `10^e`: the nearer of the value's neighbours that
    lie in the interval. -/
def Interval.onGrid? (i : Interval) (tie : Tie) (e : Int) : Option Nat :=
  let scale := i.scale e
  let value := i.value * scale.2
  let d := value / scale.1
  let rest := value % scale.1
  match i.has scale d, i.has scale (d + 1) with
  | true, true =>
    if 2 * rest < scale.1 || (2 * rest == scale.1 && tie = .even && d % 2 == 0) then some d
    else some (d + 1)
  | true, false => some d
  | false, true => some (d + 1)
  | false, false => none

/-- The first grid that meets the interval, going down from `e`. -/
def Interval.search (i : Interval) (tie : Tie) : Nat → Int → Digits
  | 0, e => ⟨(i.value * (i.scale e).2) / (i.scale e).1, e⟩
  | steps + 1, e =>
    match i.onGrid? tie e with
    | some d => ⟨d, e⟩
    | none => i.search tie steps (e - 1)

/-- How many decimal digits a number has. -/
def digitCount (n : Nat) : Nat := (Nat.toDigits 10 n).length

/-- The shortest decimal that rounds to a positive double. -/
def Binary.shortest (tie : Tie) (b : Binary) : Digits :=
  let i := b.interval
  let whole := i.value / i.denominator
  let top : Int :=
    if whole = 0 then 1 - (digitCount (i.denominator / i.value) : Int) else digitCount whole
  i.search tie 20 top

end ChatRules.Decimal
