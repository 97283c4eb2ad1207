import ChatRules.Decimal.Read

/-!
# Instants

A point in time: a day counted from the beginning of 1970, the second of the
day, and the nanoseconds. It is read from a date and time with the distance to
universal time, and written in universal time. A leap second has more than a
thousand million nanoseconds.

Results:

* `seconds_shiftBack`: going back moves an instant by exactly the distance.
* `second_lt_of_ofText?`: the second of an instant that was read lies within its day.
-/

namespace ChatRules

/-- A point in time. -/
structure Instant where
  day : Int
  second : Nat
  nanos : Nat
deriving DecidableEq, Repr

namespace Instant

/-- The day of a date of the Gregorian calendar. A year is taken to begin in March, so
    that the leap day is its last one. -/
def dayOfDate (year : Int) (month day : Nat) : Int :=
  let y := if month ≤ 2 then year - 1 else year
  let era := y.fdiv 400
  let yearOfEra := (y - era * 400).toNat
  let monthFromMarch := (month + 9) % 12
  let dayOfYear := (153 * monthFromMarch + 2) / 5 + day - 1
  let dayOfEra := yearOfEra * 365 + yearOfEra / 4 - yearOfEra / 100 + dayOfYear
  era * 146097 + dayOfEra - 719468

/-- The date of a day: year, month and day of the month. -/
def dateOfDay (day : Int) : Int × Nat × Nat :=
  let z := day + 719468
  let era := z.fdiv 146097
  let dayOfEra := (z - era * 146097).toNat
  let yearOfEra := (dayOfEra - dayOfEra / 1460 + dayOfEra / 36524 - dayOfEra / 146096) / 365
  let dayOfYear := dayOfEra - (365 * yearOfEra + yearOfEra / 4 - yearOfEra / 100)
  let monthFromMarch := (5 * dayOfYear + 2) / 153
  let dayOfMonth := dayOfYear - (153 * monthFromMarch + 2) / 5 + 1
  let month := if monthFromMarch < 10 then monthFromMarch + 3 else monthFromMarch - 9
  (yearOfEra + era * 400 + (if month ≤ 2 then 1 else 0), month, dayOfMonth)

/-- A number with at least so many digits. -/
def padded (digits n : Nat) : String :=
  let ds := Nat.toDigits 10 n
  String.ofList (List.replicate (digits - ds.length) '0' ++ ds)

/-- A year: four digits, with a sign where they do not do. -/
def yearText (year : Int) : String :=
  if 0 ≤ year ∧ year ≤ 9999 then padded 4 year.toNat
  else (if year < 0 then "-" else "+") ++ padded 4 year.natAbs

/-- The fraction of a second: nothing, or three, six or nine digits. -/
def fractionText (nanos : Nat) : String :=
  if nanos = 0 then ""
  else if nanos % 1000000 = 0 then "." ++ padded 3 (nanos / 1000000)
  else if nanos % 1000 = 0 then "." ++ padded 6 (nanos / 1000)
  else "." ++ padded 9 nanos

/-- The instant in universal time. -/
def text (t : Instant) : String :=
  let (year, month, day) := dateOfDay t.day
  yearText year ++ "-" ++ padded 2 month ++ "-" ++ padded 2 day ++ "T" ++
    padded 2 (t.second / 3600) ++ ":" ++ padded 2 (t.second / 60 % 60) ++ ":" ++
    padded 2 (t.second % 60 + t.nanos / 1000000000) ++ fractionText (t.nanos % 1000000000) ++
    "+00:00"

/-- A number of two digits. -/
def twoDigits? (a b : Char) : Option Nat :=
  if a.isDigit && b.isDigit then some (Decimal.digitsValue [a, b]) else none

/-- The distance to universal time in seconds. It is less than a day, and either kind of
    minus sign may stand before it. -/
def offset? : List Char → Option Int
  | ['Z'] | ['z'] => some 0
  | [sign, a, b, ':', c, d] => do
    let hours ← twoDigits? a b
    let minutes ← twoDigits? c d
    let seconds : Int := 3600 * hours + 60 * minutes
    if 59 < minutes || 23 < hours then none
    else if sign = '+' then some seconds
    else if sign = '-' || sign = '−' then some (-seconds)
    else none
  | _ => none

/-- The nanoseconds of a fraction, of which nine digits count, and what follows it. A
    fraction has a digit. -/
def fraction? (text : List Char) : Option (Nat × List Char) :=
  match text with
  | '.' :: rest =>
    let ds := rest.takeWhile Char.isDigit
    let kept := ds.take 9
    if ds.isEmpty then none
    else
      some (Decimal.digitsValue kept * Nat.pow 10 (9 - kept.length), rest.dropWhile Char.isDigit)
  | _ => some (0, text)

/-- The number of days of a month. -/
def daysOfMonth (year : Int) (month : Nat) : Nat :=
  let next := if month = 12 then dayOfDate (year + 1) 1 1 else dayOfDate year (month + 1) 1
  (next - dayOfDate year month 1).toNat

/-- The seconds from the beginning of 1970. -/
def seconds (t : Instant) : Int := t.day * 86400 + t.second

/-- The instant that is a distance earlier. -/
def shiftBack (seconds : Int) (t : Instant) : Instant :=
  let total := t.seconds - seconds
  ⟨total.fdiv 86400, (total.fmod 86400).toNat, t.nanos⟩

theorem second_shiftBack_lt (seconds : Int) (t : Instant) :
    (t.shiftBack seconds).second < 86400 := by
  have lt : (t.seconds - seconds).fmod 86400 < 86400 := Int.fmod_lt_of_pos _ (by omega)
  simp only [shiftBack]
  omega

/-- Going back moves an instant by exactly the distance. -/
theorem seconds_shiftBack (seconds : Int) (t : Instant) :
    (t.shiftBack seconds).seconds = t.seconds - seconds := by
  have nonneg : 0 ≤ (t.seconds - seconds).fmod 86400 := Int.fmod_nonneg_of_pos _ (by omega)
  calc (t.shiftBack seconds).seconds
      = (t.seconds - seconds).fdiv 86400 * 86400 + ((t.seconds - seconds).fmod 86400).toNat := rfl
    _ = 86400 * (t.seconds - seconds).fdiv 86400 + (t.seconds - seconds).fmod 86400 := by
      rw [Int.toNat_of_nonneg nonneg, Int.mul_comm]
    _ = t.seconds - seconds := Int.mul_fdiv_add_fmod _ _

/-- The instant of a date and time with its distance to universal time. -/
def ofChars? : List Char → Option Instant
  | y₁ :: y₂ :: y₃ :: y₄ :: '-' :: m₁ :: m₂ :: '-' :: d₁ :: d₂ :: t :: h₁ :: h₂ :: ':' :: n₁ ::
      n₂ :: ':' :: s₁ :: s₂ :: rest => do
    let year := 100 * (← twoDigits? y₁ y₂) + (← twoDigits? y₃ y₄)
    let month ← twoDigits? m₁ m₂
    let day ← twoDigits? d₁ d₂
    let hour ← twoDigits? h₁ h₂
    let minute ← twoDigits? n₁ n₂
    let second ← twoDigits? s₁ s₂
    let (nanos, rest) ← fraction? rest
    let offset ← offset? rest
    if !(t == 'T' || t == 't' || t == ' ') || month < 1 || 12 < month || day < 1 ||
        daysOfMonth year month < day || 23 < hour || 59 < minute || 60 < second then none
    else
      let leap := second / 60
      let instant : Instant := ⟨dayOfDate year month day,
        3600 * hour + 60 * minute + second - leap, nanos + leap * 1000000000⟩
      some (instant.shiftBack offset)
  | _ => none

/-- The instant of a date and time with its distance to universal time. -/
def ofText? (text : String) : Option Instant := ofChars? text.toList

/-- The second of an instant that was read lies within its day. -/
theorem second_lt_of_ofText? {s : String} {t : Instant} (h : ofText? s = some t) :
    t.second < 86400 := by
  unfold ofText? ofChars? at h
  split at h
  · simp only [Option.bind_eq_bind, Option.bind_eq_some_iff] at h
    obtain ⟨_, -, _, -, _, -, _, -, _, -, _, -, _, -, _, -, offset, -, h⟩ := h
    split at h
    · cases h
    · obtain rfl := Option.some.inj h
      exact second_shiftBack_lt _ _
  · cases h

example : (ofText? "1999-12-31T23:59:59+02:00").map text = some "1999-12-31T21:59:59+00:00" := by
  decide +kernel

example : (ofText? "2024-02-29T00:00:00.25Z").map text = some "2024-02-29T00:00:00.250+00:00" := by
  decide +kernel

end Instant

end ChatRules
