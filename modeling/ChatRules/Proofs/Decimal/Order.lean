import ChatRules.Decimal.Double
import Mathlib

/-!
# The order of doubles by their bits

Priorities are ordered by a whole number that is taken from the bits of a double. This is the
order of their values: without the sign, the bits of a double are a number that grows with the
value, since the exponent stands before the mantissa and subnormal doubles come first. The two
zeros have the same value. Beyond the infinities stand the doubles that are no numbers, on the
side that their sign says, and farther out the greater their bits are.

The comparison of doubles is that of their unpacked forms, and so the bits are related to these.

Results:

* `shows_unpack`: what the bits of a double say of its unpacked form.
* `le_iff_of_shows`: unpacked doubles are compared as their bits are, with the sign.
* `Double.unpack_toFloat`: the value of a double is what its bits say.
* `Double.orderKey_le_iff`: the key of a double orders the numbers by value, and the others by
  sign and payload.
-/

namespace ChatRules

open Float.Model (UnpackedFloat)
open Float.Model.UnpackedFloat (Sign unpackExponent unpackMantissa unpackSign)

namespace Decimal

/-! ## The parts of a word -/

theorem toNat_unpackMantissa (b : BitVec 64) :
    (@unpackMantissa .binary64 b).toNat = b.toNat % 2 ^ 52 := by
  simp [UnpackedFloat.unpackMantissa_def]

theorem toNat_unpackExponent (b : BitVec 64) :
    (@unpackExponent .binary64 b).toNat = b.toNat / 2 ^ 52 % 2 ^ 11 := by
  simp [UnpackedFloat.unpackExponent_def, Nat.shiftRight_eq_div_pow]

theorem toNat_unpackSign (b : BitVec 64) :
    (@unpackSign .binary64 b).toNat = b.toNat / 2 ^ 63 := by
  have lt := b.isLt
  have place : Float.Model.Format.binary64.mantissaBitsWithoutImplicit +
    Float.Model.Format.binary64.exponentBits = 63 := rfl
  rw [UnpackedFloat.unpackSign_def, place, BitVec.extractLsb'_toNat, Nat.shiftRight_eq_div_pow]
  omega

theorem toNat_implicit (m : BitVec 52) : (1#1 ++ m).toNat = 2 ^ 52 + m.toNat := by
  rw [BitVec.toNat_append, ← Nat.shiftLeft_add_eq_or_of_lt m.isLt]
  simp [Nat.shiftLeft_eq]

/-- The sign of a word. -/
def signOf (b : BitVec 64) : Sign := if b.toNat < 2 ^ 63 then .positive else .negative

/-- The word without its sign. -/
def magnitudeOf (b : BitVec 64) : Nat := b.toNat % 2 ^ 63

/-- The magnitude of the infinities. What is above it is no number. -/
def infinite : Nat := 2047 * 2 ^ 52

theorem ofBitVec_unpackSign (b : BitVec 64) :
    Sign.ofBitVec (@unpackSign .binary64 b) = signOf b := by
  have lt := b.isLt
  have bit := toNat_unpackSign b
  unfold Sign.ofBitVec signOf
  by_cases positive : b.toNat < 2 ^ 63
  · have zero : @unpackSign .binary64 b = 0#1 := by
      rw [← BitVec.toNat_inj, bit, BitVec.toNat_ofNat]
      omega
    rw [if_pos positive, zero]
    rfl
  · have nonzero : @unpackSign .binary64 b ≠ 0#1 := by
      rw [ne_eq, ← BitVec.toNat_inj, bit, BitVec.toNat_ofNat]
      omega
    rw [if_neg positive, if_neg nonzero]

/-- A magnitude as a mantissa and an exponent. The mantissa has 53 bits, or the exponent is
    the least one. -/
structure Holds (k m : Nat) (e : Int) : Prop where
  value : (k : Int) = (e + 1074) * 2 ^ 52 + m
  normal : m < 2 ^ 52 ∧ e = -1074 ∨ 2 ^ 52 ≤ m ∧ m < 2 ^ 53 ∧ -1074 ≤ e

/-- What a sign and a magnitude say. -/
inductive Shows (s : Sign) : Nat → UnpackedFloat → Prop
  | zero : Shows s 0 (.zero s)
  | finite {k m : Nat} {e : Int} (pos : 0 < m) (lt : k < infinite) (holds : Holds k m e) :
    Shows s k (.finite s m e pos)
  | infinity : Shows s infinite (.infinity s)
  | notANumber {k : Nat} (gt : infinite < k) : Shows s k .notANumber

theorem unpackMantissa_eq_zero_iff (b : BitVec 64) :
    @unpackMantissa .binary64 b = 0#52 ↔ b.toNat % 2 ^ 52 = 0 := by
  rw [← BitVec.toNat_inj, toNat_unpackMantissa]
  rfl

theorem unpackExponent_eq_zero_iff (b : BitVec 64) :
    @unpackExponent .binary64 b = 0#11 ↔ b.toNat / 2 ^ 52 % 2 ^ 11 = 0 := by
  rw [← BitVec.toNat_inj, toNat_unpackExponent]
  rfl

theorem unpackExponent_eq_top_iff (b : BitVec 64) :
    @unpackExponent .binary64 b = -1#11 ↔ b.toNat / 2 ^ 52 % 2 ^ 11 = 2047 := by
  rw [← BitVec.toNat_inj, toNat_unpackExponent]
  rfl

theorem shows_unpack (b : BitVec 64) :
    Shows (signOf b) (magnitudeOf b) (UnpackedFloat.unpack .binary64 b) := by
  have bias : ((Float.Model.Format.binary64.exponentBias : Nat) : Int) +
    (Float.Model.Format.binary64.mantissaBitsWithoutImplicit : Nat) = 1075 := by decide
  unfold UnpackedFloat.unpack magnitudeOf
  dsimp only
  rw [bias, ofBitVec_unpackSign]
  split
  · rename_i top
    have top := (unpackExponent_eq_top_iff b).1 top
    split
    · rename_i zero
      have zero := (unpackMantissa_eq_zero_iff b).1 zero
      have infinity : b.toNat % 2 ^ 63 = infinite := by
        unfold infinite
        omega
      rw [infinity]
      exact .infinity
    · rename_i nonzero
      have nonzero := mt (unpackMantissa_eq_zero_iff b).2 nonzero
      refine .notANumber ?_
      unfold infinite
      omega
  · rename_i notTop
    have notTop := mt (unpackExponent_eq_top_iff b).2 notTop
    have finite : b.toNat % 2 ^ 63 < infinite := by
      unfold infinite
      omega
    split
    · -- A subnormal double has the exponent of the least normal ones.
      rename_i least
      have least := (unpackExponent_eq_zero_iff b).1 least
      split
      · rename_i zero
        have zero := (unpackMantissa_eq_zero_iff b).1 zero
        have none : b.toNat % 2 ^ 63 = 0 := by omega
        rw [none]
        exact .zero
      · refine .finite _ finite ⟨?_, ?_⟩
        · rw [toNat_unpackMantissa, toNat_unpackExponent]
          omega
        · rw [toNat_unpackMantissa, toNat_unpackExponent]
          omega
    · rename_i normal
      have normal := mt (unpackExponent_eq_zero_iff b).2 normal
      refine .finite _ finite ⟨?_, ?_⟩
      · rw [toNat_implicit, toNat_unpackMantissa, toNat_unpackExponent]
        omega
      · rw [toNat_implicit, toNat_unpackMantissa, toNat_unpackExponent]
        omega

/-! ## Comparing unpacked doubles -/

section

variable {s t : Sign} {k l m n : Nat} {e f : Int} {u v : UnpackedFloat}

theorem Holds.pos (h : Holds k m e) (pos : 0 < m) : 0 < k := by
  obtain ⟨value, normal⟩ := h
  omega

/-- Exponents count before mantissas. -/
theorem isLE_then_iff (hk : Holds k m e) (hl : Holds l n f) :
    ((compare e f).then (compare m n)).isLE = true ↔ k ≤ l := by
  obtain ⟨valueK, normalK⟩ := hk
  obtain ⟨valueL, normalL⟩ := hl
  rw [Ordering.isLE_then_iff_or, Int.compare_eq_lt, Int.compare_eq_eq, Nat.isLE_compare]
  omega

/-- Two finite doubles. -/
theorem le_finite_iff (posM : 0 < m) (posN : 0 < n) (hk : Holds k m e) (hl : Holds l n f) :
    UnpackedFloat.le (.finite s m e posM) (.finite t n f posN) = true ↔
      s.apply k ≤ t.apply l := by
  have posK : 0 < k := hk.pos posM
  have posL : 0 < l := hl.pos posN
  unfold UnpackedFloat.le
  cases s with
  | positive =>
    cases t with
    | positive =>
      simp only [UnpackedFloat.compare, Option.any_some, Sign.apply]
      rw [isLE_then_iff hk hl]
      omega
    | negative =>
      simp [UnpackedFloat.compare, Sign.apply, Ordering.isLE]
      omega
  | negative =>
    cases t with
    | positive =>
      simp only [UnpackedFloat.compare, Option.any_some, Sign.apply, Ordering.isLE, true_iff]
      omega
    | negative =>
      simp only [UnpackedFloat.compare, Option.any_some, Sign.apply]
      rw [Ordering.swap_then, Int.compare_swap, Nat.compare_swap,
        isLE_then_iff hl hk]
      omega

/-- Doubles that are numbers are compared by their magnitudes with the sign. -/
theorem le_iff_of_shows (hu : Shows s k u) (hv : Shows t l v) (hk : k ≤ infinite)
    (hl : l ≤ infinite) : u.le v = true ↔ s.apply k ≤ t.apply l := by
  cases hu with
  | notANumber gt => omega
  | zero =>
    cases hv with
    | notANumber gt => omega
    | zero => cases s <;> cases t <;> decide
    | infinity => cases s <;> cases t <;> decide
    | finite pos _ holds =>
      have := holds.pos pos
      cases s <;> cases t <;>
        simp [UnpackedFloat.le, UnpackedFloat.compare, Sign.apply, Ordering.isLE] <;> omega
  | infinity =>
    cases hv with
    | notANumber gt => omega
    | zero => cases s <;> cases t <;> decide
    | infinity => cases s <;> cases t <;> decide
    | finite =>
      cases s <;> cases t <;>
        simp [UnpackedFloat.le, UnpackedFloat.compare, Sign.apply, Ordering.isLE] <;> omega
  | finite posM _ holdsK =>
    have posK := holdsK.pos posM
    cases hv with
    | notANumber gt => omega
    | finite posN _ holdsL => exact le_finite_iff posM posN holdsK holdsL
    | zero =>
      cases s <;> cases t <;>
        simp [UnpackedFloat.le, UnpackedFloat.compare, Sign.apply, Ordering.isLE] <;> omega
    | infinity =>
      cases s <;> cases t <;>
        simp [UnpackedFloat.le, UnpackedFloat.compare, Sign.apply, Ordering.isLE] <;> omega

theorem beq_zero_iff_of_shows (hu : Shows s k u) : u.beq (.zero .positive) = true ↔ k = 0 := by
  cases hu with
  | zero => cases s <;> decide
  | infinity => cases s <;> decide
  | finite pos _ holds =>
    have := holds.pos pos
    cases s <;> simp [UnpackedFloat.beq, UnpackedFloat.compare] <;> omega
  | notANumber gt =>
    simp [UnpackedFloat.beq, UnpackedFloat.compare]
    omega

theorem isNaN_iff_of_shows (hu : Shows s k u) : u.isNaN = true ↔ infinite < k := by
  cases hu with
  | zero => simp [UnpackedFloat.isNaN]
  | infinity => simp [UnpackedFloat.isNaN]
  | finite _ lt => simpa [UnpackedFloat.isNaN] using Nat.le_of_lt lt
  | notANumber gt => simpa [UnpackedFloat.isNaN] using gt

end

end Decimal

/-! ## The key of a double -/

namespace Double

open Decimal

variable (x y : Double)

@[simp] theorem toFloat_ofFloat (v : Float) : (ofFloat v).toFloat = v := Float.ofBits_toBits v

/-- **The value of a double is what its bits say.** A double that is no number has lost its
    sign and its payload there, and its unpacked form has neither. -/
theorem unpack_toFloat :
    x.toFloat.toModel.unpack = UnpackedFloat.unpack .binary64 x.bits.toBitVec := by
  have packed := @UnpackedFloat.pack_unpack .binary64 x.bits.toBitVec (by decide)
  have unpacked : x.toFloat.toModel.unpack = UnpackedFloat.unpack .binary64
      ((UnpackedFloat.unpack .binary64 x.bits.toBitVec).pack .binary64) := rfl
  rw [unpacked, packed]
  split
  · rename_i nan
    simp only [UnpackedFloat.isNaNBits, decide_eq_true_eq] at nan
    rw [UnpackedFloat.unpack_packedNaN, UnpackedFloat.unpack]
    simp only [if_pos nan.1, if_neg nan.2]
  · rfl

/-- The sign of a double. -/
def sign : Sign := signOf x.bits.toBitVec

/-- The bits of a double apart from its sign. -/
def magnitude : Nat := magnitudeOf x.bits.toBitVec

/-- The magnitude with its sign. -/
def signedBits : Int := x.sign.apply x.magnitude

theorem shows_toFloat : Shows x.sign x.magnitude x.toFloat.toModel.unpack := by
  rw [unpack_toFloat]
  exact shows_unpack x.bits.toBitVec

theorem isNaN_iff : x.toFloat.isNaN = true ↔ infinite < x.magnitude :=
  isNaN_iff_of_shows (shows_toFloat x)

theorem unpack_zero : (0 : Float).toModel.unpack = .zero .positive := by
  have bits : (0 : Float).toBits.toBitVec = UnpackedFloat.packedZero .binary64 .positive := by
    decide +kernel
  exact (congrArg (UnpackedFloat.unpack .binary64) bits).trans UnpackedFloat.unpack_packedZero

theorem beq_zero_iff : (x.toFloat == 0) = true ↔ x.magnitude = 0 := by
  rw [← beq_zero_iff_of_shows (shows_toFloat x), ← unpack_zero]
  rfl

/-- The key is one less below zero, which leaves the order as it is. -/
theorem orderKey_eq :
    orderKey x = if signedBits x < 0 then signedBits x - 1 else signedBits x := by
  have lt := x.bits.toNat_lt
  have size : wordSize 63 = 2 ^ 63 := rfl
  have bits : x.bits.toBitVec.toNat = x.bits.toNat := rfl
  have isZero := beq_zero_iff x
  unfold orderKey signedBits sign signOf
  unfold magnitude magnitudeOf at isZero ⊢
  rw [size, bits] at *
  dsimp only
  by_cases zero : (x.toFloat == 0) = true
  · have none := isZero.1 zero
    have noMagnitude (s : Sign) : s.apply (0 : Nat) = 0 := by cases s <;> rfl
    rw [if_pos zero, none, noMagnitude]
    rfl
  · have some := mt isZero.2 zero
    rw [if_neg zero]
    by_cases positive : x.bits.toNat < 2 ^ 63
    · simp only [if_pos positive, Sign.apply]
      omega
    · simp only [if_neg positive, Sign.apply]
      omega

/-! ## The order of doubles -/

/-- Where a double stands: among the numbers, or below or above all of them. -/
inductive Standing where
  | below | among | above
deriving DecidableEq, Repr

/-- Where a double stands. One that is no number stands where its sign says. -/
def standing : Standing :=
  if x.toFloat.isNaN then if x.bits.toNat < 2 ^ 63 then .above else .below else .among

/-- The order of all doubles: numbers by value, and those on one side of the numbers by their
    bits, the greater ones farther out. -/
def AtMost : Prop :=
  match x.standing, y.standing with
  | .among, .among => x.toFloat ≤ y.toFloat
  | .below, .below => y.bits ≤ x.bits
  | .above, .above => x.bits ≤ y.bits
  | .below, _ => True
  | _, .above => True
  | _, _ => False

variable {x y}

/-- What the standing of a double says of its bits. -/
inductive Stands (x : Double) : Standing → Prop
  | below (beyond : signedBits x < -infinite) (bits : signedBits x = 2 ^ 63 - x.bits.toNat) :
    Stands x .below
  | among (le : x.magnitude ≤ infinite) (least : -infinite ≤ signedBits x)
    (greatest : signedBits x ≤ infinite) : Stands x .among
  | above (beyond : infinite < signedBits x) (bits : signedBits x = x.bits.toNat) : Stands x .above

theorem stands_standing (x : Double) : Stands x x.standing := by
  have lt := x.bits.toNat_lt
  have bits : x.bits.toBitVec.toNat = x.bits.toNat := rfl
  have nan := isNaN_iff x
  have signed : signedBits x =
      if x.bits.toNat < 2 ^ 63 then (x.magnitude : Int) else -x.magnitude := by
    unfold signedBits sign signOf
    rw [bits]
    split <;> rfl
  have magnitude : x.magnitude = x.bits.toNat % 2 ^ 63 := rfl
  unfold standing
  by_cases none : x.toFloat.isNaN = true
  · have beyond := nan.1 none
    rw [if_pos none]
    by_cases positive : x.bits.toNat < 2 ^ 63
    · rw [if_pos positive] at signed ⊢
      exact .above (by omega) (by omega)
    · rw [if_neg positive] at signed ⊢
      exact .below (by omega) (by omega)
  · have within := mt nan.2 none
    rw [if_neg none]
    refine .among (by omega) ?_ ?_
    · split at signed <;> omega
    · split at signed <;> omega

/-- **The key orders the numbers by value, and the others by sign and payload.** -/
theorem orderKey_le_iff : orderKey x ≤ orderKey y ↔ AtMost x y := by
  have keys : orderKey x ≤ orderKey y ↔ signedBits x ≤ signedBits y := by
    rw [orderKey_eq, orderKey_eq]
    omega
  have standsX := stands_standing x
  have standsY := stands_standing y
  rw [keys, AtMost]
  generalize x.standing = atX at *
  generalize y.standing = atY at *
  cases standsX with
  | below beyondX bitsX =>
    cases standsY with
    | below _ bitsY =>
      simp only [UInt64.le_iff_toNat_le]
      omega
    | among _ least _ => simp only [iff_true]; omega
    | above beyondY _ => simp only [iff_true]; omega
  | among leX leastX greatestX =>
    cases standsY with
    | below beyondY _ => simp only [iff_false]; omega
    | among leY _ _ =>
      have compared := le_iff_of_shows (shows_toFloat x) (shows_toFloat y) leX leY
      rw [signedBits, signedBits, ← compared]
      exact decide_eq_true_iff.symm
    | above beyondY _ => simp only [iff_true]; omega
  | above beyondX bitsX =>
    cases standsY with
    | below beyondY _ => simp only [iff_false]; omega
    | among _ _ greatestY => simp only [iff_false]; omega
    | above _ bitsY =>
      simp only [UInt64.le_iff_toNat_le]
      omega

instance (x y : Double) : Decidable (AtMost x y) := decidable_of_iff _ orderKey_le_iff

end Double

end ChatRules
