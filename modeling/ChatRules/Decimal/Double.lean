import ChatRules.Word

/-!
# Doubles by their bits

Priorities may be any doubles, and they are ordered by their bits. A double that is no number
has a sign and a payload, which only its bits tell: with the sign it stands below all numbers,
without it above them, and two of one sign stand apart if their payloads do. So a priority is
kept as its bits, and has its value from there. Zeros of both signs are tied.
-/

namespace ChatRules

/-- A double as its bits. -/
structure Double where
  bits : UInt64
deriving DecidableEq, Repr

namespace Double

/-- The double with a value. -/
def ofFloat (x : Float) : Double := ⟨x.toBits⟩

/-- The value of a double. -/
def toFloat (x : Double) : Float := .ofBits x.bits

instance : Coe Float Double := ⟨ofFloat⟩

instance : Coe Double Float := ⟨toFloat⟩

instance (n : Nat) : OfNat Double n := ⟨ofFloat (OfNat.ofNat n)⟩

/-- A number by which doubles are ordered: the bits apart from the sign, and below zero those
    of a double that has the sign. -/
def orderKey (x : Double) : Int :=
  let bits := if x.toFloat == 0 then 0 else x.bits.toNat
  if bits < wordSize 63 then bits else -((bits - wordSize 63 : Nat) : Int) - 1

end Double

end ChatRules
