/-!
# Sets and maps of code points

A class of characters is a list of runs of code points, a case mapping a list
of shifted runs. Both lists are kept in increasing order, so a look-up stops at
the first run that begins beyond the code point.

Results:

* `contains_of_mem`: in a sorted list, a code point of a run is contained.
-/

namespace ChatRules.Text

/-- The code points `first`, `first + step`, … up to `last`. -/
structure Run where
  first : Nat
  last : Nat
  step : Nat
deriving Repr, DecidableEq

/-- Whether the run holds a code point. -/
def Run.has (r : Run) (n : Nat) : Bool :=
  r.first ≤ n && n ≤ r.last && (n - r.first) % r.step == 0

/-- Whether one of the runs, taken in increasing order, holds a code point. -/
def contains : List Run → Nat → Bool
  | [], _ => false
  | r :: rest, n => if n < r.first then false else r.has n || contains rest n

/-- Whether one of several classes holds a character. -/
def inAny (classes : List (List Run)) (c : Char) : Bool :=
  classes.any (contains · c.toNat)

/-- A run of code points that all move by the same distance. -/
structure Shift where
  first : Nat
  last : Nat
  step : Nat
  distance : Int
deriving Repr, DecidableEq

/-- The run of code points that move. -/
def Shift.run (s : Shift) : Run := ⟨s.first, s.last, s.step⟩

/-- The image of a code point, if one of the shifts, taken in increasing order,
    moves it. -/
def shifted? : List Shift → Nat → Option Nat
  | [], _ => none
  | s :: rest, n =>
    if n < s.first then none
    else if s.run.has n then some (n + s.distance).toNat
    else shifted? rest n

/-- The image of a character: itself unless one of the shifts moves it. -/
def shift (table : List Shift) (c : Char) : Char :=
  match shifted? table c.toNat with
  | some n => Char.ofNat n
  | none => c

theorem contains_of_mem {r : Run} {n : Nat} {runs : List Run}
    (sorted : runs.Pairwise (·.first ≤ ·.first)) (mem : r ∈ runs) (h : r.has n = true) :
    contains runs n = true := by
  induction runs with
  | nil => simp at mem
  | cons s rest ih =>
    have bound : r.first ≤ n := by simp [Run.has] at h; exact h.1.1
    rw [List.pairwise_cons] at sorted
    rcases List.mem_cons.1 mem with rfl | mem
    · simp [contains, Nat.not_lt.2 bound, h]
    · have : s.first ≤ n := Nat.le_trans (sorted.1 r mem) bound
      simp [contains, Nat.not_lt.2 this, ih sorted.2 mem]

end ChatRules.Text
