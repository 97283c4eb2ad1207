import ChatRules.Word

/-!
# Random numbers

Chains draw numbers and indices from a source, and nothing that is said of them depends on
which one it is. The command line has a generator of words of 64 bits: a stream cipher of
twelve rounds run on a key that a seed is stretched to. A list of words that is repeated for
ever is another one. An index below a bound is the high half of the product of a word and the
bound; words whose low half falls beyond the last whole zone are drawn again, as long as it
takes.

Models the seeded generator of chains and what is drawn from it (`SPEC_FULL.md` §3.4).

Results:

* `index_lt`: an index is below its bound.
-/

namespace ChatRules

/-- What random numbers are drawn from. -/
class RandomSource (σ : Type) where
  /-- A number from 0 on below 100. -/
  percent : σ → Float × σ
  /-- An index below a bound. -/
  index : σ → Nat → Nat × σ
  index_lt (g : σ) {bound : Nat} : 0 < bound → (index g bound).1 < bound

/-- Draws that are laid down beforehand, and zeros after them. -/
structure Replay where
  draws : List Nat
deriving DecidableEq, Repr

instance : RandomSource Replay where
  percent g := (Float.ofNat (g.draws.headD 0 % 100), ⟨g.draws.tail⟩)
  index g bound := (g.draws.headD 0 % bound, ⟨g.draws.tail⟩)
  index_lt g _ pos := Nat.mod_lt (g.draws.headD 0) pos

/-! ## Generators of words -/

/-- A quarter round on four words. -/
def Cipher.quarter (a b c d : UInt32) : UInt32 × UInt32 × UInt32 × UInt32 :=
  let rotate (x n : UInt32) : UInt32 := (x <<< n) ||| (x >>> (32 - n))
  let a := a + b
  let d := rotate (d ^^^ a) 16
  let c := c + d
  let b := rotate (b ^^^ c) 12
  let a := a + b
  let d := rotate (d ^^^ a) 8
  let c := c + d
  let b := rotate (b ^^^ c) 7
  (a, b, c, d)

namespace Cipher

/-- The sixteen words of a block, as a function of their places. -/
def wordAt (block : List UInt32) (i : Nat) : UInt32 := block.getD i 0

/-- Two rounds: on the columns, then on the diagonals. -/
def doubleRound (x : List UInt32) : List UInt32 :=
  let w := wordAt x
  let (a0, b0, c0, d0) := quarter (w 0) (w 4) (w 8) (w 12)
  let (a1, b1, c1, d1) := quarter (w 1) (w 5) (w 9) (w 13)
  let (a2, b2, c2, d2) := quarter (w 2) (w 6) (w 10) (w 14)
  let (a3, b3, c3, d3) := quarter (w 3) (w 7) (w 11) (w 15)
  let (a0, b1, c2, d3) := quarter a0 b1 c2 d3
  let (a1, b2, c3, d0) := quarter a1 b2 c3 d0
  let (a2, b3, c0, d1) := quarter a2 b3 c0 d1
  let (a3, b0, c1, d2) := quarter a3 b0 c1 d2
  [a0, a1, a2, a3, b0, b1, b2, b3, c0, c1, c2, c3, d0, d1, d2, d3]

/-- The block of a key at a counter. -/
def block (key : List UInt32) (counter : UInt64) : List UInt32 :=
  let constants : List UInt32 := [0x61707865, 0x3320646e, 0x79622d32, 0x6b206574]
  let start := constants ++ key ++ [counter.toUInt32, (counter >>> 32).toUInt32, 0, 0]
  let mixed := (List.range 6).foldl (fun x _ => doubleRound x) start
  List.zipWith (· + ·) mixed start

/-- The words of a key that a seed is stretched to. -/
def stretch : Nat → UInt64 → List UInt32
  | 0, _ => []
  | n + 1, state =>
    let state := state * 6364136223846793005 + 11634580027462260723
    let mixed := (((state >>> 18) ^^^ state) >>> 27).toUInt32
    let turn := (state >>> 59).toUInt32
    let word := if turn = 0 then mixed else (mixed >>> turn) ||| (mixed <<< (32 - turn))
    word :: stretch n state

/-- The key of a seed. -/
def keyOfSeed (seed : Nat) : List UInt32 := stretch 8 seed.toUInt64

end Cipher

/-- A generator of words. -/
inductive Generator where
  /-- A cipher: its key, the counter of the next block, and what is left of the last one. -/
  | cipher (key : List UInt32) (counter : UInt64) (left : List UInt32)
  /-- The words of a list over and over, and what is left of the current turn. -/
  | cycle (words left : List UInt64)
deriving DecidableEq, Repr

namespace Generator

/-- The generator of a seed. -/
def ofSeed (seed : Nat) : Generator := .cipher (Cipher.keyOfSeed seed) 0 []

/-- The generator that repeats a list of words. -/
def ofWords (words : List UInt64) : Generator := .cycle words words

/-- Two words of 32 bits as one, the low half first. -/
def joinWords (low high : UInt32) : UInt64 := (high.toUInt64 <<< 32) ||| low.toUInt64

/-- The next word. -/
def next : Generator → UInt64 × Generator
  | .cipher key counter (low :: high :: left) => (joinWords low high, .cipher key counter left)
  | .cipher key counter _ =>
    match Cipher.block key counter with
    | low :: high :: left => (joinWords low high, .cipher key (counter + 1) left)
    | _ => (0, .cipher key (counter + 1) [])
  | .cycle words (w :: left) => (w, .cycle words left)
  | .cycle (w :: rest) [] => (w, .cycle (w :: rest) rest)
  | .cycle [] [] => (0, .cycle [] [])

/-- The number of zero bits before the first one of a number of 64 bits. -/
def leadingZeros (n : Nat) : Nat := 63 - Nat.log2 n

/-- An index below a bound of 64 bits, unless every word is refused for ever. -/
def index? (g : Generator) (bound : Nat) : Option (Nat × Generator) :=
  let zone := bound * Nat.pow 2 (leadingZeros bound) - 1
  let (w, g) := g.next
  let product := w.toNat * bound
  if product % wordSize 64 ≤ zone then some (product / wordSize 64, g)
  else g |>.index? bound
partial_fixpoint

/-- An index below a bound. -/
def index (g : Generator) (bound : Nat) : Nat × Generator := (g.index? bound).getD (0, g)

/-- A number from 0 on below 100: the upper bits of a word are the fraction of a number
    between 1 and 2. -/
def percent (g : Generator) : Float × Generator :=
  let (w, g) := g.next
  let unit := Float.ofBits ((0x3FF0000000000000 : UInt64) ||| (w >>> 12))
  ((unit - 1) * 100 + 0, g)

theorem mul_div_lt (w : UInt64) {bound : Nat} (h : 0 < bound) :
    w.toNat * bound / wordSize 64 < bound := by
  have : w.toNat < wordSize 64 := w.toNat_lt
  rw [Nat.div_lt_iff_lt_mul (by decide), Nat.mul_comm bound]
  exact Nat.mul_lt_mul_of_pos_right this h

theorem lt_of_index? {g : Generator} {bound : Nat} {r : Nat × Generator} (h : 0 < bound)
    (eq : g.index? bound = some r) : r.1 < bound := by
  -- Along the words that are refused: the index comes from the first one that is taken.
  refine index?.partial_correctness bound (fun _ r => r.1 < bound)
    (fun again ih g r found => ?_) g r eq
  dsimp only at found
  split at found
  · cases found
    exact mul_div_lt _ h
  · exact ih _ _ found

theorem index_lt (g : Generator) {bound : Nat} (h : 0 < bound) : (g.index bound).1 < bound := by
  unfold index
  cases found : g.index? bound with
  | none => exact h
  | some r => exact lt_of_index? h found

instance : RandomSource Generator := ⟨percent, index, index_lt⟩

end Generator

end ChatRules
