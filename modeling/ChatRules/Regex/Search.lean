import ChatRules.Regex.Program

/-!
# Searching

All ways to match are followed at once, a list of threads in order of
preference. A thread that reaches an instruction after another one has reached it
at the same place is dropped: it could only repeat what the other does. The
match is the one that begins first, and of those the preferred one.
-/

namespace ChatRules.Regex

/-- A way to match: the instruction it has come to, and where it began. -/
structure Thread where
  pc : Nat
  start : Nat
deriving Repr

namespace Program

/-- The threads that wait for a character or are done, in order of preference. At most
    `fuel` instructions are looked at. -/
def settle (code : Array Instr) (before after : Option Char) :
    Nat → List Thread → Array Bool → List Thread → List Thread
  | 0, _, _, settled => settled.reverse
  | _ + 1, [], _, settled => settled.reverse
  | fuel + 1, t :: stack, seen, settled =>
    if seen.getD t.pc true then settle code before after fuel stack seen settled
    else
      let seen := seen.setIfInBounds t.pc true
      match code[t.pc]? with
      | some (.split first second) =>
        settle code before after fuel (⟨first, t.start⟩ :: ⟨second, t.start⟩ :: stack) seen settled
      | some (.look kind next) =>
        let stack := if kind.holds before after then ⟨next, t.start⟩ :: stack else stack
        settle code before after fuel stack seen settled
      | some _ => settle code before after fuel stack seen (t :: settled)
      | none => settle code before after fuel stack seen settled

/-- Whether a thread is done. -/
def isDone (code : Array Instr) (t : Thread) : Bool :=
  match code[t.pc]? with
  | some .done => true
  | _ => false

/-- The thread after a character, if it goes on. -/
def advance? (code : Array Instr) (c : Char) (t : Thread) : Option Thread :=
  match code[t.pc]? with
  | some (.take set next) => if set.has c then some ⟨next, t.start⟩ else none
  | _ => none

/-- The first and the last place of the match, in characters. A new thread begins at each
    place as long as nothing has matched; a match ends the threads after it. -/
def span? (p : Program) (before : Option Char) (position : Nat) (threads : List Thread)
    (best : Option (Nat × Nat)) (rest : List Char) : Option (Nat × Nat) :=
  let roots := if best.isNone then threads ++ [⟨p.start, position⟩] else threads
  let fuel := 2 * p.code.size + roots.length + 1
  let live := settle p.code before rest.head? fuel roots (Array.replicate p.code.size false) []
  let preferred := live.takeWhile (!isDone p.code ·)
  let best :=
    match live.find? (isDone p.code) with
    | some t => some (t.start, position)
    | none => best
  match rest with
  | [] => best
  | c :: rest =>
    let threads := preferred.filterMap (advance? p.code c)
    if threads.isEmpty && best.isSome then best
    else span? p (some c) (position + 1) threads best rest

end Program

/-- A match: its text, and the number of bytes before it. -/
structure Match where
  text : String
  index : Nat
deriving DecidableEq, Repr

/-- The first match in a text. -/
def Program.find? (p : Program) (text : String) : Option Match :=
  let cs := text.toList
  (p.span? none 0 [] none cs).map fun (first, last) =>
    { text := String.ofList ((cs.take last).drop first)
      index := (String.ofList (cs.take first)).utf8ByteSize }

end ChatRules.Regex
