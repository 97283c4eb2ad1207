import ChatRules.Regex.Expr

/-!
# Programs

An expression becomes a list of instructions. A program is built from its end:
each part is given the instruction to go on with. Of two branches the first is
preferred. A loop over a body that can match nothing is entered once before its
own branch, so that it cannot run without consuming anything.
-/

namespace ChatRules.Regex

/-- An instruction, with the instructions that come next. -/
inductive Instr where
  | take (set : CharSet) (next : Nat)
  | look (kind : Look) (next : Nat)
  | split (first second : Nat)
  | done

/-- A program and its first instruction. -/
structure Program where
  code : Array Instr
  start : Nat

/-- A step of building a program. -/
abbrev Builder := StateM (Array Instr)

namespace Builder

/-- Adds an instruction. -/
def push (i : Instr) : Builder Nat := do
  let code ← get
  set (code.push i)
  return code.size

/-- A branch between going on with a body and leaving it. -/
def branch (greedy : Bool) (body next : Nat) : Instr :=
  if greedy then .split body next else .split next body

/-- Puts a part in front, a number of times. -/
def copies (part : Nat → Builder Nat) : Nat → Nat → Builder Nat
  | 0, next => return next
  | n + 1, next => do copies part n (← part next)

/-- A part that may be left out, a number of times one inside the other. -/
def optionals (part : Nat → Builder Nat) (greedy : Bool) (next : Nat) : Nat → Nat → Builder Nat
  | 0, entry => return entry
  | n + 1, entry => do
    let body ← part entry
    optionals part greedy next n (← push (branch greedy body next))

/-- A part that is repeated once or more. The answer is the entry of the part. -/
def atLeastOnce (part : Nat → Builder Nat) (greedy : Bool) (next : Nat) : Builder Nat := do
  let loop ← push .done
  let body ← part loop
  modify fun code => code.setIfInBounds loop (branch greedy body next)
  return body

/-- A part that is repeated any number of times. -/
def anyTimes (part : Nat → Builder Nat) (greedy nullable : Bool) (next : Nat) :
    Builder Nat := do
  if nullable then
    let body ← atLeastOnce part greedy next
    push (branch greedy body next)
  else
    let loop ← push .done
    let body ← part loop
    modify fun code => code.setIfInBounds loop (branch greedy body next)
    return loop

/-- The instructions of an expression, in front of the instruction `next`. The answer is
    the first of them. -/
def emit : Expr → Nat → Builder Nat
  | .empty, next => return next
  | .one set, next => push (.take set next)
  | .look kind, next => push (.look kind next)
  | .seq a b, next => do
    let second ← emit b next
    emit a second
  | .alt a b, next => do
    let second ← emit b next
    let first ← emit a next
    push (.split first second)
  | .loop least most greedy body, next => do
    match most with
    | some most =>
      let rest ← optionals (emit body) greedy next (most - least) next
      copies (emit body) least rest
    | none =>
      match least with
      | 0 => anyTimes (emit body) greedy body.nullable next
      | least + 1 =>
        let last ← atLeastOnce (emit body) greedy next
        copies (emit body) least last

end Builder

/-- The program of an expression. -/
def Expr.program (e : Expr) : Program :=
  let (start, code) := (Builder.emit e 0).run #[.done]
  ⟨code, start⟩

/-! ## Size -/

/-- The size of a set in a program: one unit a byte for a character, and a part of a unit
    for each stretch of a class. -/
def CharSet.weight : CharSet → Nat
  | .none => 32
  | .range low high => if low = high then 32 * low.utf8Size else 96
  | .runs classes => 26 * classes.flatten.length
  | .union a b | .intersection a b => a.weight + b.weight
  | .complement a | .asciiFolded a => a.weight
  | .folded a => 2 * a.weight

/-- The size of the program of an expression. -/
def Expr.weight : Expr → Nat
  | .empty => 0
  | .one set => set.weight
  | .look _ => 32
  | .seq a b => a.weight + b.weight
  | .alt a b => a.weight + b.weight + 40
  | .loop least none _ body => (max least 1) * body.weight + 40
  | .loop least (some most) _ body => max least most * body.weight + (most - least) * 40

/-- The largest size that is allowed. -/
def sizeLimit : Nat := 10485760

end ChatRules.Regex
