import ChatRules.EffectTree
import ChatRules.Rule.Basic

/-!
# Patches

A patch is one text write to the context, made on behalf of a rule. The fragments
of an effect tree are patches that append, one for each fragment.

Models `Patch` and `patches_for` (`SPEC_FULL.md` §2.6).

Results:

* `ofEffects_length`: there are as many patches as fragments.
-/

namespace ChatRules

/-- A text write on behalf of a rule. -/
structure Patch where
  ruleId : String
  path : String
  op : WriteOp
  value : String
deriving DecidableEq, Repr

namespace Patch

/-- The patch as an object. -/
def toJson (p : Patch) : Json :=
  .object [("ruleId", .string p.ruleId), ("path", .string p.path), ("op", .string p.op.word),
    ("value", .string p.value)]

/-- The patch on a line. -/
def text (p : Patch) : String :=
  p.ruleId ++ " " ++ p.op.word ++ " " ++ p.path ++ " " ++ Text.quoted p.value

/-- The patches of an effect tree. -/
def ofEffects (ruleId : String) (t : EffectTree) : List Patch :=
  t.leaves.flatMap fun (path, values) => values.map fun v => ⟨ruleId, path, .append, v⟩

theorem ofEffects_length (ruleId : String) (t : EffectTree) :
    (ofEffects ruleId t).length = (t.leaves.flatMap Prod.snd).length := by
  simp [ofEffects, List.length_flatMap]

end Patch

end ChatRules
