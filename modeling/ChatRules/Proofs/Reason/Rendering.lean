import ChatRules.Proofs.Condition.Shape
import ChatRules.Proofs.Json.Characters
import Mathlib.Data.List.Basic

/-!
# Reasons as texts

A reason is printed with one line for itself and for every reason below it, in the order in which
they are reached and two blanks deeper each level. The details of a reason may hold any texts,
but on its line there is no line break, since values are printed without control characters. So
the lines of the text are the lines of the reasons, and the tree can be read from their
indentation.

Results:

* `Reason.induction_parts`: what passes from the parts to the whole holds of every reason.
* `Reason.splitOn_render`: the lines of the text.
* `Reason.ofText_render`: what the text reads as.
* `Reason.render_lines`: both, for every reason.
-/

namespace ChatRules

/-! ## Indented texts -/

/-- What an indented text says: lines with lines below them. -/
inductive Outline where
  | node (line : List Char) (parts : List Outline)

namespace Outline

/-- The depth of a line, two blanks for each level, and the line without them. -/
def readLine (line : List Char) : Nat × List Char :=
  ((line.takeWhile (· == ' ')).length / 2, line.dropWhile (· == ' '))

/-- A line before outlines with their depths: those that follow it deeper are below it. -/
def place (line : Nat × List Char) (after : List (Nat × Outline)) : List (Nat × Outline) :=
  (line.1, node line.2 ((after.takeWhile fun o => line.1 < o.1).map (·.2))) ::
    after.dropWhile fun o => line.1 < o.1

/-- The outlines of lines with their depths. -/
def ofLines (lines : List (Nat × List Char)) : List Outline := (lines.foldr place []).map (·.2)

/-- The outlines of a text. Nothing but the indentation says what is below what. -/
def ofText (text : String) : List Outline := ofLines ((text.toList.splitOn '\n').map readLine)

/-- Whether outlines begin at a depth or above it, so that none of them is below a line there. -/
def BeginsAt (depth : Nat) (after : List (Nat × Outline)) : Prop := ∀ o ∈ after.head?, o.1 ≤ depth

/-- A line takes the outlines that are deeper, up to the first one that is not. -/
theorem place_append {depth : Nat} {below after : List (Nat × Outline)} (line : List Char)
    (deeper : ∀ o ∈ below, depth < o.1) (begins : BeginsAt depth after) :
    place (depth, line) (below ++ after) = (depth, node line (below.map (·.2))) :: after := by
  have deep : ∀ o ∈ below, decide (depth < o.1) = true := fun o mem =>
    decide_eq_true (deeper o mem)
  have stops : after.takeWhile (fun o => depth < o.1) = [] ∧
      after.dropWhile (fun o => depth < o.1) = after := by
    cases after with
    | nil => exact ⟨rfl, rfl⟩
    | cons o rest =>
      have shallow : ¬ decide (depth < o.1) = true := by
        simpa using begins o rfl
      exact ⟨List.takeWhile_cons_of_neg shallow, List.dropWhile_cons_of_neg shallow⟩
  rw [place, List.takeWhile_append_of_pos deep, List.dropWhile_append_of_pos deep, stops.1,
    stops.2, List.append_nil]

end Outline

namespace Reason

/-! ## Parts -/

/-- The reasons directly below one: those of a conjunction or disjunction, and then the one that
    is negated. -/
def parts (r : Reason) : List Reason := r.children ++ r.child.toList

/-- What passes from the parts of reasons to the reasons holds of all. -/
theorem induction_parts {P : Reason → Prop} (step : ∀ r, (∀ q ∈ r.parts, P q) → P r)
    (r : Reason) : P r :=
  @Reason.rec P (fun children => ∀ q ∈ children, P q) (fun child => ∀ q ∈ child.toList, P q)
    (fun _ _ _ _ _ inChildren inChild =>
      step _ fun q mem => (List.mem_append.1 mem).elim (inChildren q) (inChild q))
    (by simp) (fun _ _ first rest => List.forall_mem_cons.2 ⟨first, rest⟩) (by simp) (by simp) r

mutual

/-- A reason and the reasons below it with their depths; a reason comes before its parts, and
    the reasons of a conjunction or disjunction before the one that is negated. -/
def nodesAt (depth : Nat) : Reason → List (Nat × Reason)
  | .mk kind ok details children child =>
    (depth, .mk kind ok details children child) ::
      (childrenNodesAt (depth + 1) children ++ childNodesAt (depth + 1) child)

/-- The nodes of several reasons. -/
def childrenNodesAt (depth : Nat) : List Reason → List (Nat × Reason)
  | [] => []
  | r :: rest => r.nodesAt depth ++ childrenNodesAt depth rest

/-- The nodes of a reason that may be absent. -/
def childNodesAt (depth : Nat) : Option Reason → List (Nat × Reason)
  | none => []
  | some r => r.nodesAt depth

end

mutual

/-- The outline of a reason: its line, and the outlines of its parts. -/
def outline : Reason → Outline
  | .mk kind ok details children child =>
    .node (mk kind ok details children child).line.toList
      (childrenOutlines children ++ childOutlines child)

/-- The outlines of several reasons. -/
def childrenOutlines : List Reason → List Outline
  | [] => []
  | r :: rest => r.outline :: childrenOutlines rest

/-- The outline of a reason that may be absent. -/
def childOutlines : Option Reason → List Outline
  | none => []
  | some r => [r.outline]

end

/-- What is listed for the children one by one, and then for the child, is listed for the parts. -/
theorem flatMap_parts {α : Type} (one : Reason → List α) (many : List Reason → List α)
    (optional : Option Reason → List α) (nil : many [] = [])
    (cons : ∀ q rest, many (q :: rest) = one q ++ many rest) (absent : optional none = [])
    (present : ∀ q, optional (some q) = one q) (r : Reason) :
    many r.children ++ optional r.child = r.parts.flatMap one := by
  have all (children : List Reason) : many children = children.flatMap one := by
    induction children with
    | nil => exact nil
    | cons q rest ih => rw [cons, ih, List.flatMap_cons]
  rw [parts, List.flatMap_append, all]
  cases r.child with
  | none => rw [absent, Option.toList_none, List.flatMap_nil]
  | some q => rw [present, Option.toList_some, List.flatMap_singleton]

theorem nodesAt_eq (depth : Nat) (r : Reason) :
    r.nodesAt depth = (depth, r) :: r.parts.flatMap (nodesAt (depth + 1)) := by
  rw [← flatMap_parts (nodesAt (depth + 1)) (childrenNodesAt (depth + 1))
    (childNodesAt (depth + 1)) rfl (fun _ _ => rfl) rfl (fun _ => rfl)]
  cases r
  rfl

theorem nodes_eq (r : Reason) : r.nodes = r :: r.parts.flatMap nodes := by
  rw [← flatMap_parts nodes childrenNodes childNodes rfl (fun _ _ => rfl) rfl (fun _ => rfl)]
  cases r
  rfl

theorem linesAt_eq (depth : Nat) (r : Reason) :
    r.linesAt depth =
      ("".pushn ' ' (2 * depth) ++ r.line) :: r.parts.flatMap (linesAt (depth + 1)) := by
  rw [← flatMap_parts (linesAt (depth + 1)) (childrenLines (depth + 1))
    (childLines (depth + 1)) rfl (fun _ _ => rfl) rfl (fun _ => rfl)]
  cases r
  rfl

theorem outline_eq (r : Reason) : r.outline = .node r.line.toList (r.parts.map outline) := by
  rw [List.map_eq_flatMap, ← flatMap_parts (fun q => [q.outline]) childrenOutlines
    childOutlines rfl (fun _ _ => rfl) rfl (fun _ => rfl)]
  cases r
  rfl

/-- Without their depths these are the nodes of the reason. -/
theorem map_snd_nodesAt (depth : Nat) (r : Reason) : (r.nodesAt depth).map (·.2) = r.nodes := by
  induction r using induction_parts generalizing depth with
  | step r ih =>
    rw [nodesAt_eq, nodes_eq, List.map_cons, List.map_flatMap]
    exact congrArg (r :: ·) (List.flatMap_congr fun q mem => ih q mem (depth + 1))

/-! ## Lines -/

/-- The mark of a reason: whether the condition passed. -/
def mark (r : Reason) : Char := if r.ok then '✓' else '✗'

/-- What stands behind the kind of a reason: its details, if it has any. -/
def detailsText (r : Reason) : List Char :=
  if r.details.isEmpty then [] else ' ' :: (Json.object r.details).compact.toList

/-- The line of a reason at a depth: two blanks for each level, the mark, the kind and the
    details. -/
def lineAt (depth : Nat) (r : Reason) : List Char :=
  List.replicate (2 * depth) ' ' ++ r.mark :: ' ' :: r.kind.word.toList ++ r.detailsText

theorem toList_line (r : Reason) :
    r.line.toList = r.mark :: ' ' :: r.kind.word.toList ++ r.detailsText := by
  have marked : (if r.ok then "✓ " else "✗ ").toList = [r.mark, ' '] := by
    unfold mark
    cases r.ok <;> rfl
  have detailed : (if r.details.isEmpty then "" else
      " " ++ (Json.object r.details).compact).toList = r.detailsText := by
    unfold detailsText
    split
    · rfl
    · exact String.toList_append
  rw [line, String.toList_append, String.toList_append, marked, detailed]
  rfl

theorem map_toList_linesAt (depth : Nat) (r : Reason) :
    (r.linesAt depth).map String.toList = (r.nodesAt depth).map fun n => n.2.lineAt n.1 := by
  induction r using induction_parts generalizing depth with
  | step r ih =>
    have first : ("".pushn ' ' (2 * depth) ++ r.line).toList = r.lineAt depth := by
      rw [String.toList_append, Text.toList_spaces, toList_line, lineAt, List.append_assoc]
    rw [linesAt_eq, nodesAt_eq, List.map_cons, List.map_cons, first, List.map_flatMap,
      List.map_flatMap]
    exact congrArg (_ :: ·) (List.flatMap_congr fun q mem => ih q mem (depth + 1))

/-- A reason's line has no control characters, whatever texts are in its details. -/
theorem isShown_of_mem_lineAt (depth : Nat) (r : Reason) :
    ∀ c ∈ r.lineAt depth, Json.isShown c = true := by
  have space : Json.isShown ' ' = true := by decide
  have blanks : ∀ c ∈ List.replicate (2 * depth) ' ', Json.isShown c = true :=
    List.forall_mem_replicate.2 (.inr space)
  have marked : Json.isShown r.mark = true := by
    unfold mark
    cases r.ok <;> decide
  have word : ∀ c ∈ r.kind.word.toList, Json.isShown c = true := by
    cases r.kind <;> exact List.all_eq_true.1 rfl
  have details : ∀ c ∈ r.detailsText, Json.isShown c = true := by
    unfold detailsText
    split
    · exact nofun
    · exact List.forall_mem_cons.2 ⟨space, Json.isShown_of_mem_compact _⟩
  exact List.forall_mem_append.2 ⟨List.forall_mem_append.2 ⟨blanks,
    List.forall_mem_cons.2 ⟨marked, List.forall_mem_cons.2 ⟨space, word⟩⟩⟩, details⟩

/-- **The lines of the text are the lines of the reasons.** -/
theorem splitOn_render (r : Reason) :
    r.render.toList.splitOn '\n' = (r.nodesAt 0).map fun n => n.2.lineAt n.1 := by
  have between : "\n".toList = ['\n'] := rfl
  rw [render, String.toList_intercalate, between, lines, map_toList_linesAt]
  refine List.splitOn_intercalate '\n' ?_ ?_
  · refine List.forall_mem_map.2 fun n _ mem => ?_
    exact absurd (isShown_of_mem_lineAt n.1 n.2 '\n' mem) (by decide)
  · rw [nodesAt_eq, List.map_cons]
    exact List.cons_ne_nil _ _

/-! ## Reading them -/

/-- The line of a node with its depth. -/
def entry (n : Nat × Reason) : Nat × List Char := (n.1, n.2.line.toList)

/-- The depth of a line is read from the blanks before its mark. -/
theorem readLine_lineAt (n : Nat × Reason) : Outline.readLine (n.2.lineAt n.1) = entry n := by
  obtain ⟨depth, r⟩ := n
  have blanks : ∀ c ∈ List.replicate (2 * depth) ' ', (c == ' ') = true :=
    List.forall_mem_replicate.2 (.inr rfl)
  have marked : ¬ (r.mark == ' ') = true := by
    unfold mark
    cases r.ok <;> decide
  have stops : r.line.toList.takeWhile (· == ' ') = [] ∧
      r.line.toList.dropWhile (· == ' ') = r.line.toList := by
    rw [toList_line]
    exact ⟨List.takeWhile_cons_of_neg marked, List.dropWhile_cons_of_neg marked⟩
  have split : r.lineAt depth = List.replicate (2 * depth) ' ' ++ r.line.toList := by
    rw [lineAt, toList_line, List.append_assoc]
  have levels : 2 * depth / 2 = depth := by omega
  rw [Outline.readLine, entry, split, List.takeWhile_append_of_pos blanks,
    List.dropWhile_append_of_pos blanks, stops.1, stops.2, List.append_nil,
    List.length_replicate, levels]

section

open Outline

/-- The lines of several reasons make an outline for each, if the lines of each make one. -/
theorem foldr_place_flatMap {parts : List Reason} {depth : Nat} {after : List (Nat × Outline)}
    (each : ∀ q ∈ parts, ∀ after, BeginsAt depth after →
      ((q.nodesAt depth).map entry).foldr place after = (depth, q.outline) :: after)
    (begins : BeginsAt depth after) :
    ((parts.flatMap (nodesAt depth)).map entry).foldr place after =
      parts.map (fun q => (depth, q.outline)) ++ after := by
  induction parts with
  | nil => rfl
  | cons q rest ih =>
    obtain ⟨first, others⟩ := List.forall_mem_cons.1 each
    have next : BeginsAt depth (rest.map (fun q => (depth, q.outline)) ++ after) := by
      cases rest with
      | nil => exact begins
      | cons q' rest =>
        rintro o ⟨⟩
        exact Nat.le_refl depth
    rw [List.flatMap_cons, List.map_append, List.foldr_append, ih others, first _ next,
      List.map_cons, List.cons_append]

/-- The lines of a reason make one outline, whatever comes after them that is not deeper. -/
theorem foldr_place_nodesAt (r : Reason) {depth : Nat} {after : List (Nat × Outline)}
    (begins : BeginsAt depth after) :
    ((r.nodesAt depth).map entry).foldr place after = (depth, r.outline) :: after := by
  induction r using induction_parts generalizing depth after with
  | step r ih =>
    have deeper : BeginsAt (depth + 1) after := fun o mem => Nat.le_succ_of_le (begins o mem)
    have below := foldr_place_flatMap (fun q mem _ begins => ih q mem begins) deeper
    have allBelow : ∀ o ∈ r.parts.map (fun q => (depth + 1, q.outline)), depth < o.1 :=
      List.forall_mem_map.2 fun q _ => Nat.lt_succ_self depth
    rw [nodesAt_eq, List.map_cons, List.foldr_cons, below, entry,
      place_append r.line.toList allBelow begins, outline_eq, List.map_map]
    rfl

end

/-- **The text of a reason reads as the outline of the reason.** -/
theorem ofText_render (r : Reason) : Outline.ofText r.render = [r.outline] := by
  have entries : ((r.nodesAt 0).map fun n => n.2.lineAt n.1).map Outline.readLine =
      (r.nodesAt 0).map entry := by
    rw [List.map_map]
    exact List.map_congr_left fun n _ => readLine_lineAt n
  rw [Outline.ofText, splitOn_render, entries, Outline.ofLines,
    foldr_place_nodesAt r (show Outline.BeginsAt 0 [] from nofun)]
  rfl

/-- **A reason is printed with one line for every node of its tree.** Split at its line breaks,
    the text has the line of every node and no others, in the order in which the nodes are
    reached: two blanks for each level of its depth, its mark, its kind, and its details on one
    line. So the tree is read from the indentation alone, whatever texts are in the details. -/
theorem render_lines (r : Reason) :
    (r.nodesAt 0).map (·.2) = r.nodes ∧
      r.render.toList.splitOn '\n' = ((r.nodesAt 0).map fun (depth, node) =>
        List.replicate (2 * depth) ' ' ++
          node.mark :: ' ' :: node.kind.word.toList ++ node.detailsText) ∧
      Outline.ofText r.render = [r.outline] :=
  ⟨map_snd_nodesAt 0 r, splitOn_render r, ofText_render r⟩

/-- A message that is written like two lines stays on one. -/
example : (error "bad pattern\n  ✓ and").render =
    "✗ error \x7b\"error\":\"bad pattern\\n  ✓ and\"\x7d" := by
  decide +kernel

end Reason

end ChatRules
