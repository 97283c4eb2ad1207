import ChatRules.Proofs.Decimal.Order
import ChatRules.Proofs.Evaluation.Isolation

/-!
# The order of evaluation is the only one

Rules run by decreasing priority, and those of one priority in the order in which they are
listed. There is one order of the places of a list with these two properties. So it does not
matter in which order rules of different priorities are listed, and in particular rules may be
sorted before they are evaluated.

Results:

* `filter_mergeSort`: sorting keeps what may stand in any order as it stands.
* `IsPriorityOrder.unique`: there is one order by priority.
* `isPriorityOrder_mergeSort`: sorting gives it, also after a rearrangement.
* `isPriorityOrder_evaluationOrder`: the order of evaluation is one by priority.
* `byPriority_rearranged`: sorting rules that were rearranged gives the same list.
* `evaluate_rearranged`: the report is the same for every list that keeps the order of the
  rules of each priority.
-/

namespace ChatRules

/-! ## Stable sorting -/

section

variable {α : Type} {le : α → α → Bool}

/-- Sorting keeps what may stand in any order as it stands. -/
theorem filter_mergeSort (trans : ∀ a b c, le a b → le b c → le a c)
    (total : ∀ a b, le a b || le b a) (tied : α → Bool)
    (ties : ∀ a b, tied a → tied b → le a b) (l : List α) :
    (l.mergeSort le).filter tied = l.filter tied := by
  have sorted : (l.filter tied).Pairwise fun a b => le a b :=
    List.pairwise_filter.2 (List.pairwise_of_forall fun a b ha hb => ties a b ha hb)
  have sublist : (l.filter tied).Sublist ((l.mergeSort le).filter tied) := by
    have kept := (List.sublist_mergeSort trans total sorted List.filter_sublist).filter tied
    simpa only [List.filter_filter, Bool.and_self] using kept
  exact (sublist.eq_of_length ((List.mergeSort_perm l le).filter tied).length_eq.symm).symm

/-- What holds between those that may stand in any order goes on holding. -/
theorem pairwise_mergeSort_of_ties (trans : ∀ a b c, le a b → le b c → le a c)
    (total : ∀ a b, le a b || le b a) {R : α → α → Prop} {l : List α}
    (ties : l.Pairwise fun a b => le a b → le b a → R a b) :
    (l.mergeSort le).Pairwise fun a b => le a b → le b a → R a b := by
  refine List.pairwise_iff_forall_sublist.2 fun {a b} both ab ba => ?_
  -- Both are tied with the first one, so they stand in this order before sorting.
  have tied := filter_mergeSort trans total (fun x => le a x && le x a)
    (fun x y hx hy => by
      rw [Bool.and_eq_true] at hx hy
      exact trans x a y hx.2 hy.1) l
  have self : le a a = true := trans a b a ab ba
  have before : [a, b].Sublist (l.filter fun x => le a x && le x a) := by
    rw [← tied]
    simpa [self, ab, ba] using both.filter fun x => le a x && le x a
  exact List.pairwise_iff_forall_sublist.1 ties (before.trans List.filter_sublist) ab ba

end

/-! ## Places -/

namespace RuleProgram

/-- Whether neither of two rules has the higher priority. -/
def SamePriority (p q : RuleProgram) : Prop :=
  p.priority.AtMost q.priority ∧ q.priority.AtMost p.priority

instance (p q : RuleProgram) : Decidable (SamePriority p q) :=
  inferInstanceAs (Decidable (_ ∧ _))

theorem SamePriority.symm {p q : RuleProgram} (h : SamePriority p q) : SamePriority q p :=
  ⟨h.2, h.1⟩

/-- The places of a list in an order that keeps the rules of each priority as they are
    listed. -/
structure KeepsTies (rules : List RuleProgram) (places : List Nat) : Prop where
  perm : places.Perm (List.range rules.length)
  ties : places.Pairwise fun i j =>
    ∀ p ∈ rules[i]?, ∀ q ∈ rules[j]?, SamePriority p q → i < j

/-- An order of the places of a list by priority. -/
structure IsPriorityOrder (rules : List RuleProgram) (places : List Nat) : Prop
    extends KeepsTies rules places where
  decreasing : places.Pairwise fun i j =>
    ∀ p ∈ rules[i]?, ∀ q ∈ rules[j]?, q.priority.AtMost p.priority

/-- The rules at places. -/
def rearranged (rules : List RuleProgram) (places : List Nat) : List RuleProgram :=
  places.filterMap (rules[·]?)

variable {rules : List RuleProgram} {places others : List Nat}

theorem mayPrecede_iff (p q : RuleProgram) :
    mayPrecede p q = true ↔ q.priority.AtMost p.priority := by
  rw [mayPrecede, decide_eq_true_iff, Double.orderKey_le_iff]

theorem KeepsTies.exists_rule (h : KeepsTies rules places) {i : Nat} (mem : i ∈ places) :
    ∃ p, rules[i]? = some p := by
  have lt : i < rules.length := List.mem_range.1 (h.perm.subset mem)
  exact ⟨rules[i], List.getElem?_eq_getElem lt⟩

/-- **There is one order by priority.** -/
theorem IsPriorityOrder.unique (h : IsPriorityOrder rules places)
    (h' : IsPriorityOrder rules others) : places = others := by
  have perm : places.Perm others := h.perm.trans h'.perm.symm
  refine perm.eq_of_pairwise (fun i j inPlaces inOthers before after => ?_)
    (h.decreasing.and h.ties) (h'.decreasing.and h'.ties)
  obtain ⟨p, atI⟩ := h.exists_rule inPlaces
  obtain ⟨q, atJ⟩ := h'.exists_rule inOthers
  -- Each stands before the other one, so they are tied, and then the places decide.
  have same : SamePriority p q := ⟨after.1 q atJ p atI, before.1 p atI q atJ⟩
  have lt : i < j := before.2 p atI q atJ same
  have gt : j < i := after.2 q atJ p atI same.symm
  omega

/-! ## Sorting places -/

/-- The key of the rule that may be at a place. -/
def keyOf (p? : Option RuleProgram) : Int :=
  (p?.map (·.priority.orderKey)).getD 0

/-- `mayPrecede` for the rules at two places. -/
def optionMayPrecede (p? q? : Option RuleProgram) : Bool := keyOf q? ≤ keyOf p?

/-- `mayPrecede` for two places. -/
def placeMayPrecede (rules : List RuleProgram) (i j : Nat) : Bool :=
  optionMayPrecede rules[i]? rules[j]?

theorem placeMayPrecede_trans (rules : List RuleProgram) (i j k : Nat)
    (ij : placeMayPrecede rules i j) (jk : placeMayPrecede rules j k) :
    placeMayPrecede rules i k := by
  simp only [placeMayPrecede, optionMayPrecede, decide_eq_true_eq] at *
  omega

theorem placeMayPrecede_total (rules : List RuleProgram) (i j : Nat) :
    placeMayPrecede rules i j || placeMayPrecede rules j i := by
  simp only [placeMayPrecede, optionMayPrecede, Bool.or_eq_true, decide_eq_true_eq]
  omega

theorem placeMayPrecede_iff {i j : Nat} {p q : RuleProgram} (atI : rules[i]? = some p)
    (atJ : rules[j]? = some q) :
    placeMayPrecede rules i j = true ↔ q.priority.AtMost p.priority := by
  rw [placeMayPrecede, atI, atJ, ← mayPrecede_iff]
  rfl

theorem isPriorityOrder_mergeSort (h : KeepsTies rules places) :
    IsPriorityOrder rules (places.mergeSort (placeMayPrecede rules)) where
  perm := (List.mergeSort_perm places _).trans h.perm
  ties := by
    have listed : places.Pairwise fun i j =>
        placeMayPrecede rules i j → placeMayPrecede rules j i →
          ∀ p ∈ rules[i]?, ∀ q ∈ rules[j]?, SamePriority p q → i < j :=
      h.ties.imp fun ties _ _ => ties
    refine (pairwise_mergeSort_of_ties (placeMayPrecede_trans rules)
      (placeMayPrecede_total rules) listed).imp fun {i j} ties p atI q atJ same => ?_
    exact ties ((placeMayPrecede_iff atI atJ).2 same.2) ((placeMayPrecede_iff atJ atI).2 same.1)
      p atI q atJ same
  decreasing := by
    have sorted := List.pairwise_mergeSort (placeMayPrecede_trans rules)
      (placeMayPrecede_total rules) places
    exact sorted.imp fun first p atI q atJ => (placeMayPrecede_iff atI atJ).1 first

theorem keepsTies_range (rules : List RuleProgram) :
    KeepsTies rules (List.range rules.length) where
  perm := .refl _
  ties := List.pairwise_lt_range.imp fun lt _ _ _ _ _ => lt

/-- The order of evaluation comes from sorting the places. -/
theorem evaluationOrder_eq (rules : List RuleProgram) :
    evaluationOrder rules = (List.range rules.length).mergeSort (placeMayPrecede rules) := by
  have atPlace {e : RuleProgram × Nat} (mem : e ∈ rules.zipIdx) : rules[e.2]? = some e.1 :=
    List.mem_zipIdx_iff_getElem?.1 mem
  have places : rules.zipIdx.map (·.2) = List.range rules.length := by
    rw [List.zipIdx_map_snd, List.range_eq_range']
  rw [evaluationOrder, ← places]
  refine List.map_mergeSort fun e inList f inList' => ?_
  rw [placeMayPrecede, atPlace inList, atPlace inList']
  rfl

theorem isPriorityOrder_evaluationOrder (rules : List RuleProgram) :
    IsPriorityOrder rules (evaluationOrder rules) := by
  rw [evaluationOrder_eq]
  exact isPriorityOrder_mergeSort (keepsTies_range rules)

theorem map_rearranged (h : KeepsTies rules places) :
    (rearranged rules places).map some = places.map (rules[·]?) := by
  have present : ∀ i ∈ places, ∃ p, rules[i]? = some p := fun i => h.exists_rule
  clear h
  induction places with
  | nil => rfl
  | cons i rest ih =>
    obtain ⟨p, atI⟩ := present i List.mem_cons_self
    have ih := ih fun j mem => present j (List.mem_cons_of_mem i mem)
    rw [rearranged, List.filterMap_cons_some atI, List.map_cons, List.map_cons, atI, ← ih]
    rfl

/-- Sorting rules that were rearranged is sorting their places. -/
theorem byPriority_rearranged (h : KeepsTies rules places) :
    byPriority (rearranged rules places) = byPriority rules := by
  have sorted : (byPriority (rearranged rules places)).map some =
      (places.mergeSort (placeMayPrecede rules)).map (rules[·]?) := by
    rw [byPriority, List.map_mergeSort (r := mayPrecede) (s := optionMayPrecede) (f := some)
        fun _ _ _ _ => rfl,
      map_rearranged h,
      ← List.map_mergeSort (r := placeMayPrecede rules) (s := optionMayPrecede)
        (f := (rules[·]?)) fun _ _ _ _ => rfl]
  have same : places.mergeSort (placeMayPrecede rules) = evaluationOrder rules :=
    (isPriorityOrder_mergeSort h).unique (isPriorityOrder_evaluationOrder rules)
  rw [same, map_evaluationOrder] at sorted
  exact (List.map_inj_right fun _ _ => Option.some.inj).1 sorted

/-- The rules by priority are those at the places in the order of evaluation. -/
theorem byPriority_eq_rearranged (rules : List RuleProgram) :
    byPriority rules = rearranged rules (evaluationOrder rules) := by
  have listed := map_rearranged (isPriorityOrder_evaluationOrder rules).toKeepsTies
  rw [map_evaluationOrder] at listed
  exact ((List.map_inj_right fun _ _ => Option.some.inj).1 listed).symm

end RuleProgram

open RuleProgram

/-- **There is one order by priority, and sorting before evaluation is harmless.** The order of
    evaluation is the one order of the places by priority. The report is the same for every
    list of the rules in which those of each priority stand as they stood. The list of the
    rules by priority is one of these, and sorting it again does not change it. -/
theorem evaluate_rearranged (rules : List RuleProgram) (a : Access) :
    (∀ places, IsPriorityOrder rules places ↔ places = evaluationOrder rules) ∧
      byPriority rules = rearranged rules (evaluationOrder rules) ∧
      (∀ places, KeepsTies rules places →
        evaluate (rearranged rules places) a = evaluate rules a) ∧
      byPriority (byPriority rules) = byPriority rules ∧
      evaluate (byPriority rules) a = evaluate rules a := by
  have order := isPriorityOrder_evaluationOrder rules
  have same {places : List Nat} (h : KeepsTies rules places) :
      evaluate (rearranged rules places) a = evaluate rules a := by
    rw [evaluate, evaluate, byPriority_rearranged h]
  refine ⟨fun places => ⟨fun h => h.unique order, fun eq => eq ▸ order⟩,
    byPriority_eq_rearranged rules, fun places => same, byPriority_byPriority rules, ?_⟩
  rw [byPriority_eq_rearranged]
  exact same order.toKeepsTies

/-- Zeros of both signs are tied. What is no number stands below the least infinity if it has the
    sign, and else above the greatest one, in the order of the payloads. All but the zeros can
    stand in any order. -/
theorem evaluate_rearranged_of_zeros :
    let rule (id : String) (priority : Double) : RuleProgram :=
      { id, label := id, priority, condition := fun _ => return .conjunction [] }
    let rules := [rule "zero" 0, rule "above" ⟨0x7FF8000000000001⟩, rule "minus" (-0 : Float),
      rule "below" ⟨0xFFF8000000000000⟩, rule "greatest" ⟨0x7FF0000000000000⟩,
      rule "farther" ⟨0x7FF8000000000002⟩, rule "least" ⟨0xFFF0000000000000⟩]
    let a : Access := { registry := {}, view := {}, moduleId := defaultModule }
    KeepsTies rules [6, 5, 4, 3, 0, 2, 1] ∧ evaluationOrder rules = [5, 1, 4, 0, 2, 6, 3] ∧
      evaluate (rearranged rules [6, 5, 4, 3, 0, 2, 1]) a = evaluate rules a := by
  intro rule rules a
  obtain ⟨unique, -, same, -⟩ := evaluate_rearranged rules a
  have ties : KeepsTies rules [6, 5, 4, 3, 0, 2, 1] := ⟨by decide, by decide +kernel⟩
  have order : IsPriorityOrder rules [5, 1, 4, 0, 2, 6, 3] :=
    ⟨⟨by decide, by decide +kernel⟩, by decide +kernel⟩
  exact ⟨ties, ((unique _).1 order).symm, same [6, 5, 4, 3, 0, 2, 1] ties⟩

end ChatRules
