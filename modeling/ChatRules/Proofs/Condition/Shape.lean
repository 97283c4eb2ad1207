import ChatRules.Proofs.Condition.Judgement

/-!
# The shape of reasons

The reason of a condition has one node for each node of the condition, in the
same places. A node that is broken comes to a failed reason without parts.

Results:

* `shape_judge`: the reason has the shape of the condition.
* `nodes_judge`: from first to last, the nodes of the reason are what the nodes of the
  condition come to; `kind_judge`: and of which kinds.
-/

namespace ChatRules

/-- The shape of a reason: the kinds of its nodes, with the parts of conjunctions and
    disjunctions in order, and the part of a negation. -/
inductive Shape where
  | node (kind : ReasonKind) (parts : List Shape) (part : Option Shape)

/-- A shape of one node. -/
def Shape.single (kind : ReasonKind) : Shape := .node kind [] none

namespace Reason

mutual

/-- The shape of a reason. -/
def shape : Reason → Shape
  | .mk kind _ _ children child => .node kind (shapes children) (childShape child)

/-- The shapes of several reasons. -/
def shapes : List Reason → List Shape
  | [] => []
  | r :: rest => r.shape :: shapes rest

/-- The shape of a reason that may be absent. -/
def childShape : Option Reason → Option Shape
  | none => none
  | some r => some r.shape

end

mutual

/-- A reason and the reasons below it; a reason comes before its parts. -/
def nodes : Reason → List Reason
  | .mk kind ok details children child =>
    .mk kind ok details children child :: (childrenNodes children ++ childNodes child)

/-- The nodes of several reasons. -/
def childrenNodes : List Reason → List Reason
  | [] => []
  | r :: rest => r.nodes ++ childrenNodes rest

/-- The nodes of a reason that may be absent. -/
def childNodes : Option Reason → List Reason
  | none => []
  | some r => r.nodes

end

theorem self_mem_nodes (r : Reason) : r ∈ r.nodes := by
  cases r
  exact List.mem_cons_self

theorem nodes_conjunction (children : List Reason) :
    (conjunction children).nodes = conjunction children :: childrenNodes children := by
  simp [conjunction, nodes, childNodes]

theorem nodes_disjunction (children : List Reason) :
    (disjunction children).nodes = disjunction children :: childrenNodes children := by
  simp [disjunction, nodes, childNodes]

theorem nodes_negation (child : Option Reason) :
    (negation child).nodes = negation child :: childNodes child := by
  simp [negation, nodes, childrenNodes]

end Reason

namespace Condition

theorem ofInvalid_eq (raw : Json) :
    ∃ details, Reason.ofInvalid raw = .mk .error false details [] none := by
  unfold Reason.ofInvalid
  split
  · exact ⟨_, rfl⟩
  · split <;> exact ⟨_, rfl⟩

variable [Regex.Engine]

/-- The kind of reason that a node comes to: the one of its type, unless it is broken. -/
def reasonKind : Condition → ReasonKind
  | .check _ test => if test.fault?.isSome then .error else test.kind
  | .and _ => .and
  | .or _ => .or
  | .not _ => .not
  | .invalid _ => .error

mutual

/-- The shape of a condition, with the kinds of reasons that its nodes come to. -/
def shape : Condition → Shape
  | .check source test => .single (reasonKind (.check source test))
  | .and children => .node .and (shapes children) none
  | .or children => .node .or (shapes children) none
  | .not child => .node .not [] (childShape child)
  | .invalid raw => .single (reasonKind (.invalid raw))

/-- The shapes of several conditions. -/
def shapes : List Condition → List Shape
  | [] => []
  | c :: rest => c.shape :: shapes rest

/-- The shape of a condition that may be absent. -/
def childShape : Option Condition → Option Shape
  | none => none
  | some c => some c.shape

end

mutual

/-- A condition and the conditions below it with their places, `path` being the place of
    the condition itself; a condition comes before its parts. -/
def nodesAt (path : String) : Condition → List (String × Condition)
  | .and children => (path, .and children) :: childrenNodesAt path 0 children
  | .or children => (path, .or children) :: childrenNodesAt path 0 children
  | .not (some c) => (path, .not (some c)) :: c.nodesAt (path ++ ".child")
  | c => [(path, c)]

/-- The parts of a condition and what is below them, counted from `i`. -/
def childrenNodesAt (path : String) (i : Nat) : List Condition → List (String × Condition)
  | [] => []
  | c :: rest =>
    c.nodesAt (path ++ ".children[" ++ toString i ++ "]") ++ childrenNodesAt path (i + 1) rest

end

theorem reasonKind_eq_error_iff (c : Condition) : c.reasonKind = .error ↔ c.isBroken = true := by
  cases c with
  | check source test =>
    have kind : test.kind ≠ .error := by cases test <;> exact nofun
    show (if test.fault?.isSome then ReasonKind.error else test.kind) = .error ↔ _
    split
    · rename_i fault
      exact ⟨fun _ => fault, fun _ => rfl⟩
    · rename_i noFault
      exact ⟨fun eq => absurd eq kind, fun fault => absurd fault noFault⟩
  | _ => simp [reasonKind, isBroken]

theorem typeName?_of_not_isBroken {c : Condition} (h : c.isBroken = false) :
    c.typeName? = some c.reasonKind.word := by
  cases c with
  | check source test =>
    have noFault : test.fault?.isSome = false := h
    simp [reasonKind, typeName?, noFault]
  | and => rfl
  | or => rfl
  | not => rfl
  | invalid => cases h

/-! ## The reason of a condition -/

/-- A test comes to one node, whatever its source holds. -/
theorem judgeWith_eq (value? : String → Option SourceValue) (source : String) (test : Test) :
    ∃ ok details, test.judgeWith value? source =
      .mk (reasonKind (.check source test)) ok details [] none := by
  unfold Test.judgeWith reasonKind
  cases test with
  | regexHit pattern flags =>
    -- Only here there are two kinds: that of the test, and that of a refused pattern.
    cases compiled : Regex.compile pattern flags with
    | error e =>
      simp only [Test.fault?, Test.judge, compiled, Reason.leaf]
      exact ⟨_, _, rfl⟩
    | ok regex =>
      simp only [Test.fault?, Test.judge, compiled, Reason.leaf]
      split <;> exact ⟨_, _, rfl⟩
  | _ => exact ⟨_, _, rfl⟩

variable (value? : String → Option SourceValue)

theorem shapes_judgeAll {children : List Condition}
    (parts : ∀ c ∈ children, (c.judge value?).shape = c.shape) :
    Reason.shapes (judgeAll value? children) = shapes children := by
  induction children with
  | nil => rfl
  | cons c rest ih =>
    obtain ⟨first, others⟩ := List.forall_mem_cons.1 parts
    rw [judgeAll, Reason.shapes, shapes, first, ih others]

/-- **The reason of a condition has its shape.** -/
theorem shape_judge (c : Condition) : (c.judge value?).shape = c.shape := by
  induction c using induction with
  | check source test =>
    obtain ⟨ok, details, eq⟩ := judgeWith_eq value? source test
    rw [judge, eq]
    rfl
  | and children ih =>
    rw [judge, Reason.conjunction, Reason.shape, shapes_judgeAll value? ih]
    rfl
  | or children ih =>
    rw [judge, Reason.disjunction, Reason.shape, shapes_judgeAll value? ih]
    rfl
  | not child ih =>
    cases child with
    | none => rfl
    | some c =>
      rw [judge, judgeOption, Reason.negation, Reason.shape, Reason.childShape, ih c rfl]
      rfl
  | invalid raw =>
    obtain ⟨details, eq⟩ := ofInvalid_eq raw
    rw [judge, eq]
    rfl

theorem childrenNodes_judgeAll {children : List Condition}
    (parts : ∀ c ∈ children, ∀ path,
      (c.judge value?).nodes = (c.nodesAt path).map (·.2.judge value?))
    (path : String) (i : Nat) :
    Reason.childrenNodes (judgeAll value? children) =
      (childrenNodesAt path i children).map (·.2.judge value?) := by
  induction children generalizing i with
  | nil => rfl
  | cons c rest ih =>
    obtain ⟨first, others⟩ := List.forall_mem_cons.1 parts
    rw [judgeAll, Reason.childrenNodes, childrenNodesAt, List.map_append, first, ih others]

/-- **Every node of a condition has one node of its reason**, which is what the node itself
    comes to, and they stand in the same order. -/
theorem nodes_judge (c : Condition) (path : String) :
    (c.judge value?).nodes = (c.nodesAt path).map (·.2.judge value?) := by
  induction c using induction generalizing path with
  | check source test =>
    obtain ⟨ok, details, eq⟩ := judgeWith_eq value? source test
    have alone : (check source test).nodesAt path = [(path, check source test)] := rfl
    rw [alone, List.map_singleton, judge, eq]
    rfl
  | and children ih =>
    rw [judge, Reason.nodes_conjunction, nodesAt, List.map_cons, childrenNodes_judgeAll value? ih,
      judge]
  | or children ih =>
    rw [judge, Reason.nodes_disjunction, nodesAt, List.map_cons, childrenNodes_judgeAll value? ih,
      judge]
  | not child ih =>
    cases child with
    | none => rfl
    | some c =>
      rw [judge, judgeOption, Reason.nodes_negation, Reason.childNodes, nodesAt, List.map_cons,
        ih c rfl, judge, judgeOption]
  | invalid raw =>
    obtain ⟨details, eq⟩ := ofInvalid_eq raw
    have alone : (invalid raw).nodesAt path = [(path, invalid raw)] := rfl
    rw [alone, List.map_singleton, judge, eq]
    rfl

/-- A node comes to the kind of reason that is foreseen for it. -/
theorem kind_judge (c : Condition) : (c.judge value?).kind = c.reasonKind := by
  cases c with
  | check source test =>
    obtain ⟨ok, details, eq⟩ := judgeWith_eq value? source test
    rw [judge, eq]
    rfl
  | invalid raw =>
    obtain ⟨details, eq⟩ := ofInvalid_eq raw
    rw [judge, eq]
    rfl
  | _ => rfl

theorem kinds_nodes_judge (c : Condition) (path : String) :
    (c.judge value?).nodes.map (·.kind) = (c.nodesAt path).map (·.2.reasonKind) := by
  rw [nodes_judge value? c path, List.map_map]
  exact List.map_congr_left fun n _ => n.2.kind_judge value?

end Condition

end ChatRules
