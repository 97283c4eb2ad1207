import ChatRules.Proofs.Rule.Effects
import Mathlib.Data.List.Induction
import Mathlib.Data.List.Nodup

/-!
# Issues and the rules that they are of

The validation of a set keeps the issues of every rule twice, in one list of all of them and
under a key for the rule. The key of a rule is its name, and that of a rule without a name tells
its place. A rule can have a name that looks like a place, and then the two share an entry.

Results:

* `own_of_mem_parts`: the issues of a rule are those of the rule alone, and one more if an
  earlier rule has its name.
* `Filed.enter`, `filed_ofRules`: where the issues of one more rule are put, and where those of
  all rules are.
* `ofRules_attributes`: every issue is attributed to its rule, as long as no name is that of
  the place of a rule without a name.
* `ofRules_mixes`: the issues of two rules in one entry.
-/

namespace ChatRules

namespace IssueList

/-- The issues of several lists, in their order. -/
def concat (lists : List IssueList) : IssueList :=
  ⟨lists.flatMap (·.errors), lists.flatMap (·.warnings)⟩

theorem empty_append (l : IssueList) : append {} l = l := rfl

@[simp] theorem concat_singleton (l : IssueList) : concat [l] = l := by simp [concat]

theorem concat_concat (lists : List IssueList) (l : IssueList) :
    concat (lists ++ [l]) = (concat lists).append l := by
  simp [concat, append]

theorem ofIssues_append (xs ys : List Issue) :
    ofIssues (xs ++ ys) = (ofIssues xs).append (ofIssues ys) := by
  simp [ofIssues, append]

end IssueList

namespace SetIssues

/-! ## The issues of one rule -/

/-- The error of a rule whose name the rule at an earlier place has. -/
def duplicate (id : String) (first : Nat) : Issue :=
  ⟨.error, "E006", id, "id",
    "duplicate rule id (first defined at index " ++ toString first ++ ")"⟩

/-- The first rule of a list with a name is at a place. -/
def IsFirst (rules : List Rule) (id : String) (place : Nat) : Prop :=
  (∃ r, rules[place]? = some r ∧ r.id = id) ∧
    ∀ earlier < place, ∀ r, rules[earlier]? = some r → r.id ≠ id

/-- The issues of the rule at a place: those of the rule alone, and after its errors one more if
    it has a name that a rule before it has. -/
inductive Own (rules : List Rule) (place : Nat) (r : Rule) : IssueList → Prop
  | unnamed (blank : Text.isAllBlank r.id = true) : Own rules place r r.validate
  | first (named : Text.isAllBlank r.id = false) (new : IsFirst rules r.id place) :
    Own rules place r r.validate
  | again (named : Text.isAllBlank r.id = false) {first : Nat} (old : IsFirst rules r.id first)
    (earlier : first < place) :
    Own rules place r ⟨r.validate.errors ++ [duplicate r.id first], r.validate.warnings⟩

theorem ofRule_of_unnamed (before : List String) {r : Rule} (blank : Text.isAllBlank r.id = true) :
    ofRule before r = r.validate := by
  simp only [ofRule, blank, if_true, List.append_nil, Rule.validate]

theorem ofRule_of_new {before : List String} {r : Rule} (new : firstIndex? before r.id = none) :
    ofRule before r = r.validate := by
  simp only [ofRule, new, ite_self, List.append_nil, Rule.validate]

theorem ofRule_of_old {before : List String} {r : Rule} (named : Text.isAllBlank r.id = false)
    {first : Nat} (old : firstIndex? before r.id = some first) :
    ofRule before r = ⟨r.validate.errors ++ [duplicate r.id first], r.validate.warnings⟩ := by
  have one : IssueList.ofIssues [duplicate r.id first] = ⟨[duplicate r.id first], []⟩ := rfl
  have found : ofRule before r =
      .ofIssues (r.findings.map (Finding.toIssue r.id) ++ [duplicate r.id first]) := by
    simp only [ofRule, named, old]
    rfl
  rw [found, IssueList.ofIssues_append, one, IssueList.append, List.append_nil]
  rfl

/-- The first of the names before a place is that of the first rule with the name. -/
theorem isFirst_of_firstIndex? {rules : List Rule} {place first : Nat} {id : String}
    (old : firstIndex? ((rules.take place).map (·.id)) id = some first) :
    IsFirst rules id first ∧ first < place := by
  obtain ⟨inside, same, others⟩ := List.findIdx?_eq_some_iff_getElem.1 old
  have bounds : first < place ∧ first < rules.length := by
    rw [List.length_map, List.length_take] at inside
    omega
  have taken : rules[first]? = some rules[first] := List.getElem?_eq_getElem bounds.2
  refine ⟨⟨⟨rules[first], taken, by simpa using same⟩, fun earlier lt r there => ?_⟩, bounds.1⟩
  obtain ⟨_, rfl⟩ := List.getElem?_eq_some_iff.1 there
  simpa using others earlier lt

/-- A name that no place before has is at its first place. -/
theorem isFirst_of_new {rules : List Rule} {place : Nat} {r : Rule}
    (here : rules[place]? = some r)
    (new : firstIndex? ((rules.take place).map (·.id)) r.id = none) : IsFirst rules r.id place := by
  refine ⟨⟨r, here, rfl⟩, fun earlier lt s there same => ?_⟩
  have mem : s ∈ rules.take place := by
    refine List.mem_of_getElem? (i := earlier) ?_
    rw [List.getElem?_take, if_pos lt, there]
  have other := List.findIdx?_eq_none_iff.1 new s.id (List.mem_map_of_mem mem)
  simp [same] at other

theorem own_ofRule {rules : List Rule} {place : Nat} {r : Rule} (here : rules[place]? = some r) :
    Own rules place r (ofRule ((rules.take place).map (·.id)) r) := by
  cases blank : Text.isAllBlank r.id with
  | true =>
    rw [ofRule_of_unnamed _ blank]
    exact .unnamed blank
  | false =>
    cases found : firstIndex? ((rules.take place).map (·.id)) r.id with
    | none =>
      rw [ofRule_of_new found]
      exact .first blank (isFirst_of_new here found)
    | some first =>
      obtain ⟨old, earlier⟩ := isFirst_of_firstIndex? found
      rw [ofRule_of_old blank found]
      exact .again blank old earlier

/-! ## The rules of a list -/

/-- A rule of a list, with its place and its issues. -/
structure Part where
  rule : Rule
  place : Nat
  issues : IssueList

/-- The key under which the issues of a rule are listed. -/
def Part.key (p : Part) : String := ruleKey p.place p.rule

/-- The rules of a list, each with its issues among the rules before it. -/
def parts (rules : List Rule) : List Part :=
  rules.zipIdx.map fun e => ⟨e.1, e.2, ofRule ((rules.take e.2).map (·.id)) e.1⟩

theorem parts_concat (rules : List Rule) (r : Rule) :
    parts (rules ++ [r]) = parts rules ++ [⟨r, rules.length, ofRule (rules.map (·.id)) r⟩] := by
  have before : ∀ e ∈ rules.zipIdx, (rules ++ [r]).take e.2 = rules.take e.2 := fun e mem =>
    List.take_append_of_le_length (Nat.le_of_lt (by simpa using (List.mem_zipIdx mem).2.1))
  simp only [parts, List.zipIdx_append, List.map_append, List.zipIdx_singleton, List.map_singleton,
    Nat.zero_add, List.take_left]
  refine congrArg (· ++ _) (List.map_congr_left fun e mem => ?_)
  rw [before e mem]

theorem map_parts (rules : List Rule) :
    (parts rules).map (fun p => (p.rule, p.place)) = rules.zipIdx := by
  rw [parts, List.map_map]
  exact List.map_id _

variable {rules : List Rule} {p : Part}

theorem getElem?_place (mem : p ∈ parts rules) : rules[p.place]? = some p.rule := by
  obtain ⟨e, inList, rfl⟩ := List.mem_map.1 mem
  exact List.mem_zipIdx_iff_getElem?.1 inList

theorem exists_part_of_mem {r : Rule} (mem : r ∈ rules) : ∃ p ∈ parts rules, p.rule = r := by
  obtain ⟨i, at_i⟩ := List.mem_iff_getElem?.1 mem
  exact ⟨_, List.mem_map_of_mem (List.mem_zipIdx_iff_getElem?.2 at_i : (r, i) ∈ _), rfl⟩

/-- The issues of every rule are its own. -/
theorem own_of_mem_parts (mem : p ∈ parts rules) : Own rules p.place p.rule p.issues := by
  have here := getElem?_place mem
  obtain ⟨e, -, rfl⟩ := List.mem_map.1 mem
  exact own_ofRule here

/-- Of one place there is one rule. -/
theorem filter_place (mem : p ∈ parts rules) :
    (parts rules).filter (·.place == p.place) = [p] := by
  have places : (parts rules).map (·.place) = List.range' 0 rules.length := by
    rw [← List.zipIdx_map_snd, ← map_parts, List.map_map]
    rfl
  obtain ⟨xs, ys, split⟩ := List.append_of_mem mem
  have unique : (xs.map (·.place) ++ p.place :: ys.map (·.place)).Nodup := by
    rw [← List.map_cons, ← List.map_append, ← split, places]
    exact List.nodup_range'
  obtain ⟨absent, -⟩ := List.nodup_cons.1 (List.nodup_middle.1 unique)
  have others (zs : List Part) (outside : p.place ∉ zs.map (·.place)) :
      zs.filter (·.place == p.place) = [] := by
    refine List.filter_eq_nil_iff.2 fun q inside same => outside ?_
    rw [← beq_iff_eq.1 same]
    exact List.mem_map_of_mem inside
  rw [List.mem_append, not_or] at absent
  rw [split, List.filter_append, others xs absent.1, List.filter_cons, others ys absent.2]
  simp

/-! ## Collecting issues -/

/-- The issues with those of one more rule, at the end of all and of the entry of the rule. -/
def enter (s : SetIssues) (p : Part) : SetIssues :=
  ⟨s.all.append p.issues,
    Dict.insert p.key (((Dict.find? p.key s.byRule).getD {}).append p.issues) s.byRule⟩

theorem collect_concat (before : List String) (s : SetIssues) (rules : List Rule) (r : Rule) :
    collect before s (rules ++ [r]) =
      (collect before s rules).enter
        ⟨r, before.length + rules.length, ofRule (before ++ rules.map (·.id)) r⟩ := by
  induction rules generalizing before s with
  | nil =>
    rw [List.map_nil, List.append_nil]
    rfl
  | cons first rest ih =>
    rw [List.cons_append, collect, ih, collect, List.map_cons, List.length_append]
    simp only [List.length_cons, List.length_nil, List.append_assoc, List.singleton_append,
      Nat.add_assoc, Nat.zero_add, Nat.add_comm 1 rest.length]

theorem ofRules_concat (rules : List Rule) (r : Rule) :
    ofRules (rules ++ [r]) =
      (ofRules rules).enter ⟨r, rules.length, ofRule (rules.map (·.id)) r⟩ := by
  rw [ofRules, collect_concat, List.length_nil, Nat.zero_add, List.nil_append]
  rfl

/-- The entry of a key: the issues of all rules that have the key, if there is one. -/
def filedAt? (ps : List Part) (key : String) : Option IssueList :=
  let listed := ps.filter (·.key == key)
  if listed.isEmpty then none else some (.concat (listed.map (·.issues)))

/-- Where the issues of rules are. -/
structure Filed (ps : List Part) (s : SetIssues) : Prop where
  all : s.all = .concat (ps.map (·.issues))
  sorted : Dict.Sorted s.byRule
  keys : ∀ key, key ∈ s.byRule.map (·.1) ↔ ∃ p ∈ ps, p.key = key
  entry : ∀ key, Dict.find? key s.byRule = filedAt? ps key

theorem filedAt?_concat_self (ps : List Part) (p : Part) :
    filedAt? (ps ++ [p]) p.key = some (((filedAt? ps p.key).getD {}).append p.issues) := by
  have listed : (ps ++ [p]).filter (·.key == p.key) = ps.filter (·.key == p.key) ++ [p] := by
    simp [List.filter_append]
  unfold filedAt?
  simp only [listed]
  cases ps.filter (·.key == p.key) with
  | nil => simp [IssueList.empty_append]
  | cons q rest => simp [IssueList.concat, IssueList.append]

theorem filedAt?_concat_of_ne (ps : List Part) {p : Part} {key : String} (ne : key ≠ p.key) :
    filedAt? (ps ++ [p]) key = filedAt? ps key := by
  have listed : (ps ++ [p]).filter (·.key == key) = ps.filter (·.key == key) := by
    simp [List.filter_append, Ne.symm ne]
  simp only [filedAt?, listed]

/-- **One more rule.** Its issues are put at the end of all issues and of the entry of its key,
    and no other entry is changed. -/
theorem Filed.enter {ps : List Part} {s : SetIssues} (filed : Filed ps s) (p : Part) :
    Filed (ps ++ [p]) (s.enter p) where
  all := by
    rw [List.map_append, List.map_singleton, IssueList.concat_concat, ← filed.all]
    rfl
  sorted := filed.sorted.insert _ _
  keys := by
    intro key
    rw [SetIssues.enter, Dict.mem_keys_insert, filed.keys]
    simp only [List.mem_append, List.mem_singleton, or_and_right, exists_or, exists_eq_left]
    rw [or_comm, eq_comm]
  entry := by
    intro key
    by_cases same : key = p.key
    · subst same
      rw [SetIssues.enter, Dict.find?_insert_self, filed.entry, filedAt?_concat_self]
    · rw [SetIssues.enter, Dict.find?_insert_of_ne same, filed.entry, filedAt?_concat_of_ne ps same]

theorem filed_ofRules (rules : List Rule) : Filed (parts rules) (ofRules rules) := by
  induction rules using List.reverseRecOn with
  | nil => exact ⟨rfl, List.Pairwise.nil, fun _ => by simp [ofRules, collect, parts], fun _ => rfl⟩
  | append_singleton rules r ih =>
    rw [parts_concat, ofRules_concat]
    exact ih.enter _

/-! ## Keys -/

/-- The key of the place of a rule. -/
def placeKey (place : Nat) : String := "#" ++ toString place

theorem placeKey_inj {i j : Nat} : placeKey i = placeKey j ↔ i = j := by
  have value (n : Nat) : Nat.ofDigitChars 10 (toString n).toList 0 = n := by
    rw [Nat.toString_eq_repr, Nat.toList_repr]
    exact Nat.ofDigitChars_toDigits (by decide) (by decide)
  rw [placeKey, placeKey, String.append_right_inj]
  refine ⟨fun same => ?_, congrArg toString⟩
  rw [← value i, same, value]

theorem key_of_unnamed (blank : Text.isAllBlank p.rule.id = true) : p.key = placeKey p.place := by
  rw [Part.key, ruleKey, if_pos blank, placeKey]

theorem key_of_named (named : Text.isAllBlank p.rule.id = false) : p.key = p.rule.id := by
  rw [Part.key, ruleKey, if_neg (by rw [named]; exact Bool.false_ne_true)]

theorem filedAt?_of_mem {ps : List Part} (mem : p ∈ ps) :
    filedAt? ps p.key = some (.concat ((ps.filter (·.key == p.key)).map (·.issues))) := by
  have listed : p ∈ ps.filter (·.key == p.key) := List.mem_filter.2 ⟨mem, beq_self_eq_true p.key⟩
  simp only [filedAt?, List.isEmpty_iff, if_neg (List.ne_nil_of_mem listed)]

/-- The keys are the names of rules, and the keys of the places of those without a name. -/
theorem mem_keys_iff {key : String} :
    key ∈ (ofRules rules).byRule.map (·.1) ↔
      (∃ r ∈ rules, Text.isAllBlank r.id = false ∧ r.id = key) ∨
        ∃ p ∈ parts rules, Text.isAllBlank p.rule.id = true ∧ placeKey p.place = key := by
  rw [(filed_ofRules rules).keys]
  constructor
  · rintro ⟨p, mem, rfl⟩
    cases blank : Text.isAllBlank p.rule.id with
    | true => exact .inr ⟨p, mem, blank, (key_of_unnamed blank).symm⟩
    | false =>
      exact .inl ⟨p.rule, List.mem_of_getElem? (getElem?_place mem), blank,
        (key_of_named blank).symm⟩
  · rintro (⟨r, mem, named, rfl⟩ | ⟨p, mem, blank, rfl⟩)
    · obtain ⟨p, inParts, rfl⟩ := exists_part_of_mem mem
      exact ⟨p, inParts, key_of_named named⟩
    · exact ⟨p, mem, key_of_unnamed blank⟩

/-- The entry of a name that is not the key of a place lists the rules that have it. -/
theorem find?_name {id : String} (named : Text.isAllBlank id = false) (mem : id ∈ rules.map (·.id))
    (apart : ∀ p ∈ parts rules, Text.isAllBlank p.rule.id = true → placeKey p.place ≠ id) :
    Dict.find? id (ofRules rules).byRule =
      some (.concat (((parts rules).filter (·.rule.id == id)).map (·.issues))) := by
  obtain ⟨r, inRules, rfl⟩ := List.mem_map.1 mem
  obtain ⟨p, inParts, rfl⟩ := exists_part_of_mem inRules
  have same : ∀ q ∈ parts rules, (q.key == p.rule.id) = (q.rule.id == p.rule.id) := by
    intro q inside
    cases blank : Text.isAllBlank q.rule.id with
    | true =>
      have other : q.rule.id ≠ p.rule.id := fun eq => by simp [← eq, blank] at named
      rw [key_of_unnamed blank, beq_eq_false_iff_ne.2 (apart q inside blank),
        beq_eq_false_iff_ne.2 other]
    | false => rw [key_of_named blank]
  have listed := filedAt?_of_mem inParts
  rw [key_of_named named, List.filter_congr same] at listed
  rw [(filed_ofRules rules).entry, listed]

/-- The entry of the place of a rule without a name lists this rule, if no name is the key of the
    place. -/
theorem find?_place (mem : p ∈ parts rules) (blank : Text.isAllBlank p.rule.id = true)
    (apart : ∀ r ∈ rules, r.id ≠ placeKey p.place) :
    Dict.find? (placeKey p.place) (ofRules rules).byRule = some p.issues := by
  have same : ∀ q ∈ parts rules, (q.key == p.key) = (q.place == p.place) := by
    intro q inside
    rw [key_of_unnamed blank]
    cases other : Text.isAllBlank q.rule.id with
    | true =>
      rw [key_of_unnamed other, Bool.eq_iff_iff, beq_iff_eq, beq_iff_eq, placeKey_inj]
    | false =>
      have here := apart q.rule (List.mem_of_getElem? (getElem?_place inside))
      have ne : q.place ≠ p.place := by
        intro eq
        have rule := getElem?_place inside
        rw [eq, getElem?_place mem] at rule
        rw [Option.some.inj rule, other] at blank
        exact Bool.false_ne_true blank
      rw [key_of_named other, beq_eq_false_iff_ne.2 here, beq_eq_false_iff_ne.2 ne]
  have listed := filedAt?_of_mem mem
  rw [List.filter_congr same, filter_place mem, List.map_singleton,
    IssueList.concat_singleton, key_of_unnamed blank] at listed
  rw [(filed_ofRules rules).entry, listed]

/-- **Every issue is attributed to its rule.** The rules stand in `parts` in their order, each
    with its place and its own issues; all issues are these one after the other. The entries are
    those of the names and those of the places of rules without a name. The entry of a name lists
    the issues of the rules that have it, and the entry of a place those of the rule without a
    name that is there, as long as no name is the key of the place of a rule without a name. -/
theorem ofRules_attributes (rules : List Rule) :
    (parts rules).map (fun p => (p.rule, p.place)) = rules.zipIdx ∧
    (∀ p ∈ parts rules, Own rules p.place p.rule p.issues) ∧
    (ofRules rules).all = .concat ((parts rules).map (·.issues)) ∧
    Dict.Sorted (ofRules rules).byRule ∧
    (∀ key, key ∈ (ofRules rules).byRule.map (·.1) ↔
      (∃ r ∈ rules, Text.isAllBlank r.id = false ∧ r.id = key) ∨
        ∃ p ∈ parts rules, Text.isAllBlank p.rule.id = true ∧ placeKey p.place = key) ∧
    (∀ id ∈ rules.map (·.id), Text.isAllBlank id = false →
      (∀ p ∈ parts rules, Text.isAllBlank p.rule.id = true → placeKey p.place ≠ id) →
      Dict.find? id (ofRules rules).byRule =
        some (.concat (((parts rules).filter (·.rule.id == id)).map (·.issues)))) ∧
    ∀ p ∈ parts rules, Text.isAllBlank p.rule.id = true →
      (∀ r ∈ rules, r.id ≠ placeKey p.place) →
      Dict.find? (placeKey p.place) (ofRules rules).byRule = some p.issues :=
  ⟨map_parts rules, fun _ => own_of_mem_parts, (filed_ofRules rules).all,
    (filed_ofRules rules).sorted, fun _ => mem_keys_iff,
    fun _ mem named apart => find?_name named mem apart,
    fun _ mem blank apart => find?_place mem blank apart⟩

/-- A rule without a name between two that have one name: the entry of the place lists the
    first, the entry of the name lists the others. -/
theorem ofRules_attributes_of_three :
    let r : Rule := { id := "a" }
    let rules : List Rule := [r, {}, r]
    let s := ofRules rules
    Dict.find? "#1" s.byRule = some (Rule.validate {}) ∧
    Dict.find? "a" s.byRule =
      some (.append r.validate
        ⟨r.validate.errors ++ [duplicate "a" 0], r.validate.warnings⟩) := by
  intro r rules s
  obtain ⟨-, -, -, -, -, ofName, ofPlace⟩ := ofRules_attributes rules
  have second : (parts rules)[1]? = some ⟨{}, 1, Rule.validate {}⟩ := rfl
  constructor
  · exact ofPlace _ (List.mem_of_getElem? second) (by decide +kernel) (by decide +kernel)
  · have listed := ofName "a" (by decide) (by decide +kernel) (by decide +kernel)
    exact listed.trans (by decide +kernel)

/-- The issues of the first rule are listed with those of the second, whose name is the key of
    the place of the first. -/
theorem ofRules_mixes :
    let rules : List Rule := [{}, { id := "#0" }]
    Dict.find? "#0" (ofRules rules).byRule =
      some (.append (Rule.validate {}) (Rule.validate { id := "#0" })) ∧
    Dict.find? "#0" (ofRules rules).byRule ≠ some (Rule.validate {}) := by
  decide +kernel

end SetIssues

end ChatRules
