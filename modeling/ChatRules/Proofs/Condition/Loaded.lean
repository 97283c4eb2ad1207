import ChatRules.Condition.Encoding
import ChatRules.Proofs.Document.Record

/-!
# Conditions that are loaded

What a document says about conditions comes from its parts, so what the conditions of the
parts keep holds of the whole. Whatever is found, the numbers of a loaded condition have
the sizes that they are read with, and what is kept as it stands is a free-form value.

Results:

* `says_of_ofDocument`: what the condition of a document can be.
* `ofDocument_induction`: what passes from the parts of a document to the document holds of
  its condition.
* `isLoaded_of_ofDocument`: what loaded conditions hold.
-/

namespace ChatRules

open Document

/-- A test with numbers of 64 bits. -/
def Test.Fits : Test → Prop
  | .countInWindow _ window least _ => window < wordSize 64 ∧ least < wordSize 64
  | _ => True

theorem Test.fits_of_ofFields? {kind : ReasonKind} {fields : List (String × Document)}
    {test : Test} (h : Test.ofFields? kind fields = some test) : test.Fits := by
  cases test with
  | countInWindow terms window least mode =>
    cases kind <;>
      simp only [Test.ofFields?, Option.pure_def, Option.bind_eq_bind, Option.bind_eq_some_iff,
        Option.some.injEq, Test.countInWindow.injEq, reduceCtorEq, and_false, exists_false] at h
    obtain ⟨_, _, _, windowField, _, leastField, _, _, -, rfl, rfl, -⟩ := h
    exact ⟨lt_of_orElse?_size? (by decide) windowField, lt_of_orElse?_size? (by decide) leastField⟩
  | _ => trivial

namespace Condition

theorem exists_of_checkOf? {kind : ReasonKind} {fields? : Option (List (String × Document))}
    {c : Condition} (h : checkOf? kind fields? = some c) :
    ∃ source test, c = .check source test ∧ test.Fits := by
  simp only [checkOf?, Option.pure_def, Option.bind_eq_bind, Option.bind_eq_some_iff,
    Option.some.injEq] at h
  obtain ⟨_, _, source, _, test, found, rfl⟩ := h
  exact ⟨source, test, rfl, Test.fits_of_ofFields? found⟩

/-! ## Conditions from the parts of documents -/

section

variable {α : Type} (name : String) (value? : Document → Option α)

/-- What a table has at a field beside its type, a field that it has at most once. -/
def partIn (seen : Option α) : List (Key × Document) → Option (Option α)
  | [] => some seen
  | (key, d) :: rest =>
    if isTypeKey key then partIn seen rest
    else
      match fieldOfKey? [name] key with
      | none => none
      | some none => partIn seen rest
      | some (some _) =>
        if seen.isSome then none
        else
          match value? d with
          | none => none
          | some a => partIn (some a) rest

/-- The part of a table is that of one of its fields. -/
theorem exists_of_partIn {seen : Option α} {fields : List (Key × Document)} {a : α}
    (h : partIn name value? seen fields = some (some a)) :
    seen = some a ∨ ∃ f ∈ fields, value? f.2 = some a := by
  induction fields generalizing seen with
  | nil => exact .inl (Option.some.inj h)
  | cons f rest ih =>
    obtain ⟨key, d⟩ := f
    have below {seen} (h : partIn name value? seen rest = some (some a)) :
        seen = some a ∨ ∃ f ∈ (key, d) :: rest, value? f.2 = some a :=
      (ih h).imp_right fun ⟨f, mem, eq⟩ => ⟨f, List.mem_cons_of_mem _ mem, eq⟩
    unfold partIn at h
    split at h
    · exact below h
    · split at h
      · cases h
      · exact below h
      · split at h
        · cases h
        · split at h
          · cases h
          · rename_i found
            rcases below h with eq | part
            · cases eq
              exact .inr ⟨_, List.mem_cons_self, found⟩
            · exact .inr part

end

theorem childrenIn_eq_partIn (seen : Option (List Condition)) (fields : List (Key × Document)) :
    childrenIn seen fields = partIn "children" childrenOf seen fields := by
  induction fields generalizing seen with
  | nil => rw [childrenIn, partIn]
  | cons f rest ih =>
    obtain ⟨key, d⟩ := f
    rw [childrenIn, partIn]
    simp only [ih]
    cases fieldOfKey? ["children"] key with
    | none => rfl
    | some known => cases known <;> cases childrenOf d <;> rfl

theorem childIn_eq_partIn (seen : Option (Option Condition)) (fields : List (Key × Document)) :
    childIn seen fields = partIn "child" childOf seen fields := by
  induction fields generalizing seen with
  | nil => rw [childIn, partIn]
  | cons f rest ih =>
    obtain ⟨key, d⟩ := f
    rw [childIn, partIn]
    simp only [ih]
    cases fieldOfKey? ["child"] key with
    | none => rfl
    | some known => cases known <;> cases childOf d <;> rfl

theorem mem_of_ofItems {items : List Document} {cs : List Condition} (h : ofItems items = some cs) :
    ∀ c ∈ cs, ∃ e ∈ items, ofDocument e = some c := by
  induction items generalizing cs with
  | nil =>
    unfold ofItems at h
    cases h
    simp
  | cons d rest ih =>
    unfold ofItems at h
    split at h
    · rename_i first others
      cases h
      refine List.forall_mem_cons.2 ⟨⟨d, List.mem_cons_self, first⟩, fun c mem => ?_⟩
      obtain ⟨e, part, eq⟩ := ih others c mem
      exact ⟨e, List.mem_cons_of_mem d part, eq⟩
    · cases h

/-- What a document can say: a test of its own, the conditions of documents under it, joined
    or negated, or its value as it stands. -/
inductive Says (d : Document) : Condition → Prop
  | check (source : String) {test : Test} (fits : test.Fits) : Says d (.check source test)
  | and {cs : List Condition} (parts : ∀ c ∈ cs, ∃ e, e.IsUnder d ∧ ofDocument e = some c) :
    Says d (.and cs)
  | or {cs : List Condition} (parts : ∀ c ∈ cs, ∃ e, e.IsUnder d ∧ ofDocument e = some c) :
    Says d (.or cs)
  | not {c? : Option Condition}
    (part : ∀ c ∈ c?, ∃ e, e.IsUnder d ∧ e.isNull = false ∧ ofDocument e = some c) :
    Says d (.not c?)
  | raw {j : Json} (value : d.toJson? false = some j) : Says d (.invalid j)

section

variable {d e : Document} (part : e ∈ d.parts)
include part

theorem mem_of_childrenOf {cs : List Condition} (h : childrenOf e = some cs) :
    ∀ c ∈ cs, ∃ i, i.IsUnder d ∧ ofDocument i = some c := by
  intro c mem
  unfold childrenOf at h
  split at h
  · obtain ⟨i, below, eq⟩ := mem_of_ofItems h c mem
    exact ⟨i, .inr ⟨_, part, below⟩, eq⟩
  · cases h

theorem mem_of_childOf {c? : Option Condition} (h : childOf e = some c?) :
    ∀ c ∈ c?, ∃ i, i.IsUnder d ∧ i.isNull = false ∧ ofDocument i = some c := by
  rintro c rfl
  rw [childOf_eq] at h
  split at h
  · cases h
  · rename_i notNull
    obtain ⟨_, eq, ⟨⟩⟩ := Option.map_eq_some_iff.1 h
    exact ⟨e, .inl part, by simpa using notNull, eq⟩

end

theorem says_of_rawOf? {d : Document} {c : Condition} (h : rawOf? d = some c) : Says d c := by
  obtain ⟨j, value, rfl⟩ := Option.map_eq_some_iff.1 h
  exact .raw value

theorem says_of_checkOf? {d : Document} {kind : ReasonKind}
    {fields? : Option (List (String × Document))} {c : Condition}
    (h : checkOf? kind fields? = some c) : Says d c := by
  obtain ⟨source, test, rfl, fits⟩ := exists_of_checkOf? h
  exact .check source fits

theorem says_of_table {fields : List (Key × Document)} {c : Condition}
    (h : ofDocument (.table fields) = some c) : Says (.table fields) c := by
  have children {cs? : Option (List Condition)} (found : childrenIn none fields = some cs?) :
      ∀ c ∈ cs?.getD [], ∃ e, e.IsUnder (.table fields) ∧ ofDocument e = some c := by
    cases cs? with
    | none => simp
    | some cs =>
      rw [childrenIn_eq_partIn] at found
      obtain ⟨f, mem, eq⟩ := (exists_of_partIn _ _ found).resolve_left nofun
      exact mem_of_childrenOf (List.mem_map.2 ⟨f, mem, rfl⟩) eq
  have child {c?? : Option (Option Condition)} (found : childIn none fields = some c??) :
      ∀ c ∈ c??.getD none,
        ∃ e, e.IsUnder (.table fields) ∧ e.isNull = false ∧ ofDocument e = some c := by
    cases c?? with
    | none => simp
    | some c? =>
      rw [childIn_eq_partIn] at found
      obtain ⟨f, mem, eq⟩ := (exists_of_partIn _ _ found).resolve_left nofun
      exact mem_of_childOf (List.mem_map.2 ⟨f, mem, rfl⟩) eq
  unfold ofDocument at h
  rcases Option.or_eq_some_iff.1 h with node | ⟨-, raw⟩
  · split at node
    · obtain ⟨cs, found, rfl⟩ := Option.map_eq_some_iff.1 node
      exact .and (children found)
    · obtain ⟨cs, found, rfl⟩ := Option.map_eq_some_iff.1 node
      exact .or (children found)
    · obtain ⟨c, found, rfl⟩ := Option.map_eq_some_iff.1 node
      exact .not (child found)
    · exact says_of_checkOf? node
    · cases node
  · exact says_of_rawOf? raw

theorem says_of_list {items : List Document} {c : Condition}
    (h : ofDocument (.list items) = some c) : Says (.list items) c := by
  rcases items with _ | ⟨type, _ | ⟨first, rest⟩⟩
  · exact says_of_rawOf? (by simpa [ofDocument] using h)
  · -- The list has only the type.
    unfold ofDocument at h
    rcases Option.or_eq_some_iff.1 h with node | ⟨-, raw⟩
    · split at node <;> cases node
      · exact .and (by simp)
      · exact .or (by simp)
      · exact .not (by simp)
    · exact says_of_rawOf? raw
  · have part : first ∈ (Document.list (type :: first :: rest)).parts := by simp [parts]
    unfold ofDocument at h
    rcases Option.or_eq_some_iff.1 h with node | ⟨-, raw⟩
    · split at node
      · split at node
        · obtain ⟨cs, found, rfl⟩ := Option.map_eq_some_iff.1 node
          exact .and (mem_of_childrenOf part found)
        · cases node
      · split at node
        · obtain ⟨cs, found, rfl⟩ := Option.map_eq_some_iff.1 node
          exact .or (mem_of_childrenOf part found)
        · cases node
      · split at node
        · obtain ⟨c, found, rfl⟩ := Option.map_eq_some_iff.1 node
          exact .not (mem_of_childOf part found)
        · cases node
      · exact says_of_checkOf? node
      · cases node
    · exact says_of_rawOf? raw

/-- **What the condition of a document can be.** -/
theorem says_of_ofDocument {d : Document} {c : Condition} (h : ofDocument d = some c) :
    Says d c := by
  cases d with
  | scalar value spelling => exact says_of_rawOf? (ofDocument_scalar value spelling ▸ h)
  | list items => exact says_of_list h
  | table fields => exact says_of_table h
  | tagged inner => exact says_of_rawOf? (by simpa [ofDocument] using h)
  | broken b => exact says_of_rawOf? (by simpa [ofDocument] using h)

theorem toJson?_of_ofDocument_invalid {d : Document} {j : Json}
    (h : ofDocument d = some (.invalid j)) : d.toJson? false = some j := by
  cases says_of_ofDocument h
  assumption

/-- A document that has a value comes to a condition, be it only by being kept. -/
theorem exists_of_toJson? {d : Document} {j : Json} (value : d.toJson? false = some j) :
    ∃ c, ofDocument d = some c := by
  have kept : rawOf? d = some (.invalid j) := by
    rw [rawOf?, value]
    rfl
  unfold ofDocument
  split <;> simp only [kept] <;> first | exact ⟨_, rfl⟩ | exact ⟨_, Option.or_some⟩

/-- What passes from the parts of documents to the documents holds of all their conditions. -/
theorem ofDocument_induction {Q : Document → Prop} {P : Condition → Prop}
    (parts : ∀ d, Q d → ∀ e ∈ d.parts, Q e)
    (check : ∀ source test, test.Fits → P (.check source test))
    (and : ∀ cs, (∀ c ∈ cs, P c) → P (.and cs)) (or : ∀ cs, (∀ c ∈ cs, P c) → P (.or cs))
    (not : ∀ c?, (∀ c ∈ c?, P c ∧ ∃ e, Q e ∧ e.isNull = false ∧ ofDocument e = some c) →
      P (.not c?))
    (raw : ∀ d j, Q d → ofDocument d = some (.invalid j) → P (.invalid j))
    {d : Document} (q : Q d) {c : Condition} (h : ofDocument d = some c) : P c := by
  -- Conditions come from two levels, so the induction is on a document with its parts.
  have both : (Q d → ∀ c, ofDocument d = some c → P c) ∧
      ∀ e ∈ d.parts, Q e → ∀ c, ofDocument e = some c → P c := by
    clear q h
    induction d using Document.induction_parts with
    | step d ih =>
      refine ⟨fun q c h => ?_, fun e mem => (ih e mem).1⟩
      have under {e : Document} (below : e.IsUnder d) {c : Condition}
          (found : ofDocument e = some c) : Q e ∧ P c := by
        rcases below with mem | ⟨i, mem, below⟩
        · have qe := parts d q e mem
          exact ⟨qe, (ih e mem).1 qe c found⟩
        · have qe := parts i (parts d q i mem) e below
          exact ⟨qe, (ih i mem).2 e below qe c found⟩
      cases says_of_ofDocument h with
      | check source fits => exact check source _ fits
      | and found =>
        refine and _ fun c mem => ?_
        obtain ⟨e, below, eq⟩ := found c mem
        exact (under below eq).2
      | or found =>
        refine or _ fun c mem => ?_
        obtain ⟨e, below, eq⟩ := found c mem
        exact (under below eq).2
      | not found =>
        refine not _ fun c mem => ?_
        obtain ⟨e, below, notNull, eq⟩ := found c mem
        exact ⟨(under below eq).2, e, (under below eq).1, notNull, eq⟩
      | raw value => exact raw d _ q h
  exact both.1 q c h

/-! ## Loaded conditions -/

/-- What conditions of texts hold: their tests have numbers of 64 bits, what is negated is
    not `null`, and what is no condition is a free-form value. -/
inductive IsLoaded : Condition → Prop
  | check (source : String) {test : Test} (fits : test.Fits) : IsLoaded (.check source test)
  | and {cs : List Condition} (parts : ∀ c ∈ cs, IsLoaded c) : IsLoaded (.and cs)
  | or {cs : List Condition} (parts : ∀ c ∈ cs, IsLoaded c) : IsLoaded (.or cs)
  | not {c? : Option Condition} (part : ∀ c ∈ c?, IsLoaded c) (some : c? ≠ some (.invalid .null)) :
    IsLoaded (.not c?)
  | invalid {raw : Json} (free : raw.IsFreeForm) : IsLoaded (.invalid raw)

/-- A document with numbers of texts that is not `null` is not kept as `null`. -/
theorem ne_null_of_ofDocument {d : Document} (finite : d.IsFinite) (notNull : d.isNull = false)
    {c : Condition} (h : ofDocument d = some c) : c ≠ .invalid .null := by
  rintro rfl
  have value := toJson?_of_ofDocument_invalid h
  rw [isNull_of_toJson?_null finite value] at notNull
  cases notNull

/-- **What the conditions of a text hold.** -/
theorem isLoaded_of_ofDocument {d : Document} (finite : d.IsFinite) {c : Condition}
    (h : ofDocument d = some c) : c.IsLoaded := by
  refine ofDocument_induction (Q := Document.IsFinite) (fun d finite => finite.parts)
    (fun source test => .check source) (fun cs => .and) (fun cs => .or) (fun c? part => ?_)
    (fun d j finite eq => ?_) finite h
  · refine .not (fun c mem => (part c mem).1) ?_
    rintro rfl
    obtain ⟨-, e, finite, notNull, eq⟩ := part _ rfl
    exact ne_null_of_ofDocument finite notNull eq rfl
  · exact .invalid (Json.isFreeForm_of_toJson? (toJson?_of_ofDocument_invalid eq))

end Condition

end ChatRules
