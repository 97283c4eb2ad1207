import ChatRules.Proofs.Document.Saved

/-!
# Changed records

What a record is read as depends on what stands at its fields. A table with another value at
one of them, and a list with another item in its place, differ in that field alone. A list may
also be continued with what stands for the fields that it leaves out.

Results:

* `record?_set`, `fieldsOfItems?_set`: the fields of a changed record.
* `orElse?_set_self`, `orElse?_set_of_ne`: what they come to.
* `fieldsOfItems?_append`, `orElse?_append_drop`: a list that is continued.
* `listOf?_modifyItem`: a list with one item changed.
-/

namespace ChatRules

namespace Dict

variable {α : Type}

/-- The entries with a value at a key, in the place of the one that was there or else after
    all others. -/
def set (key : String) (value : α) : List (String × α) → List (String × α)
  | [] => [(key, value)]
  | (k, v) :: rest => if k = key then (k, value) :: rest else (k, v) :: set key value rest

theorem find?_set_self (key : String) (value : α) (d : List (String × α)) :
    find? key (set key value d) = some value := by
  induction d with
  | nil => simp [set, find?]
  | cons e rest ih =>
    obtain ⟨k, v⟩ := e
    unfold set
    split
    · rename_i eq
      simp [find?, eq]
    · rename_i ne
      simp [find?, ne, ih]

theorem find?_set_of_ne {key other : String} (ne : other ≠ key) (value : α)
    (d : List (String × α)) : find? other (set key value d) = find? other d := by
  induction d with
  | nil => simp [set, find?, ne.symm]
  | cons e rest ih =>
    obtain ⟨k, v⟩ := e
    unfold set
    split
    · rename_i eq
      simp [find?, eq, ne.symm]
    · simp [find?, ih]

theorem map_set {β : Type} (f : α → β) (key : String) (value : α) (d : List (String × α)) :
    (set key value d).map (fun e => (e.1, f e.2)) =
      set key (f value) (d.map fun e => (e.1, f e.2)) := by
  induction d with
  | nil => rfl
  | cons e rest ih =>
    obtain ⟨k, v⟩ := e
    simp only [set, List.map_cons]
    split
    · rfl
    · rw [List.map_cons, ih]

end Dict

namespace Json

/-- The value with one of its items changed, if it is a list. -/
def modifyItem (i : Nat) (change : Json → Json) : Json → Json
  | .array items => .array (items.modify i change)
  | j => j

end Json

namespace Document

variable {names : List String} {key : String} {d : Document}

/-! ## Fields of tables -/

section

variable {fields taken : List (String × Document)}

/-- What a first field adds to those of a table. -/
theorem fieldsOfTable?_cons {name : String} {e : Document} :
    fieldsOfTable? names (named ((name, e) :: fields)) = some taken ↔
      ∃ others, fieldsOfTable? names (named fields) = some others ∧
        if names.contains name then Dict.find? name others = none ∧ taken = (name, e) :: others
        else taken = others := by
  rw [named_cons, fieldsOfTable?]
  cases fieldsOfTable? names (named fields) with
  | none => simp
  | some others =>
    cases known : names.contains name with
    | true =>
      cases fresh : Dict.find? name others with
      | none => simp [fieldOfKey?, -List.contains_eq_mem, known, Dict.has, fresh, eq_comm]
      | some e => simp [fieldOfKey?, -List.contains_eq_mem, known, Dict.has, fresh]
    | false => simp [fieldOfKey?, -List.contains_eq_mem, known, eq_comm]

/-- What a record has at one of its fields is what its table has there. -/
theorem find?_of_fieldsOfTable? (known : names.contains key = true)
    (h : fieldsOfTable? names (named fields) = some taken) :
    Dict.find? key taken = Dict.find? key fields := by
  induction fields generalizing taken with
  | nil =>
    cases h
    rfl
  | cons f rest ih =>
    obtain ⟨name, e⟩ := f
    obtain ⟨others, more, first⟩ := fieldsOfTable?_cons.1 h
    split at first
    · obtain ⟨-, rfl⟩ := first
      rw [Dict.find?, Dict.find?, ih more]
    · rename_i unknown
      have ne : name ≠ key := by
        rintro rfl
        exact unknown known
      rw [Dict.find?, if_neg ne, first, ih more]

/-- The fields of a table with another value at one of them. -/
theorem fieldsOfTable?_set (known : names.contains key = true)
    (h : fieldsOfTable? names (named fields) = some taken) :
    fieldsOfTable? names (named (Dict.set key d fields)) = some (Dict.set key d taken) := by
  induction fields generalizing taken with
  | nil =>
    cases h
    exact fieldsOfTable?_cons.2 ⟨[], rfl, by simp only [known, if_true]; exact ⟨rfl, rfl⟩⟩
  | cons f rest ih =>
    obtain ⟨name, e⟩ := f
    obtain ⟨others, more, first⟩ := fieldsOfTable?_cons.1 h
    by_cases same : name = key
    · subst same
      rw [if_pos known] at first
      obtain ⟨fresh, rfl⟩ := first
      simp only [Dict.set, if_true]
      exact fieldsOfTable?_cons.2 ⟨others, more, by rw [if_pos known]; exact ⟨fresh, rfl⟩⟩
    · rw [Dict.set, if_neg same]
      refine fieldsOfTable?_cons.2 ⟨Dict.set key d others, ih more, ?_⟩
      split at first
      · rename_i here
        obtain ⟨fresh, rfl⟩ := first
        rw [if_pos here, Dict.find?_set_of_ne same, Dict.set, if_neg same]
        exact ⟨fresh, rfl⟩
      · rename_i unknown
        rw [if_neg unknown, first]

end

section

variable {fields : List (String × Json)} {taken : List (String × Document)}
  (known : names.contains key = true)
  (record : record? names (ofJson (.object fields)) = some taken)
include known record

/-- What a record has at one of its fields is what its object has there. -/
theorem find?_of_record?_object : Dict.find? key taken = (Dict.find? key fields).map ofJson := by
  rw [ofJson_object, record?] at record
  rw [find?_of_fieldsOfTable? known record, saved, Dict.find?_map]

/-- The fields of an object with another value at one of them. -/
theorem record?_set (v : Json) :
    record? names (ofJson (.object (Dict.set key v fields))) =
      some (Dict.set key (ofJson v) taken) := by
  rw [ofJson_object, record?] at record
  have changed : saved (Dict.set key v fields) = Dict.set key (ofJson v) (saved fields) :=
    Dict.map_set ofJson key v fields
  rw [ofJson_object, changed, record?, fieldsOfTable?_set known record]

end

/-! ## Fields of lists -/

/-- The fields of a list with another item in the place of one of them. -/
theorem fieldsOfItems?_set {items : List Document} {taken : List (String × Document)} {i : Nat}
    (unique : names.Nodup) (place : names[i]? = some key) (here : i < items.length)
    (h : fieldsOfItems? names items = some taken) :
    fieldsOfItems? names (items.set i d) = some (Dict.set key d taken) := by
  induction names generalizing items taken i with
  | nil => cases place
  | cons name names ih =>
    obtain ⟨absent, others⟩ := List.nodup_cons.1 unique
    cases items with
    | nil => cases here
    | cons e rest =>
      obtain ⟨more, eq, rfl⟩ := Option.map_eq_some_iff.1 h
      cases i with
      | zero =>
        cases place
        simp [fieldsOfItems?, eq, Dict.set]
      | succ i =>
        have ne : name ≠ key := by
          rintro rfl
          exact absent (List.mem_of_getElem? place)
        have changed := ih others place (Nat.lt_of_succ_lt_succ here) eq
        simp [fieldsOfItems?, changed, Dict.set, ne]

/-- The fields of a list that is continued. -/
theorem fieldsOfItems?_append {items more : List Document}
    {taken others : List (String × Document)} (h : fieldsOfItems? names items = some taken)
    (rest : fieldsOfItems? (names.drop items.length) more = some others) :
    fieldsOfItems? names (items ++ more) = some (taken ++ others) := by
  induction items generalizing names taken with
  | nil =>
    cases names <;> cases h <;> exact rest
  | cons e items ih =>
    cases names with
    | nil => cases h
    | cons name names =>
      obtain ⟨fields, eq, rfl⟩ := Option.map_eq_some_iff.1 h
      simp [fieldsOfItems?, ih eq rest]

/-! ## What fields come to -/

section

variable {α : Type} (value? : Document → Option α) (other : α)

theorem orElse?_set_self (key : String) (d : Document) (fields : List (String × Document)) :
    orElse? value? other key (Dict.set key d fields) = value? d := by
  rw [orElse?, Dict.find?_set_self]

theorem orElse?_set_of_ne {name : String} (ne : name ≠ key) (d : Document)
    (fields : List (String × Document)) :
    orElse? value? other name (Dict.set key d fields) = orElse? value? other name fields := by
  rw [orElse?, orElse?, Dict.find?_set_of_ne ne]

/-- Fields after others change nothing if they stand for what is left out. -/
theorem orElse?_append_drop {name : String} {blanks : List (String × Document)}
    (unique : (blanks.map (·.1)).Nodup) (blank : orElse? value? other name blanks = some other)
    (fields : List (String × Document)) (n : Nat) :
    orElse? value? other name (fields ++ blanks.drop n) = orElse? value? other name fields := by
  rw [orElse?, orElse?, Dict.find?_append]
  cases Dict.find? name fields with
  | some d => rfl
  | none =>
    cases found : Dict.find? name (blanks.drop n) with
    | none => rfl
    | some d =>
      have whole : Dict.find? name blanks = some d :=
        Dict.find?_of_mem unique (List.mem_of_mem_drop (Dict.mem_of_find? found))
      rwa [orElse?, whole] at blank

end

/-! ## Lists -/

/-- A list with one item changed. -/
theorem listOf?_modifyItem {α : Type} {item? : Document → Option α} {change : Json → Json}
    {effect : α → α}
    (step : ∀ j a, item? (ofJson j) = some a → item? (ofJson (change j)) = some (effect a))
    {j : Json} {as : List α} (h : listOf? item? (ofJson j) = some as) (i : Nat) :
    listOf? item? (ofJson (j.modifyItem i change)) = some (as.modify i effect) := by
  cases j with
  | array items =>
    simp only [ofJson, ofJsonItems_eq_map, listOf?, Json.modifyItem] at h ⊢
    induction items generalizing as i with
    | nil =>
      cases h
      cases i <;> rfl
    | cons first rest ih =>
      simp only [List.map_cons, List.mapM_cons, Option.bind_eq_bind, Option.bind_eq_some_iff,
        Option.pure_def, Option.some.injEq] at h
      obtain ⟨a, value, others, more, rfl⟩ := h
      cases i with
      | zero =>
        rw [List.modify_zero_cons, List.modify_zero_cons, List.map_cons, List.mapM_cons,
          step _ _ value, more]
        rfl
      | succ i =>
        rw [List.modify_succ_cons, List.modify_succ_cons, List.map_cons, List.mapM_cons, value,
          ih i more]
        rfl
  | _ => cases h

end Document

end ChatRules
