/-!
# Dictionaries

A dictionary is a list of keys and values in increasing order of the keys, each
key once. It is kept as a plain list, so that a tree can have dictionaries of
its own kind below it; the operations keep the order.

Results:

* `find?_insert_self`, `find?_insert_of_ne`: what a look-up finds after an
  insertion.
* `mem_keys_insert`, `mem_keys_override`: the keys after insertions.
* `Sorted.insert`, `sorted_ofList`: an insertion keeps the order, so entries make a
  dictionary.
* `Sorted.ofList_eq`: a dictionary is what its entries make.
* `replace_eq_self`: to put the value of a key in its place again changes nothing.
* `find?_ofList`, `length_ofList`: entries with different keys are all in the dictionary
  that they make.
* `find?_erase_self`, `find?_erase_of_ne`: what a look-up finds after a removal.
* `Sorted.ext`: dictionaries in which every key finds the same are equal.
* `Sorted.insert_eq_self`: an insertion of what a key finds changes nothing.
-/

namespace ChatRules.Dict

variable {α : Type}

/-- The value of a key. -/
def find? (key : String) : List (String × α) → Option α
  | [] => none
  | (k, v) :: rest => if k = key then some v else find? key rest

/-- Whether a key has a value. -/
def has (key : String) (d : List (String × α)) : Bool := (find? key d).isSome

/-- The dictionary with a value put at a key, in place of the one that was there. -/
def insert (key : String) (value : α) : List (String × α) → List (String × α)
  | [] => [(key, value)]
  | (k, v) :: rest =>
    if key = k then (key, value) :: rest
    else if key < k then (key, value) :: (k, v) :: rest
    else (k, v) :: insert key value rest

/-- The dictionary with another value in the place of the one at a key; a key that is
    not there stays absent. -/
def replace (key : String) (value : α) : List (String × α) → List (String × α)
  | [] => []
  | (k, v) :: rest => if k = key then (k, value) :: rest else (k, v) :: replace key value rest

/-- The dictionary without a key. -/
def erase (key : String) : List (String × α) → List (String × α)
  | [] => []
  | (k, v) :: rest => if k = key then rest else (k, v) :: erase key rest

/-- The dictionary of a list of entries; of several with one key the last counts. -/
def ofList (entries : List (String × α)) : List (String × α) :=
  entries.foldl (fun d e => insert e.1 e.2 d) []

/-- The first dictionary with the entries of the second put over it. -/
def override (base upper : List (String × α)) : List (String × α) :=
  upper.foldl (fun d e => insert e.1 e.2 d) base

/-- The keys in increasing order, each once. -/
def Sorted (d : List (String × α)) : Prop := d.Pairwise (·.1 < ·.1)

theorem find?_insert_self (key : String) (value : α) (d : List (String × α)) :
    find? key (insert key value d) = some value := by
  induction d with
  | nil => simp [insert, find?]
  | cons e rest ih =>
    obtain ⟨k, v⟩ := e
    unfold insert
    split
    · simp [find?]
    · split
      · simp [find?]
      · rename_i ne _
        simp [find?, Ne.symm ne, ih]

theorem find?_insert_of_ne {key other : String} (ne : other ≠ key) (value : α)
    (d : List (String × α)) : find? other (insert key value d) = find? other d := by
  induction d with
  | nil => simp [insert, find?, Ne.symm ne]
  | cons e rest ih =>
    obtain ⟨k, v⟩ := e
    unfold insert
    split
    · rename_i h
      subst h
      simp [find?, Ne.symm ne]
    · split <;> simp [find?, Ne.symm ne, ih]

theorem replace_eq_self {key : String} {value : α} {d : List (String × α)}
    (found : find? key d = some value) : replace key value d = d := by
  induction d with
  | nil => rfl
  | cons e rest ih =>
    obtain ⟨k, v⟩ := e
    unfold find? at found
    unfold replace
    split
    · rename_i h
      simp_all
    · rename_i h
      rw [if_neg h] at found
      rw [ih found]

theorem find?_replace_self {key : String} (value : α) {old : α} {d : List (String × α)}
    (found : find? key d = some old) : find? key (replace key value d) = some value := by
  induction d with
  | nil => cases found
  | cons e rest ih =>
    obtain ⟨k, v⟩ := e
    unfold find? at found
    unfold replace
    split
    · rename_i h
      simp [find?, h]
    · rename_i h
      rw [if_neg h] at found
      simp [find?, h, ih found]

theorem find?_replace_of_ne {key other : String} (ne : other ≠ key) (value : α)
    (d : List (String × α)) : find? other (replace key value d) = find? other d := by
  induction d with
  | nil => rfl
  | cons e rest ih =>
    obtain ⟨k, v⟩ := e
    unfold replace
    split
    · rename_i h
      subst h
      simp [find?, Ne.symm ne]
    · simp [find?, ih]

theorem mem_of_find? {key : String} {value : α} {d : List (String × α)}
    (found : find? key d = some value) : (key, value) ∈ d := by
  induction d with
  | nil => cases found
  | cons e rest ih =>
    obtain ⟨k, v⟩ := e
    unfold find? at found
    split at found
    · rename_i h
      cases found
      exact h ▸ List.mem_cons_self
    · exact List.mem_cons_of_mem _ (ih found)

theorem find?_of_mem {key : String} {value : α} {d : List (String × α)}
    (unique : (d.map (·.1)).Nodup) (mem : (key, value) ∈ d) : find? key d = some value := by
  induction d with
  | nil => cases mem
  | cons e rest ih =>
    obtain ⟨k, v⟩ := e
    obtain ⟨fresh, others⟩ := List.nodup_cons.1 unique
    rcases List.mem_cons.1 mem with here | later
    · cases here
      simp [find?]
    · have ne : k ≠ key := by
        rintro rfl
        exact fresh (List.mem_map.2 ⟨_, later, rfl⟩)
      rw [find?, if_neg ne]
      exact ih others later

theorem mem_insert {key : String} {value : α} {d : List (String × α)} {e : String × α}
    (mem : e ∈ insert key value d) : e = (key, value) ∨ e ∈ d := by
  induction d with
  | nil => simpa [insert] using mem
  | cons f rest ih =>
    obtain ⟨k, v⟩ := f
    unfold insert at mem
    split at mem
    · rcases List.mem_cons.1 mem with h | h
      · exact .inl h
      · exact .inr (List.mem_cons_of_mem _ h)
    · split at mem
      · rcases List.mem_cons.1 mem with h | h
        · exact .inl h
        · exact .inr h
      · rcases List.mem_cons.1 mem with h | h
        · exact .inr (h ▸ List.mem_cons_self)
        · rcases ih h with h | h
          · exact .inl h
          · exact .inr (List.mem_cons_of_mem _ h)

theorem mem_of_mem_override {base upper : List (String × α)} {e : String × α}
    (mem : e ∈ override base upper) : e ∈ base ∨ e ∈ upper := by
  induction upper generalizing base with
  | nil => exact .inl mem
  | cons f rest ih =>
    rcases @ih (Dict.insert f.1 f.2 base) mem with h | h
    · rcases mem_insert h with rfl | h
      · exact .inr List.mem_cons_self
      · exact .inl h
    · exact .inr (List.mem_cons_of_mem _ h)

theorem mem_of_mem_ofList {entries : List (String × α)} {e : String × α}
    (mem : e ∈ ofList entries) : e ∈ entries := by
  have mem : e ∈ override [] entries := mem
  exact (mem_of_mem_override mem).resolve_left List.not_mem_nil

theorem mem_keys_insert {key other : String} {value : α} {d : List (String × α)} :
    other ∈ (insert key value d).map (·.1) ↔ other = key ∨ other ∈ d.map (·.1) := by
  induction d with
  | nil => simp [insert]
  | cons e rest ih =>
    obtain ⟨k, v⟩ := e
    unfold insert
    split
    · rename_i same
      subst same
      simp
    · split
      · simp
      · rw [List.map_cons, List.mem_cons, ih, List.map_cons, List.mem_cons]
        exact or_left_comm

theorem mem_keys_override {key : String} {base upper : List (String × α)} :
    key ∈ (override base upper).map (·.1) ↔ key ∈ base.map (·.1) ∨ key ∈ upper.map (·.1) := by
  induction upper generalizing base with
  | nil => simp [override]
  | cons e rest ih =>
    have moved : key ∈ (override base (e :: rest)).map (·.1) ↔
        key ∈ (insert e.1 e.2 base).map (·.1) ∨ key ∈ rest.map (·.1) := ih
    rw [moved, mem_keys_insert, List.map_cons, List.mem_cons, or_assoc]
    exact or_left_comm

theorem Sorted.insert {d : List (String × α)} (sorted : Sorted d) (key : String) (value : α) :
    Sorted (Dict.insert key value d) := by
  induction d with
  | nil => simp [Dict.insert, Sorted]
  | cons e rest ih =>
    obtain ⟨k, v⟩ := e
    obtain ⟨below, tail⟩ := List.pairwise_cons.1 sorted
    unfold Dict.insert
    split
    · rename_i h
      subst h
      exact List.pairwise_cons.2 ⟨below, tail⟩
    · rename_i ne
      split
      · rename_i lt
        refine List.pairwise_cons.2 ⟨fun f mem => ?_, sorted⟩
        rcases List.mem_cons.1 mem with rfl | mem
        · exact lt
        · exact String.lt_trans lt (below f mem)
      · rename_i nlt
        refine List.pairwise_cons.2 ⟨fun f mem => ?_, ih tail⟩
        rcases mem_insert mem with rfl | mem
        · refine String.not_le.1 fun le => nlt (String.not_le.1 fun ge => ?_)
          exact ne (String.le_antisymm le ge)
        · exact below f mem

theorem insert_of_forall_lt {key : String} {d : List (String × α)} (above : ∀ e ∈ d, e.1 < key)
    (value : α) : Dict.insert key value d = d ++ [(key, value)] := by
  induction d with
  | nil => rfl
  | cons e rest ih =>
    obtain ⟨k, v⟩ := e
    obtain ⟨lt, others⟩ := List.forall_mem_cons.1 above
    have ne : key ≠ k := (String.ne_of_lt lt).symm
    have notLt : ¬ key < k := fun gt => String.lt_irrefl _ (String.lt_trans lt gt)
    simp only [Dict.insert, if_neg ne, if_neg notLt, ih others, List.cons_append]

theorem Sorted.override {base : List (String × α)} (sorted : Sorted base)
    (upper : List (String × α)) : Sorted (Dict.override base upper) := by
  induction upper generalizing base with
  | nil => exact sorted
  | cons e rest ih => exact ih (sorted.insert e.1 e.2)

theorem sorted_ofList (entries : List (String × α)) : Sorted (ofList entries) :=
  Sorted.override List.Pairwise.nil entries

/-- Entries that stand in order above those of a dictionary are put after them. -/
theorem Sorted.override_eq_append {base upper : List (String × α)}
    (sorted : Sorted (base ++ upper)) : Dict.override base upper = base ++ upper := by
  induction upper generalizing base with
  | nil => simp [Dict.override]
  | cons e rest ih =>
    have above : ∀ b ∈ base, b.1 < e.1 := fun b mem =>
      (List.pairwise_append.1 sorted).2.2 b mem e List.mem_cons_self
    have inserted : Dict.insert e.1 e.2 base = base ++ [e] := insert_of_forall_lt above e.2
    have next : Sorted (Dict.insert e.1 e.2 base ++ rest) := by simpa [inserted] using sorted
    have moved : Dict.override base (e :: rest) = Dict.insert e.1 e.2 base ++ rest := ih next
    rw [moved, inserted]
    simp

/-- A dictionary is what its entries make. -/
theorem Sorted.ofList_eq {d : List (String × α)} (sorted : Sorted d) : ofList d = d :=
  @Sorted.override_eq_append _ [] d sorted

theorem find?_eq_none_of_not_mem {key : String} {d : List (String × α)}
    (absent : key ∉ d.map (·.1)) : find? key d = none := by
  induction d with
  | nil => rfl
  | cons e rest ih =>
    obtain ⟨k, v⟩ := e
    have ne : k ≠ key := fun eq => absent (eq ▸ List.mem_cons_self)
    simp only [find?, if_neg ne, ih fun mem => absent (List.mem_cons_of_mem k mem)]

/-- Of entries with different keys, each is found above those of a dictionary. -/
theorem find?_override {upper : List (String × α)} (unique : (upper.map (·.1)).Nodup)
    (key : String) (base : List (String × α)) :
    find? key (override base upper) = (find? key upper).or (find? key base) := by
  induction upper generalizing base with
  | nil => rfl
  | cons e rest ih =>
    obtain ⟨k, v⟩ := e
    obtain ⟨absent, others⟩ := List.nodup_cons.1 unique
    have moved : find? key (override base ((k, v) :: rest)) =
        (find? key rest).or (find? key (Dict.insert k v base)) := ih others _
    rw [moved]
    by_cases eq : k = key
    · subst eq
      rw [find?_eq_none_of_not_mem absent, find?_insert_self]
      simp [find?]
    · rw [find?_insert_of_ne (Ne.symm eq)]
      simp [find?, eq]

/-- Entries with different keys are found in the dictionary that they make. -/
theorem find?_ofList {entries : List (String × α)} (unique : (entries.map (·.1)).Nodup)
    (key : String) : find? key (ofList entries) = find? key entries := by
  have found : find? key (ofList entries) = (find? key entries).or none :=
    find?_override unique key []
  rw [found, Option.or_none]

theorem find?_override_of_none {key : String} {upper : List (String × α)}
    (absent : find? key upper = none) (base : List (String × α)) :
    find? key (override base upper) = find? key base := by
  induction upper generalizing base with
  | nil => rfl
  | cons e rest ih =>
    obtain ⟨k, v⟩ := e
    unfold find? at absent
    split at absent
    · cases absent
    · rename_i ne
      have moved : find? key (override base ((k, v) :: rest)) = find? key (insert k v base) :=
        ih absent _
      rw [moved, find?_insert_of_ne (Ne.symm ne)]

theorem find?_ofList_append_singleton (entries : List (String × α)) (key : String) (value : α) :
    find? key (ofList (entries ++ [(key, value)])) = some value := by
  rw [ofList, List.foldl_append]
  exact find?_insert_self key value _

theorem length_insert {key : String} {d : List (String × α)} (absent : find? key d = none)
    (value : α) : (Dict.insert key value d).length = d.length + 1 := by
  induction d with
  | nil => rfl
  | cons e rest ih =>
    obtain ⟨k, v⟩ := e
    unfold find? at absent
    split at absent
    · cases absent
    · rename_i ne
      unfold Dict.insert
      rw [if_neg (Ne.symm ne)]
      split
      · rfl
      · simp [ih absent]

theorem length_override {base upper : List (String × α)} (unique : (upper.map (·.1)).Nodup)
    (absent : ∀ e ∈ upper, find? e.1 base = none) :
    (override base upper).length = base.length + upper.length := by
  induction upper generalizing base with
  | nil => rfl
  | cons e rest ih =>
    obtain ⟨notMem, others⟩ := List.nodup_cons.1 unique
    obtain ⟨first, restAbsent⟩ := List.forall_mem_cons.1 absent
    have moved : (override base (e :: rest)).length =
        (Dict.insert e.1 e.2 base).length + rest.length := by
      refine ih others fun f mem => ?_
      have ne : f.1 ≠ e.1 := fun eq => notMem (List.mem_map.2 ⟨f, mem, eq⟩)
      rw [find?_insert_of_ne ne, restAbsent f mem]
    rw [moved, length_insert first, List.length_cons]
    omega

/-- Entries with different keys make a dictionary of as many. -/
theorem length_ofList {entries : List (String × α)} (unique : (entries.map (·.1)).Nodup) :
    (ofList entries).length = entries.length := by
  have length : (ofList entries).length = 0 + entries.length :=
    length_override unique fun _ _ => rfl
  rw [length, Nat.zero_add]

theorem Sorted.nodup {d : List (String × α)} (sorted : Sorted d) : (d.map (·.1)).Nodup := by
  refine List.pairwise_map.2 (List.Pairwise.imp (fun {e f} lt eq => ?_) sorted)
  rw [eq] at lt
  exact String.lt_irrefl _ lt

theorem find?_filter (p : String → Bool) (key : String) (d : List (String × α)) :
    find? key (d.filter fun e => p e.1) = if p key then find? key d else none := by
  induction d with
  | nil => simp [find?]
  | cons e rest ih =>
    obtain ⟨k, v⟩ := e
    by_cases kept : p k
    · rw [List.filter_cons_of_pos (by simpa using kept)]
      by_cases eq : k = key
      · subst eq
        simp [find?, kept]
      · simp [find?, eq, ih]
    · rw [List.filter_cons_of_neg (by simpa using kept), ih]
      by_cases eq : k = key
      · subst eq
        simp [kept]
      · simp [find?, eq]

theorem find?_map {β : Type} (f : α → β) (key : String) (d : List (String × α)) :
    find? key (d.map fun e => (e.1, f e.2)) = (find? key d).map f := by
  induction d with
  | nil => rfl
  | cons e rest ih =>
    simp only [List.map_cons, find?, ih]
    split <;> rfl

/-- A key that is renamed finds what it found, if no two keys get one name. -/
theorem find?_map_key {β : Type} {rename : String → String}
    (injective : ∀ {k l}, rename k = rename l → k = l) (f : String → α → β) (key : String)
    (d : List (String × α)) :
    find? (rename key) (d.map fun e => (rename e.1, f e.1 e.2)) = (find? key d).map (f key) := by
  induction d with
  | nil => rfl
  | cons e rest ih =>
    obtain ⟨k, v⟩ := e
    rw [List.map_cons, find?, find?, ih]
    by_cases eq : k = key
    · simp [eq]
    · have ne : rename k ≠ rename key := fun same => eq (injective same)
      simp [eq, ne]

theorem find?_append (key : String) (d e : List (String × α)) :
    find? key (d ++ e) = (find? key d).or (find? key e) := by
  induction d with
  | nil => rfl
  | cons f rest ih =>
    simp only [List.cons_append, find?, ih]
    split <;> rfl

theorem mem_replace {key : String} {value : α} {d : List (String × α)} {e : String × α}
    (mem : e ∈ replace key value d) : e = (key, value) ∨ e ∈ d := by
  induction d with
  | nil => cases mem
  | cons f rest ih =>
    obtain ⟨k, v⟩ := f
    unfold replace at mem
    split at mem
    · rename_i h
      subst h
      rcases List.mem_cons.1 mem with h | h
      · exact .inl h
      · exact .inr (List.mem_cons_of_mem _ h)
    · rcases List.mem_cons.1 mem with h | h
      · exact .inr (h ▸ List.mem_cons_self)
      · exact (ih h).imp_right (List.mem_cons_of_mem _)

theorem map_fst_replace (key : String) (value : α) (d : List (String × α)) :
    (replace key value d).map (·.1) = d.map (·.1) := by
  induction d with
  | nil => rfl
  | cons e rest ih =>
    obtain ⟨k, v⟩ := e
    unfold replace
    split <;> simp [ih]

theorem Sorted.replace {d : List (String × α)} (sorted : Sorted d) (key : String) (value : α) :
    Sorted (Dict.replace key value d) := by
  have keys : (d.map (·.1)).Pairwise (· < ·) := List.pairwise_map.2 sorted
  rw [← map_fst_replace key value d] at keys
  exact List.pairwise_map.1 keys

theorem find?_erase_of_ne {key other : String} (ne : other ≠ key) (d : List (String × α)) :
    find? other (erase key d) = find? other d := by
  induction d with
  | nil => rfl
  | cons e rest ih =>
    obtain ⟨k, v⟩ := e
    unfold erase
    split
    · rename_i h
      subst h
      simp [find?, Ne.symm ne]
    · simp [find?, ih]

theorem find?_eq_none_of_forall_ne {key : String} {d : List (String × α)}
    (h : ∀ e ∈ d, e.1 ≠ key) : find? key d = none := by
  induction d with
  | nil => rfl
  | cons e rest ih =>
    obtain ⟨k, v⟩ := e
    have : k ≠ key := h (k, v) List.mem_cons_self
    simp [find?, this, ih fun e mem => h e (List.mem_cons_of_mem _ mem)]

theorem find?_erase_self {d : List (String × α)} (sorted : Sorted d) (key : String) :
    find? key (erase key d) = none := by
  induction d with
  | nil => rfl
  | cons e rest ih =>
    obtain ⟨k, v⟩ := e
    obtain ⟨below, tail⟩ := List.pairwise_cons.1 sorted
    unfold erase
    split
    · rename_i h
      subst h
      refine find?_eq_none_of_forall_ne fun e mem eq => ?_
      have := below e mem
      rw [eq] at this
      exact String.lt_irrefl _ this
    · rename_i ne
      simp [find?, ne, ih tail]

/-- A key below those of a dictionary in order is not in it. -/
theorem Sorted.find?_eq_none {key : String} {value : α} {d : List (String × α)}
    (sorted : Sorted ((key, value) :: d)) {other : String} (le : other ≤ key) :
    find? other d = none := by
  refine find?_eq_none_of_forall_ne fun e mem eq => ?_
  have below := (List.pairwise_cons.1 sorted).1 e mem
  rw [eq] at below
  exact String.not_lt.2 le below

theorem Sorted.ext {d e : List (String × α)} (hd : Sorted d) (he : Sorted e)
    (h : ∀ key, find? key d = find? key e) : d = e := by
  induction d generalizing e with
  | nil =>
    cases e with
    | nil => rfl
    | cons f rest => simpa [find?] using h f.1
  | cons f rest ih =>
    obtain ⟨k, v⟩ := f
    cases e with
    | nil => simpa [find?] using h k
    | cons g others =>
      obtain ⟨l, w⟩ := g
      have first : k = l := by
        refine Decidable.byContradiction fun ne => ?_
        rcases String.le_total k l with le | le
        · have absent : find? k others = none := he.find?_eq_none le
          simpa [find?, Ne.symm ne, absent] using h k
        · have absent : find? l rest = none := hd.find?_eq_none le
          simpa [find?, ne, absent] using h l
      subst first
      have value : v = w := by simpa [find?] using h k
      subst value
      have tails : rest = others := by
        refine ih (List.pairwise_cons.1 hd).2 (List.pairwise_cons.1 he).2 fun key => ?_
        by_cases eq : k = key
        · subst eq
          rw [hd.find?_eq_none (String.le_refl _), he.find?_eq_none (String.le_refl _)]
        · simpa [find?, eq] using h key
      rw [tails]

theorem Sorted.insert_eq_self {key : String} {value : α} {d : List (String × α)}
    (sorted : Sorted d) (found : find? key d = some value) : Dict.insert key value d = d := by
  refine (sorted.insert key value).ext sorted fun other => ?_
  by_cases eq : other = key
  · rw [eq, find?_insert_self, found]
  · exact find?_insert_of_ne eq value d

end ChatRules.Dict
