import ChatRules.Proofs.Json.Token

/-!
# Values that read back

A printed value is read back as the document of the value, if the numbers in it read back.

Results:

* `reads_of_numbers`: a value reads back, whatever stands after it.
* `read_pretty`: the whole text of a value reads back.
-/

namespace ChatRules.Json

mutual

/-- The numbers in a value. -/
def numbers : Json → List Number
  | .number n => [n]
  | .array items => itemsNumbers items
  | .object fields => fieldsNumbers fields
  | .null | .bool _ | .string _ => []

/-- The numbers in items. -/
def itemsNumbers : List Json → List Number
  | [] => []
  | j :: rest => j.numbers ++ itemsNumbers rest

/-- The numbers in fields. -/
def fieldsNumbers : List (String × Json) → List Number
  | [] => []
  | (_, j) :: rest => j.numbers ++ fieldsNumbers rest

end

theorem itemsNumbers_eq_flatMap (items : List Json) :
    itemsNumbers items = items.flatMap numbers := by
  induction items with
  | nil => rfl
  | cons j rest ih => simp [itemsNumbers, ih]

theorem fieldsNumbers_eq_flatMap (fields : List (String × Json)) :
    fieldsNumbers fields = fields.flatMap fun f => f.2.numbers := by
  induction fields with
  | nil => rfl
  | cons f rest ih => simp [fieldsNumbers, ih]

/-! ## Blanks -/

theorem skipBlanks_cons {c : Char} (h : isBlank c = false) (rest : List Char) :
    skipBlanks (c :: rest) = c :: rest := by
  simp [skipBlanks, h]

theorem toList_newline (depth : Nat) :
    (newline depth).toList = '\n' :: List.replicate (2 * depth) ' ' := by
  simp [newline, Text.toList_spaces]

theorem length_newline (depth : Nat) : (newline depth).toList.length = 2 * depth + 1 := by
  simp [toList_newline]

theorem skipBlanks_newline (depth : Nat) (text : List Char) :
    skipBlanks ((newline depth).toList ++ text) = skipBlanks text := by
  have spaces : ∀ n, skipBlanks (List.replicate n ' ' ++ text) = skipBlanks text := by
    intro n
    induction n with
    | zero => rfl
    | succ n ih => exact ih
  rw [toList_newline]
  exact spaces _

/-! ## Printed values -/

/-- The items after the first one. -/
def restItems (depth : Nat) (items : List Json) : List Char :=
  items.flatMap fun j => ',' :: (newline depth).toList ++ (j.prettyAt depth).toList

/-- The fields after the first one. -/
def restFields (depth : Nat) (fields : List (String × Json)) : List Char :=
  fields.flatMap fun f =>
    ',' :: (newline depth).toList ++ (quote f.1).toList ++ ':' :: ' ' :: (f.2.prettyAt depth).toList

theorem toList_intercalate_prettyItems (depth : Nat) (j : Json) (rest : List Json) :
    (",".intercalate (prettyItems depth (j :: rest))).toList =
      (newline depth).toList ++ (j.prettyAt depth).toList ++ restItems depth rest := by
  induction rest generalizing j with
  | nil => simp [prettyItems, restItems]
  | cons k rest ih =>
    rw [prettyItems, prettyItems, String.intercalate_cons_cons, ← prettyItems]
    simp [ih, restItems]

theorem toList_intercalate_prettyFields (depth : Nat) (k : String) (j : Json)
    (rest : List (String × Json)) :
    (",".intercalate (prettyFields depth ((k, j) :: rest))).toList =
      (newline depth).toList ++ (quote k).toList ++ ':' :: ' ' :: (j.prettyAt depth).toList ++
        restFields depth rest := by
  induction rest generalizing k j with
  | nil => simp [prettyFields, restFields]
  | cons f rest ih =>
    obtain ⟨l, i⟩ := f
    rw [prettyFields, prettyFields, String.intercalate_cons_cons, ← prettyFields]
    simp [ih, restFields]

/-! ## Reading them -/

/-- A value that reads back, with any text after it that a number does not go on with. -/
structure Reads (j : Json) : Prop where
  begins : ∀ depth, ∃ c rest, (j.prettyAt depth).toList = c :: rest ∧ isBlank c = false ∧ c ≠ ']'
  reads : ∀ depth fuel tail, endsNumber tail = true →
    3 * ((j.prettyAt depth).toList.length + tail.length) ≤ fuel →
      readValue fuel ((j.prettyAt depth).toList ++ tail) = (Document.ofJson j, some tail)

theorem endsNumber_newline (depth : Nat) (text : List Char) :
    endsNumber ((newline depth).toList ++ text) = true := by
  rw [toList_newline]
  rfl

theorem endsNumber_restItems (depth outer : Nat) (items : List Json) (text : List Char) :
    endsNumber (restItems depth items ++ ((newline outer).toList ++ text)) = true := by
  cases items with
  | nil => exact endsNumber_newline outer text
  | cons => rfl

theorem endsNumber_restFields (depth outer : Nat) (fields : List (String × Json))
    (text : List Char) :
    endsNumber (restFields depth fields ++ ((newline outer).toList ++ text)) = true := by
  cases fields with
  | nil => exact endsNumber_newline outer text
  | cons => rfl

theorem Reads.itemsWith {j : Json} (h : Reads j) {depth fuel : Nat} {more tail : List Char}
    {items : List Document} (ends : endsNumber more = true)
    (enough : 3 * ((j.prettyAt depth).toList.length + more.length) ≤ fuel)
    (next : readItems fuel false (skipBlanks more) = (items, some tail)) :
    itemsWith (fuel + 1) ((j.prettyAt depth).toList ++ more) =
      (Document.ofJson j :: items, some tail) := by
  rw [Json.itemsWith, h.reads depth fuel more ends enough]
  dsimp only
  rw [next]

/-- After a comma the next item is read. -/
theorem readItems_comma {fuel : Nat} {text rest : List Char} {c : Char} (ne : c ≠ ']')
    (next : skipBlanks text = c :: rest) :
    readItems (fuel + 1) false (',' :: text) = itemsWith fuel (c :: rest) := by
  simp only [readItems, next, show (',' : Char) ≠ ']' by decide, if_false, Bool.false_eq_true,
    if_true]
  split
  · rename_i eq
    cases eq
  · rename_i eq
    exact absurd (List.cons.inj eq).1 ne
  · rfl

/-- The first item is read without a comma. -/
theorem readItems_first {fuel : Nat} {rest : List Char} {c : Char} (ne : c ≠ ']') :
    readItems (fuel + 1) true (c :: rest) = itemsWith fuel (c :: rest) := by
  simp [readItems, ne]

theorem Reads.skipBlanks_eq {j : Json} (h : Reads j) (depth : Nat) (text : List Char) :
    ∃ c rest, (j.prettyAt depth).toList ++ text = c :: rest ∧ c ≠ ']' ∧
      skipBlanks ((j.prettyAt depth).toList ++ text) = c :: rest := by
  obtain ⟨c, rest, eq, noBlank, ne⟩ := h.begins depth
  rw [eq]
  exact ⟨c, rest ++ text, rfl, ne, skipBlanks_cons noBlank _⟩

theorem readItems_restItems {items : List Json} (reads : ∀ j ∈ items, Reads j)
    {depth outer fuel : Nat} {tail : List Char}
    (enough : 3 * ((restItems depth items).length + (newline outer).toList.length + 1 +
      tail.length) + 2 ≤ fuel) :
    readItems fuel false
        (skipBlanks (restItems depth items ++ ((newline outer).toList ++ ']' :: tail))) =
      (Document.ofJsonItems items, some tail) := by
  induction items generalizing fuel with
  | nil =>
    obtain ⟨fuel, rfl⟩ : ∃ n, fuel = n + 1 := ⟨fuel - 1, by omega⟩
    have bracket : skipBlanks (']' :: tail) = ']' :: tail := skipBlanks_cons (by decide) tail
    rw [restItems, List.flatMap_nil, List.nil_append, skipBlanks_newline, bracket]
    simp [readItems, Document.ofJsonItems]
  | cons j rest ih =>
    obtain ⟨first, others⟩ := List.forall_mem_cons.1 reads
    obtain ⟨fuel, rfl⟩ : ∃ n, fuel = n + 2 := ⟨fuel - 2, by omega⟩
    have restItems_cons : restItems depth (j :: rest) =
        ',' :: ((newline depth).toList ++ ((j.prettyAt depth).toList ++ restItems depth rest)) := by
      simp [restItems]
    rw [restItems_cons] at enough ⊢
    simp only [List.length_cons, List.length_append] at enough
    simp only [List.cons_append, List.append_assoc]
    generalize more_eq : restItems depth rest ++ ((newline outer).toList ++ ']' :: tail) = more
    obtain ⟨c, after, eq, ne, skips⟩ := first.skipBlanks_eq depth more
    rw [skipBlanks_cons (by decide), readItems_comma ne (by rw [skipBlanks_newline, skips]), ← eq]
    subst more_eq
    exact first.itemsWith (endsNumber_restItems depth outer rest _)
      (by simp only [List.length_append, List.length_cons]; omega) (ih others (by omega))

theorem Reads.fieldsWith {j : Json} (h : Reads j) (key : String) {depth fuel : Nat}
    {more tail : List Char} {fields : List (Key × Document)} (ends : endsNumber more = true)
    (enough : 3 * ((j.prettyAt depth).toList.length + more.length) ≤ fuel)
    (next : readFields fuel false (skipBlanks more) = (fields, some tail)) :
    fieldsWith (fuel + 1)
        (quotedTail key ++ (':' :: ' ' :: ((j.prettyAt depth).toList ++ more))) =
      ((.name key, Document.ofJson j) :: fields, some tail) := by
  obtain ⟨c, rest, eq, -, skips⟩ := h.skipBlanks_eq depth more
  have value : skipBlanks (' ' :: ((j.prettyAt depth).toList ++ more)) =
      (j.prettyAt depth).toList ++ more := skips.trans eq.symm
  have colon (text : List Char) : skipBlanks (':' :: text) = ':' :: text :=
    skipBlanks_cons (by decide) text
  rw [Json.fieldsWith, readString_quote]
  simp only [colon, value, h.reads depth fuel more ends enough, next]

/-- After a comma the next field is read. -/
theorem readFields_comma {fuel : Nat} {text rest : List Char}
    (next : skipBlanks text = '"' :: rest) :
    readFields (fuel + 1) false (',' :: text) = fieldsWith fuel rest := by
  simp only [readFields, next, show (',' : Char) ≠ '\x7d' by decide, if_false,
    Bool.false_eq_true, if_true]

/-- The first field is read without a comma. -/
theorem readFields_first {fuel : Nat} {rest : List Char} :
    readFields (fuel + 1) true ('"' :: rest) = fieldsWith fuel rest := by
  simp [readFields]

theorem readFields_restFields {fields : List (String × Json)} (reads : ∀ f ∈ fields, Reads f.2)
    {depth outer fuel : Nat} {tail : List Char}
    (enough : 3 * ((restFields depth fields).length + (newline outer).toList.length + 1 +
      tail.length) + 2 ≤ fuel) :
    readFields fuel false
        (skipBlanks (restFields depth fields ++ ((newline outer).toList ++ '\x7d' :: tail))) =
      (Document.ofJsonFields fields, some tail) := by
  induction fields generalizing fuel with
  | nil =>
    obtain ⟨fuel, rfl⟩ : ∃ n, fuel = n + 1 := ⟨fuel - 1, by omega⟩
    have brace : skipBlanks ('\x7d' :: tail) = '\x7d' :: tail := skipBlanks_cons (by decide) tail
    rw [restFields, List.flatMap_nil, List.nil_append, skipBlanks_newline, brace]
    simp [readFields, Document.ofJsonFields]
  | cons f rest ih =>
    obtain ⟨key, j⟩ := f
    obtain ⟨first, others⟩ := List.forall_mem_cons.1 reads
    obtain ⟨fuel, rfl⟩ : ∃ n, fuel = n + 2 := ⟨fuel - 2, by omega⟩
    have restFields_cons : restFields depth ((key, j) :: rest) =
        ',' :: ((newline depth).toList ++ ('"' :: quotedTail key ++
          ':' :: ' ' :: ((j.prettyAt depth).toList ++ restFields depth rest))) := by
      simp [restFields, toList_quote]
    rw [restFields_cons] at enough ⊢
    simp only [List.length_cons, List.length_append] at enough
    simp only [List.cons_append, List.append_assoc]
    have quote (text : List Char) : skipBlanks ('"' :: text) = '"' :: text :=
      skipBlanks_cons (by decide) text
    rw [skipBlanks_cons (by decide), readFields_comma (by rw [skipBlanks_newline, quote])]
    exact first.fieldsWith key (endsNumber_restFields depth outer rest _)
      (by simp only [List.length_append, List.length_cons]; omega) (ih others (by omega))

/-! ## Every value -/

theorem reads_string (s : String) : Reads (.string s) where
  begins depth := ⟨'"', quotedTail s, toList_quote s, by decide, by decide⟩
  reads depth fuel tail _ enough := by
    rw [prettyAt, toList_quote] at enough ⊢
    obtain ⟨fuel, rfl⟩ : ∃ n, fuel = n + 1 := ⟨fuel - 1, by simp at enough; omega⟩
    simp [readValue, readString_quote, Document.ofJson]

theorem reads_word (c : Char) (letters : List Char) {j : Json} {s : Scalar}
    (text : ∀ depth, (j.prettyAt depth).toList = c :: letters) (noBlank : isBlank c = false)
    (ne : c ≠ ']') (document : Document.ofJson j = .scalar s none)
    (reads : ∀ fuel tail, readValue (fuel + 1) (c :: letters ++ tail) =
      readWord letters s (letters ++ tail)) : Reads j where
  begins depth := ⟨c, letters, text depth, noBlank, ne⟩
  reads depth fuel tail _ enough := by
    have word (letters : List Char) : readWord letters s (letters ++ tail) =
        (.scalar s none, some tail) := by
      induction letters with
      | nil => simp [readWord]
      | cons l letters ih => simpa [readWord] using ih
    rw [text] at enough ⊢
    obtain ⟨fuel, rfl⟩ : ∃ n, fuel = n + 1 := ⟨fuel - 1, by simp at enough; omega⟩
    rw [reads, word, document]

/-- A number begins with its sign or with a digit. -/
theorem exists_head_of_readsBack {n : Number} (back : n.ReadsBack) :
    ∃ c rest, (numberText n).toList = c :: rest ∧ (c = '-' ∨ c.isDigit = true) := by
  unfold Number.ReadsBack readSigned at back
  split at back
  · rename_i rest eq
    exact ⟨'-', rest, eq, .inl rfl⟩
  · cases eq : (numberText n).toList with
    | nil => simp [eq, readNumeral] at back
    | cons c rest =>
      refine ⟨c, rest, rfl, .inr ?_⟩
      cases digit : c.isDigit with
      | true => rfl
      | false => simp [eq, readNumeral, digit] at back

theorem readValue_digit {fuel : Nat} {c : Char} (digit : c.isDigit = true) (rest : List Char) :
    readValue (fuel + 1) (c :: rest) = numeralReading (readNumeral false (c :: rest)) := by
  have ne (l : Char) (noDigit : l.isDigit = false) : c ≠ l := by
    rintro rfl
    rw [digit] at noDigit
    cases noDigit
  rw [readValue, if_neg (ne 'n' (by decide)), if_neg (ne 't' (by decide)),
    if_neg (ne 'f' (by decide)), if_neg (ne '-' (by decide)), if_pos digit]

theorem reads_number {n : Number} (back : n.ReadsBack) : Reads (.number n) where
  begins depth := by
    obtain ⟨c, rest, eq, sign | digit⟩ := exists_head_of_readsBack back
    · exact ⟨c, rest, eq, by subst sign; decide, by subst sign; decide⟩
    · refine ⟨c, rest, eq, ?_, ?_⟩
      · cases blank : isBlank c with
        | false => rfl
        | true =>
          simp only [isBlank, Bool.or_eq_true, beq_iff_eq] at blank
          rcases blank with ((rfl | rfl) | rfl) | rfl <;> exact absurd digit (by decide)
      · rintro rfl
        exact absurd digit (by decide)
  reads depth fuel tail ends enough := by
    obtain ⟨c, rest, eq, begins⟩ := exists_head_of_readsBack back
    rw [Number.ReadsBack, eq] at back
    rw [prettyAt, eq] at enough ⊢
    obtain ⟨fuel, rfl⟩ : ∃ n, fuel = n + 1 := ⟨fuel - 1, by simp at enough; omega⟩
    by_cases sign : c = '-'
    · subst sign
      rw [List.cons_append, readValue]
      simp [readNumeral_append ends back, numeralReading, Document.ofJson]
    · have digit : c.isDigit = true := begins.resolve_left sign
      rw [readSigned] at back
      · rw [List.cons_append, readValue_digit digit, ← List.cons_append,
          readNumeral_append ends back]
        rfl
      · rintro more ⟨⟩
        exact sign rfl

theorem toList_prettyAt_array (depth : Nat) (j : Json) (rest : List Json) :
    (prettyAt depth (.array (j :: rest))).toList =
      '[' :: ((newline (depth + 1)).toList ++ ((j.prettyAt (depth + 1)).toList ++
        (restItems (depth + 1) rest ++ ((newline depth).toList ++ [']'])))) := by
  simp only [prettyAt, String.toList_append, toList_intercalate_prettyItems, List.append_assoc]
  rfl

theorem readValue_array {fuel : Nat} {text rest : List Char} {items : List Document}
    (h : readItems fuel true (skipBlanks text) = (items, some rest)) :
    readValue (fuel + 1) ('[' :: text) = (.list items, some rest) := by
  simp [readValue, h]

theorem reads_array {items : List Json} (parts : ∀ j ∈ items, Reads j) :
    Reads (.array items) := by
  cases items with
  | nil =>
    have text (depth : Nat) : (prettyAt depth (.array [])).toList = ['[', ']'] := by
      simp [prettyAt]
    refine ⟨fun depth => ⟨'[', [']'], text depth, by decide, by decide⟩, ?_⟩
    intro depth fuel tail _ enough
    rw [text] at enough ⊢
    obtain ⟨fuel, rfl⟩ : ∃ n, fuel = n + 2 := ⟨fuel - 2, by simp at enough; omega⟩
    have bracket : skipBlanks (']' :: tail) = ']' :: tail := skipBlanks_cons (by decide) tail
    refine readValue_array ?_
    rw [show [']'].append tail = ']' :: tail from rfl, bracket]
    simp [readItems, Document.ofJsonItems]
  | cons j rest =>
    obtain ⟨first, others⟩ := List.forall_mem_cons.1 parts
    refine ⟨fun depth => ⟨_, _, toList_prettyAt_array depth j rest, by decide, by decide⟩, ?_⟩
    intro depth fuel tail _ enough
    rw [toList_prettyAt_array] at enough ⊢
    simp only [List.length_cons, List.length_append, List.length_nil, length_newline] at enough
    simp only [List.cons_append, List.append_assoc, List.nil_append]
    obtain ⟨fuel, rfl⟩ : ∃ n, fuel = n + 3 := ⟨fuel - 3, by omega⟩
    have next : readItems fuel false (skipBlanks
        (restItems (depth + 1) rest ++ ((newline depth).toList ++ ']' :: tail))) =
          (Document.ofJsonItems rest, some tail) :=
      readItems_restItems others (by rw [length_newline]; omega)
    have reading : itemsWith (fuel + 1) ((j.prettyAt (depth + 1)).toList ++
        (restItems (depth + 1) rest ++ ((newline depth).toList ++ ']' :: tail))) =
          (Document.ofJson j :: Document.ofJsonItems rest, some tail) :=
      first.itemsWith (endsNumber_restItems (depth + 1) depth rest (']' :: tail))
        (by simp only [List.length_append, List.length_cons, length_newline]; omega) next
    generalize restItems (depth + 1) rest ++ ((newline depth).toList ++ ']' :: tail) = more
      at reading ⊢
    obtain ⟨c, after, eq, ne, skips⟩ := first.skipBlanks_eq (depth + 1) more
    refine readValue_array ?_
    rw [skipBlanks_newline, skips, readItems_first ne, ← eq, reading]
    rfl

theorem toList_prettyAt_object (depth : Nat) (key : String) (j : Json)
    (rest : List (String × Json)) :
    (prettyAt depth (.object ((key, j) :: rest))).toList =
      '\x7b' :: ((newline (depth + 1)).toList ++ ('"' :: (quotedTail key ++
        (':' :: ' ' :: ((j.prettyAt (depth + 1)).toList ++
          (restFields (depth + 1) rest ++ ((newline depth).toList ++ ['\x7d']))))))) := by
  simp only [prettyAt, String.toList_append, toList_intercalate_prettyFields, toList_quote,
    List.append_assoc, List.cons_append]
  rfl

theorem readValue_object {fuel : Nat} {text rest : List Char} {fields : List (Key × Document)}
    (h : readFields fuel true (skipBlanks text) = (fields, some rest)) :
    readValue (fuel + 1) ('\x7b' :: text) = (.table fields, some rest) := by
  simp [readValue, h]

theorem reads_object {fields : List (String × Json)} (parts : ∀ f ∈ fields, Reads f.2) :
    Reads (.object fields) := by
  cases fields with
  | nil =>
    have text (depth : Nat) : (prettyAt depth (.object [])).toList = ['\x7b', '\x7d'] := by
      simp [prettyAt]
    refine ⟨fun depth => ⟨'\x7b', ['\x7d'], text depth, by decide, by decide⟩, ?_⟩
    intro depth fuel tail _ enough
    rw [text] at enough ⊢
    obtain ⟨fuel, rfl⟩ : ∃ n, fuel = n + 2 := ⟨fuel - 2, by simp at enough; omega⟩
    have brace : skipBlanks ('\x7d' :: tail) = '\x7d' :: tail := skipBlanks_cons (by decide) tail
    refine readValue_object ?_
    rw [show ['\x7d'].append tail = '\x7d' :: tail from rfl, brace]
    simp [readFields, Document.ofJsonFields]
  | cons f rest =>
    obtain ⟨key, j⟩ := f
    obtain ⟨first, others⟩ := List.forall_mem_cons.1 parts
    refine ⟨fun depth => ⟨_, _, toList_prettyAt_object depth key j rest, by decide, by decide⟩, ?_⟩
    intro depth fuel tail _ enough
    rw [toList_prettyAt_object] at enough ⊢
    simp only [List.length_cons, List.length_append, List.length_nil, length_newline] at enough
    simp only [List.cons_append, List.append_assoc, List.nil_append]
    obtain ⟨fuel, rfl⟩ : ∃ n, fuel = n + 3 := ⟨fuel - 3, by omega⟩
    have quote (text : List Char) : skipBlanks ('"' :: text) = '"' :: text :=
      skipBlanks_cons (by decide) text
    refine readValue_object ?_
    rw [skipBlanks_newline, quote, readFields_first]
    exact first.fieldsWith key (endsNumber_restFields (depth + 1) depth rest ('\x7d' :: tail))
      (by simp only [List.length_append, List.length_cons, length_newline]; omega)
      (readFields_restFields others (by rw [length_newline]; omega))

/-- **A printed value reads back.** -/
theorem reads_of_numbers (j : Json) (numbers : ∀ n ∈ j.numbers, n.ReadsBack) : Reads j := by
  induction j using induction with
  | null =>
    exact reads_word 'n' ['u', 'l', 'l'] (fun _ => by simp [prettyAt]) (by decide) (by decide) rfl
      fun _ _ => by simp [readValue]
  | bool b =>
    cases b with
    | true =>
      exact reads_word 't' ['r', 'u', 'e'] (fun _ => by simp [prettyAt]) (by decide) (by decide) rfl
        fun _ _ => by simp [readValue]
    | false =>
      exact reads_word 'f' ['a', 'l', 's', 'e'] (fun _ => by simp [prettyAt]) (by decide)
        (by decide) rfl
        fun _ _ => by simp [readValue]
  | number n => exact reads_number (numbers n List.mem_cons_self)
  | string s => exact reads_string s
  | array items ih =>
    simp only [Json.numbers, itemsNumbers_eq_flatMap, List.mem_flatMap] at numbers
    exact reads_array fun j mem => ih j mem fun n isPart => numbers n ⟨j, mem, isPart⟩
  | object fields ih =>
    simp only [Json.numbers, fieldsNumbers_eq_flatMap, List.mem_flatMap] at numbers
    exact reads_object fun f mem => ih f mem fun n isPart => numbers n ⟨f, mem, isPart⟩

/-- The text of a value reads back as a whole. -/
theorem read_pretty {j : Json} (numbers : ∀ n ∈ j.numbers, n.ReadsBack) :
    read j.pretty = ⟨Document.ofJson j, none⟩ := by
  have h := reads_of_numbers j numbers
  obtain ⟨c, rest, eq, noBlank, -⟩ := h.begins 0
  have value := h.reads 0 (3 * (j.prettyAt 0).toList.length + 3) [] rfl (by simp)
  rw [List.append_nil, eq] at value
  simp only [read, pretty, eq, skipBlanks_cons noBlank, value]
  rfl

end ChatRules.Json
