import ChatRules.Proofs.Text.Blanks

/-!
# Words between single spaces

A collapsed text holds its words with one space between two of them and none at its ends. So its
words are what it is split into at the spaces. And when both of two such texts are put between
spaces, the one stands in the other exactly if its words do, one after the other: an occurrence
begins at the space before a word and ends at the space after a word.

Results:

* `wordChars_intercalate`, `spacedWords_collapse`: the words of a collapsed text are those that
  it was collapsed from.
* `collapseChars_collapseChars`: collapsed again, a text stays as it is.
* `mem_collapseChars_iff`: nothing but blanks is lost.
* `isSpaced_collapse`: the spaces of a collapsed text are single ones between words.
* `isInfix_spread_iff`: a text between spaces stands in another one exactly if its words stand
  in a row among the words of the other.
-/

namespace ChatRules.Text

/-! ## Collapsed texts -/

/-- Whether these can be the words of a text: none is empty, and none holds a blank. -/
def AreWords (ws : List (List Char)) : Prop := ∀ w ∈ ws, w ≠ [] ∧ ∀ c ∈ w, isBlank c = false

theorem areWords_wordChars (text : List Char) : AreWords (wordChars text) := fun _ mem =>
  ⟨splitWhere_ne_nil mem, not_isSeparator_of_mem_splitFrom (by simp) mem⟩

theorem AreWords.not_mem {ws : List (List Char)} (h : AreWords ws) : ∀ w ∈ ws, ' ' ∉ w :=
  fun w mem space => absurd ((h w mem).2 ' ' space) (by decide)

theorem collapseChars_eq (text : List Char) :
    collapseChars text = [' '].intercalate (wordChars text) := rfl

/-- Words that are joined by spaces are found again. -/
theorem wordChars_intercalate {ws : List (List Char)} (h : AreWords ws) :
    wordChars ([' '].intercalate ws) = ws := by
  induction ws with
  | nil => rfl
  | cons w rest ih =>
    obtain ⟨⟨shown, clean⟩, others⟩ := List.forall_mem_cons.1 h
    have isWord : w.isEmpty = false := by simpa using shown
    cases rest with
    | nil =>
      have alone := splitFrom_of_no_separator clean [] []
      rw [List.append_nil, List.nil_append] at alone
      rw [List.intercalate_singleton, wordChars, splitWhere, alone, splitFrom, isWord]
      rfl
    | cons next rest =>
      have space : isBlank ' ' = true := by decide
      rw [List.intercalate_cons_cons, List.append_assoc, wordChars, splitWhere,
        splitFrom_of_no_separator clean, List.nil_append, List.singleton_append, splitFrom,
        if_pos space, isWord, if_neg Bool.false_ne_true]
      exact congrArg (w :: ·) (ih others)

/-- Collapsed again, a text stays as it is. -/
theorem collapseChars_collapseChars (text : List Char) :
    collapseChars (collapseChars text) = collapseChars text := by
  rw [collapseChars_eq (collapseChars text), collapseChars_eq text,
    wordChars_intercalate (areWords_wordChars text)]

theorem AreWords.intercalate_eq_nil_iff {ws : List (List Char)} (h : AreWords ws) :
    [' '].intercalate ws = [] ↔ ws = [] := by
  constructor
  · intro nil
    rw [← wordChars_intercalate h, nil]
    rfl
  · rintro rfl
    rfl

/-- The words of a text that has single spaces between them: what it is split into at spaces. The
    empty text has none. -/
def spacedWords (text : String) : List (List Char) :=
  if text.isEmpty then [] else text.toList.splitOn ' '

theorem spacedWords_collapse (text : List Char) :
    spacedWords (String.ofList (collapseChars text)) = wordChars text := by
  have isWords := areWords_wordChars text
  rw [collapseChars_eq, spacedWords]
  cases found : wordChars text with
  | nil => rfl
  | cons w rest =>
    rw [found] at isWords
    have shown : (String.ofList ([' '].intercalate (w :: rest))).isEmpty = false := by
      rw [Bool.eq_false_iff, Ne, String.isEmpty_iff, ← String.toList_eq_nil_iff,
        String.toList_ofList, isWords.intercalate_eq_nil_iff]
      exact List.cons_ne_nil _ _
    rw [shown, if_neg Bool.false_ne_true, String.toList_ofList]
    exact List.splitOn_intercalate ' ' isWords.not_mem (List.cons_ne_nil _ _)

/-! ## Characters -/

/-- A split drops nothing but separators. -/
theorem mem_splitFrom_iff {isSeparator : Char → Bool} {piece text : List Char} {c : Char}
    (kept : isSeparator c = false) :
    (∃ p ∈ splitFrom isSeparator piece text, c ∈ p) ↔ c ∈ piece ∨ c ∈ text := by
  induction text generalizing piece with
  | nil =>
    unfold splitFrom
    cases piece with
    | nil => simp
    | cons d piece => simp
  | cons d rest ih =>
    unfold splitFrom
    by_cases separates : isSeparator d = true
    · have ne : c ≠ d := by
        rintro rfl
        rw [kept] at separates
        cases separates
      rw [if_pos separates]
      cases piece with
      | nil => simp [ih, ne]
      | cons e piece => simp [ih, ne]
    · rw [if_neg separates, ih, List.mem_append, List.mem_singleton, List.mem_cons, or_assoc]

theorem mem_intercalate_iff {ws : List (List Char)} {c : Char} (ne : c ≠ ' ') :
    c ∈ [' '].intercalate ws ↔ ∃ w ∈ ws, c ∈ w := by
  induction ws with
  | nil => simp
  | cons w rest ih =>
    cases rest with
    | nil => simp
    | cons next rest =>
      rw [List.intercalate_cons_cons, List.mem_append, List.mem_append, ih]
      simp [ne]

/-- Collapsing drops nothing but blanks. -/
theorem mem_collapseChars_iff {text : List Char} {c : Char} (shown : isBlank c = false) :
    c ∈ collapseChars text ↔ c ∈ text := by
  have ne : c ≠ ' ' := by
    rintro rfl
    exact absurd shown (by decide)
  rw [collapseChars_eq, mem_intercalate_iff ne, wordChars, splitWhere, mem_splitFrom_iff shown]
  simp

theorem mem_collapseChars {text : List Char} {c : Char} (mem : c ∈ collapseChars text) :
    c = ' ' ∨ c ∈ text := by
  by_cases space : c = ' '
  · exact .inl space
  · have inWord := mem
    rw [collapseChars_eq, mem_intercalate_iff space] at inWord
    obtain ⟨w, inText, inW⟩ := inWord
    have shown := (areWords_wordChars text w inText).2 c inW
    exact .inr ((mem_collapseChars_iff shown).1 mem)

/-! ## Single spaces -/

/-- Whether all spaces are single ones between words. -/
structure IsSpaced (text : String) : Prop where
  noneBefore : text.toList.head? ≠ some ' '
  noneAfter : text.toList.getLast? ≠ some ' '
  single : ¬ [' ', ' '] <:+: text.toList

theorem nil_mem_splitOn_cons (rest : List Char) : [] ∈ (' ' :: rest).splitOn ' ' := by
  have split := List.splitOn_append_cons_self (a := ' ') [] rest
  rw [List.nil_append] at split
  rw [split]
  exact List.mem_append_left _ List.mem_cons_self

theorem nil_mem_splitOn_append (front : List Char) : [] ∈ (front ++ [' ']).splitOn ' ' := by
  rw [List.splitOn_append_cons_self]
  exact List.mem_append_right _ List.mem_cons_self

/-- The spaces of a collapsed text are single ones between words: at any other space the text
    would be split into an empty word. -/
theorem isSpaced_collapse (text : List Char) : IsSpaced (String.ofList (collapseChars text)) := by
  have isWords := areWords_wordChars text
  have shown : collapseChars text ≠ [] → [] ∉ (collapseChars text).splitOn ' ' := by
    intro ne nil
    rw [collapseChars_eq, List.splitOn_intercalate ' ' isWords.not_mem
      (mt isWords.intercalate_eq_nil_iff.2 ne)] at nil
    exact (isWords [] nil).1 rfl
  constructor
  · intro first
    rw [String.toList_ofList] at first
    obtain ⟨rest, eq⟩ := List.head?_eq_some_iff.1 first
    rw [eq] at shown
    exact shown (List.cons_ne_nil _ _) (nil_mem_splitOn_cons rest)
  · intro last
    rw [String.toList_ofList] at last
    obtain ⟨front, eq⟩ := List.getLast?_eq_some_iff.1 last
    rw [eq] at shown
    exact shown (List.append_ne_nil_of_right_ne_nil _ (List.cons_ne_nil _ _))
      (nil_mem_splitOn_append front)
  · rw [String.toList_ofList]
    rintro ⟨front, back, eq⟩
    rw [← eq, List.append_assoc, List.cons_append] at shown
    refine shown (List.append_ne_nil_of_right_ne_nil _ (List.cons_ne_nil _ _)) ?_
    rw [List.splitOn_append_cons_self]
    exact List.mem_append_right _ (nil_mem_splitOn_cons back)

/-! ## Texts between spaces -/

/-- Every word with a space before it, and a space at the end. -/
def spread (ws : List (List Char)) : List Char := ws.flatMap (' ' :: ·) ++ [' ']

variable {ws ms : List (List Char)} {w : List Char}

theorem spread_cons (w : List Char) (ws : List (List Char)) :
    spread (w :: ws) = ' ' :: (w ++ spread ws) := by
  simp [spread]

/-- Words that are joined by spaces and put between two more. -/
theorem between_spaces_eq (some : ws ≠ []) :
    ' ' :: ([' '].intercalate ws ++ [' ']) = spread ws := by
  induction ws with
  | nil => exact absurd rfl some
  | cons w rest ih =>
    cases rest with
    | nil => rw [List.intercalate_singleton, spread_cons]; rfl
    | cons next rest =>
      rw [spread_cons, ← ih (List.cons_ne_nil _ _), List.intercalate_cons_cons]
      simp only [List.append_assoc, List.cons_append, List.nil_append]

theorem exists_spread_eq (ws : List (List Char)) : ∃ rest, spread ws = ' ' :: rest := by
  cases ws with
  | nil => exact ⟨[], rfl⟩
  | cons w ws => exact ⟨_, spread_cons w ws⟩

/-- What begins with a space does not begin inside a word. -/
theorem isInfix_of_isInfix_append {part rest : List Char} (clean : ' ' ∉ w)
    (h : ' ' :: part <:+: w ++ rest) : ' ' :: part <:+: rest := by
  induction w with
  | nil => exact h
  | cons c w ih =>
    obtain ⟨first, others⟩ := not_or.1 (mt List.mem_cons.2 clean)
    rcases List.infix_cons_iff.1 h with here | later
    · exact absurd (List.cons_prefix_cons.1 here).1 first
    · exact ih others later

/-- Where one begins another, so do the words. -/
theorem isPrefix_of_spread (cleanWs : ∀ w ∈ ws, ' ' ∉ w) (cleanMs : ∀ m ∈ ms, ' ' ∉ m)
    (h : spread ws <+: spread ms) : ws <+: ms := by
  induction ws generalizing ms with
  | nil => exact List.nil_prefix
  | cons w ws ih =>
    obtain ⟨restWs, eqWs⟩ := exists_spread_eq ws
    rw [spread_cons] at h
    cases ms with
    | nil =>
      -- One space has no room for a word between two of them.
      rw [eqWs] at h
      have room := h.length_le
      simp only [spread, List.flatMap_nil, List.nil_append, List.length_cons, List.length_append,
        List.length_nil] at room
      omega
    | cons m ms =>
      obtain ⟨cleanW, othersWs⟩ := List.forall_mem_cons.1 cleanWs
      obtain ⟨cleanM, othersMs⟩ := List.forall_mem_cons.1 cleanMs
      obtain ⟨restMs, eqMs⟩ := exists_spread_eq ms
      rw [spread_cons] at h
      obtain ⟨tail, eq⟩ := (List.cons_prefix_cons.1 h).2
      rw [eqWs, eqMs, List.append_assoc, List.cons_append] at eq
      have pieces := congrArg (List.splitOn ' ') eq
      rw [List.splitOn_append_cons_self_of_not_mem cleanW,
        List.splitOn_append_cons_self_of_not_mem cleanM] at pieces
      obtain ⟨rfl, -⟩ := List.cons.inj pieces
      have others := (List.cons.inj (List.append_cancel_left eq)).2
      have next : spread ws <+: spread ms := ⟨tail, by rw [eqWs, eqMs, List.cons_append, others]⟩
      exact List.cons_prefix_cons.2 ⟨rfl, ih othersWs othersMs next⟩

/-- **A text between spaces stands in another one exactly if its words stand there in a row.** -/
theorem isInfix_spread_iff (some : ws ≠ []) (cleanWs : ∀ w ∈ ws, ' ' ∉ w)
    (cleanMs : ∀ m ∈ ms, ' ' ∉ m) : spread ws <:+: spread ms ↔ ws <:+: ms := by
  constructor
  · obtain ⟨rest, eq⟩ := exists_spread_eq ws
    induction ms with
    | nil =>
      obtain ⟨w, ws, rfl⟩ := List.exists_cons_of_ne_nil some
      intro h
      rcases List.infix_cons_iff.1 h with here | later
      · exact (isPrefix_of_spread cleanWs cleanMs here).isInfix
      · rw [eq] at later
        cases List.infix_nil.1 later
    | cons m ms ih =>
      obtain ⟨cleanM, others⟩ := List.forall_mem_cons.1 cleanMs
      intro h
      have split := h
      rw [spread_cons] at split
      rcases List.infix_cons_iff.1 split with here | later
      · rw [← spread_cons] at here
        exact (isPrefix_of_spread cleanWs cleanMs here).isInfix
      · rw [eq] at later
        have next := isInfix_of_isInfix_append cleanM later
        rw [← eq] at next
        exact (ih others next).trans (List.suffix_cons m ms).isInfix
  · rintro ⟨front, back, rfl⟩
    obtain ⟨rest, eq⟩ := exists_spread_eq back
    refine ⟨front.flatMap (' ' :: ·), rest, ?_⟩
    have rejoined : spread (front ++ ws ++ back) =
        front.flatMap (' ' :: ·) ++ ws.flatMap (' ' :: ·) ++ spread back := by
      simp [spread]
    rw [rejoined, eq, spread]
    simp

end ChatRules.Text
