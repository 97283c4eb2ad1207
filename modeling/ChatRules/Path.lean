/-!
# Dot-paths

A path is a text whose segments are divided by dots. It is well formed if no
segment is empty; an empty path is not.

Models `path_segments` and `is_well_formed_path` (`SPEC_FULL.md` §2.4, E009).

Results:

* `segments_ne_nil`: every path has a segment.
* `segments_injective`: a path is known by its segments.
* `segments_append_dot`: the segments of a path with another one after a dot.
* `after?_eq_some_iff`, `startsWith_iff`: what follows a beginning is what was appended to it.
-/

namespace ChatRules.Path

/-- The stretches between dots. -/
def splitDots : List Char → List (List Char)
  | [] => [[]]
  | c :: rest =>
    if c = '.' then [] :: splitDots rest
    else
      match splitDots rest with
      | [] => [[c]]
      | s :: ss => (c :: s) :: ss

/-- The segments of a path, empty ones included. -/
def segments (path : String) : List String := (splitDots path.toList).map String.ofList

/-- Whether no segment is empty. -/
def isWellFormed (path : String) : Bool := (segments path).all fun s => !s.isEmpty

/-- The segments of a well-formed path. -/
def segments? (path : String) : Option (List String) :=
  if isWellFormed path then some (segments path) else none

/-- The path of a segment below another path; below no path it is the segment. -/
def below (path segment : String) : String :=
  if path.isEmpty then segment else path ++ "." ++ segment

/-- Whether a path leads to a place on the way to another one: its segments are the
    first ones of the other path, but not all of them. -/
def IsAbove (path other : String) : Prop :=
  segments path <+: segments other ∧ segments path ≠ segments other

instance (path other : String) : Decidable (IsAbove path other) :=
  inferInstanceAs (Decidable (_ ∧ _))

/-- What follows a given beginning. -/
def afterChars? : List Char → List Char → Option (List Char)
  | [], text => some text
  | _ :: _, [] => none
  | p :: ps, c :: cs => if p = c then afterChars? ps cs else none

/-- What follows `start` in a text that begins with it. -/
def after? (start text : String) : Option String :=
  (afterChars? start.toList text.toList).map String.ofList

/-- Whether a text begins with `start`. -/
def startsWith (text start : String) : Bool := (after? start text).isSome

theorem splitDots_ne_nil (text : List Char) : splitDots text ≠ [] := by
  cases text with
  | nil => simp [splitDots]
  | cons c rest =>
    unfold splitDots
    split
    · simp
    · split <;> simp

theorem segments_ne_nil (path : String) : segments path ≠ [] := by
  simp [segments, splitDots_ne_nil]

/-- The stretches with dots between them are the text. -/
theorem intercalate_splitDots (text : List Char) : ['.'].intercalate (splitDots text) = text := by
  induction text with
  | nil => rfl
  | cons c rest ih =>
    unfold splitDots
    cases parts : splitDots rest with
    | nil => exact absurd parts (splitDots_ne_nil rest)
    | cons s ss =>
      rw [parts] at ih
      split
      · rename_i dot
        simpa [List.intercalate, dot] using ih
      · cases ss with
        | nil => simpa [List.intercalate] using ih
        | cons t ts => simpa [List.intercalate] using ih

theorem segments_injective {path other : String} (h : segments path = segments other) :
    path = other := by
  have parts : splitDots path.toList = splitDots other.toList :=
    (List.map_inj_right fun _ _ => String.ofList_inj.1).1 h
  have texts : path.toList = other.toList := by
    rw [← intercalate_splitDots path.toList, parts, intercalate_splitDots]
  exact String.toList_inj.1 texts

theorem splitDots_append_dot (text rest : List Char) :
    splitDots (text ++ '.' :: rest) = splitDots text ++ splitDots rest := by
  induction text with
  | nil => rfl
  | cons c text ih =>
    rw [List.cons_append, splitDots, splitDots, ih]
    cases parts : splitDots text with
    | nil => exact absurd parts (splitDots_ne_nil text)
    | cons s ss =>
      by_cases dot : c = '.'
      · rw [if_pos dot, if_pos dot]
        rfl
      · rw [if_neg dot, if_neg dot]
        rfl

theorem splitDots_of_not_mem {text : List Char} (noDot : '.' ∉ text) : splitDots text = [text] := by
  induction text with
  | nil => rfl
  | cons c text ih =>
    obtain ⟨ne, others⟩ := not_or.1 fun either => noDot (List.mem_cons.2 either)
    rw [splitDots, if_neg (Ne.symm ne), ih others]

/-- The segments of a path below another one follow those of the other one. -/
theorem segments_append_dot (path field : String) :
    segments (path ++ "." ++ field) = segments path ++ segments field := by
  have text : (path ++ "." ++ field).toList = path.toList ++ '.' :: field.toList := by
    simp [String.toList_append]
  rw [segments, text, splitDots_append_dot, List.map_append]
  rfl

theorem segments_of_not_mem {field : String} (noDot : '.' ∉ field.toList) :
    segments field = [field] := by
  rw [segments, splitDots_of_not_mem noDot, List.map_singleton, String.ofList_toList]

/-- A path of one segment below another path is known by both. -/
theorem eq_of_append_dot_eq {path other field label : String} (field' : '.' ∉ field.toList)
    (label' : '.' ∉ label.toList) (eq : path ++ "." ++ field = other ++ "." ++ label) :
    path = other ∧ field = label := by
  have segments : segments path ++ [field] = segments other ++ [label] := by
    rw [← segments_of_not_mem field', ← segments_of_not_mem label', ← segments_append_dot,
      ← segments_append_dot, eq]
  obtain ⟨paths, last⟩ := List.append_inj' segments rfl
  exact ⟨segments_injective paths, (List.cons.inj last).1⟩

theorem afterChars?_eq_some_iff {start text rest : List Char} :
    afterChars? start text = some rest ↔ text = start ++ rest := by
  induction start generalizing text with
  | nil => simp [afterChars?, eq_comm]
  | cons p ps ih =>
    cases text with
    | nil => simp [afterChars?]
    | cons c cs =>
      unfold afterChars?
      split
      · rename_i h
        simp [h, ih]
      · rename_i h
        simp [Ne.symm h]

theorem after?_eq_some_iff {start text rest : String} :
    after? start text = some rest ↔ text = start ++ rest := by
  rw [after?, Option.map_eq_some_iff]
  constructor
  · rintro ⟨chars, h, rfl⟩
    rw [afterChars?_eq_some_iff] at h
    apply String.toList_inj.1
    simpa using h
  · rintro rfl
    exact ⟨rest.toList, afterChars?_eq_some_iff.2 (by simp), by simp⟩

theorem startsWith_iff {text start : String} :
    startsWith text start = true ↔ ∃ rest, text = start ++ rest := by
  simp only [startsWith, Option.isSome_iff_exists, after?_eq_some_iff]

end ChatRules.Path
