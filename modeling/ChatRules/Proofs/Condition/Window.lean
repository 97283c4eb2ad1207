import ChatRules.Proofs.Condition.Reports

/-!
# Counts in windows

A count looks at the last items of a list, as many as its window has room for. Of these it tells
the places of the ones that have a term, in the whole list and from first to last; it counts them
and passes if there are enough of them. What stands before the window does not matter: with more
items in front the places move, and that is all.

Results:

* `mem_hitsInWindow_iff`, `increasing_hitsInWindow`: the places that are told.
* `hitsInWindow_append`: with more items in front the places move.
* `Test.countsWindow_judge`: what the reason of a count says.
* `Test.judge_countInWindow_append`: whether a count passes, and what it comes to, does not
  depend on items before the window.
-/

namespace ChatRules

/-! ## Places -/

/-- Whether a place is in the window at the end of a list, and the item there has a term. -/
def IsHit (items terms : List String) (window : Nat) (mode : MatchMode) (i : Nat) : Prop :=
  items.length - window ≤ i ∧
    ∃ inside : i < items.length, ∃ t ∈ terms, hasTerm items[i] t mode = true

variable {items terms : List String} {window : Nat} {mode : MatchMode}

/-- The place of an item that has a term. -/
def hitPlace? (terms : List String) (mode : MatchMode) (p : String × Nat) : Option Nat :=
  if terms.any fun t => hasTerm p.1 t mode then some p.2 else none

theorem hitPlace?_eq_some_iff {p : String × Nat} {i : Nat} :
    hitPlace? terms mode p = some i ↔ (∃ t ∈ terms, hasTerm p.1 t mode = true) ∧ p.2 = i := by
  unfold hitPlace?
  rw [← List.any_eq_true]
  split
  · rename_i has
    rw [Option.some.injEq, and_iff_right has]
  · rename_i hasNot
    exact iff_of_false nofun fun h => hasNot h.1

/-- The items in the window, each with its place in the whole list. -/
theorem drop_zipIdx_window (items : List String) (window : Nat) :
    items.zipIdx.drop (items.length - window) =
      (items.drop (items.length - window)).zipIdx (items.length - window) := by
  generalize start_eq : items.length - window = start
  have split := @List.zipIdx_append _ (items.take start) (items.drop start) 0
  have front : (items.take start).length = start := by
    rw [List.length_take]
    omega
  rw [List.take_append_drop, Nat.zero_add, front] at split
  rw [split]
  exact List.drop_left' (by rw [List.length_zipIdx, front])

theorem hitsInWindow_eq (items terms : List String) (window : Nat) (mode : MatchMode) :
    hitsInWindow items terms window mode =
      ((items.drop (items.length - window)).zipIdx (items.length - window)).filterMap
        (hitPlace? terms mode) := by
  rw [← drop_zipIdx_window]
  rfl

/-- **The places of a count are those in the window whose items have a term.** -/
theorem mem_hitsInWindow_iff {i : Nat} :
    i ∈ hitsInWindow items terms window mode ↔ IsHit items terms window mode i := by
  rw [hitsInWindow_eq, List.mem_filterMap]
  constructor
  · rintro ⟨⟨item, place⟩, mem, hit⟩
    obtain ⟨has, rfl⟩ := hitPlace?_eq_some_iff.1 hit
    obtain ⟨inWindow, there⟩ := List.mk_mem_zipIdx_iff_le_and_getElem?_sub.1 mem
    rw [List.getElem?_drop, Nat.add_sub_cancel' inWindow] at there
    obtain ⟨inside, rfl⟩ := List.getElem?_eq_some_iff.1 there
    exact ⟨inWindow, inside, has⟩
  · rintro ⟨inWindow, inside, has⟩
    refine ⟨(items[i], i), List.mk_mem_zipIdx_iff_le_and_getElem?_sub.2 ⟨inWindow, ?_⟩,
      hitPlace?_eq_some_iff.2 ⟨has, rfl⟩⟩
    rw [List.getElem?_drop, Nat.add_sub_cancel' inWindow]
    exact List.getElem?_eq_getElem inside

/-- The places of a count stand from first to last, and none twice. -/
theorem increasing_hitsInWindow (items terms : List String) (window : Nat) (mode : MatchMode) :
    (hitsInWindow items terms window mode).Pairwise (· < ·) := by
  have places : ((items.drop (items.length - window)).zipIdx (items.length - window)).Pairwise
      (fun p q => p.2 < q.2) := by
    rw [← List.pairwise_map, List.zipIdx_map_snd]
    exact List.pairwise_lt_range' 1
  rw [hitsInWindow_eq]
  refine places.filterMap _ fun p q lt i hitP j hitQ => ?_
  rw [← (hitPlace?_eq_some_iff.1 hitP).2, ← (hitPlace?_eq_some_iff.1 hitQ).2]
  exact lt

/-- There are no more hits than items that were considered. -/
theorem length_hitsInWindow_le_considered (items terms : List String) (window : Nat)
    (mode : MatchMode) :
    (hitsInWindow items terms window mode).length ≤ min items.length window := by
  refine Nat.le_min.2 ⟨?_, length_hitsInWindow_le items terms window mode⟩
  rw [hitsInWindow_eq]
  refine (List.length_filterMap_le _ _).trans ?_
  rw [List.length_zipIdx, List.length_drop]
  exact Nat.sub_le _ _

/-- Items in front of a filled window move its start. -/
theorem windowStart_append {α : Type} {recent : List α} (filled : window ≤ recent.length)
    (before : List α) :
    (before ++ recent).length - window = before.length + (recent.length - window) := by
  rw [List.length_append]
  omega

/-- A window that the last items fill does not reach the items before them. -/
theorem drop_append_window {α : Type} {recent : List α} (filled : window ≤ recent.length)
    (before : List α) :
    (before ++ recent).drop ((before ++ recent).length - window) =
      recent.drop (recent.length - window) := by
  rw [windowStart_append filled]
  exact List.drop_length_add_append _

/-- **Items before the window only move the places of a count.** -/
theorem hitsInWindow_append {recent : List String} (filled : window ≤ recent.length)
    (before : List String) :
    hitsInWindow (before ++ recent) terms window mode =
      (hitsInWindow recent terms window mode).map (· + before.length) := by
  have moved (p : String × Nat) :
      hitPlace? terms mode (p.1, p.2 + before.length) =
        (hitPlace? terms mode p).map (· + before.length) := by
    unfold hitPlace?
    split <;> rfl
  rw [hitsInWindow_eq, hitsInWindow_eq, drop_append_window filled, windowStart_append filled,
    ← List.map_snd_add_zipIdx_eq_zipIdx, List.filterMap_map, List.map_filterMap]
  exact List.filterMap_congr fun p _ => moved p

/-! ## Reasons -/

/-- What the reason of a count says: the places of the items in the window that have a term, how
    many these are, how many items were considered, and whether there were enough of them. -/
structure Reason.CountsWindow (r : Reason) (items terms : List String) (window least : Nat)
    (mode : MatchMode) (places : List Nat) : Prop where
  hits : Dict.find? "hits" r.details = some (.array (places.map .ofNat))
  increasing : places.Pairwise (· < ·)
  mem_iff : ∀ i, i ∈ places ↔ IsHit items terms window mode i
  count : Dict.find? "count" r.details = some (.ofNat places.length)
  considered : Dict.find? "considered" r.details = some (.ofNat (min items.length window))
  atMost : places.length ≤ min items.length window
  ok : r.ok = true ↔ least ≤ places.length

/-- The items of the value that a count reads. Where there is no value there are none. -/
def countedItems (value? : Option SourceValue) : List String :=
  (value?.map SourceValue.asList).getD []

namespace Test

variable {least : Nat}

/-- A count has no pattern that could be refused: it is decided on whatever its source gives. -/
theorem result_evaluate_countInWindow (read : String → Traced (Option SourceValue))
    (source : String) :
    ((countInWindow terms window least mode).evaluate read source).result =
      (read source).result.map ((countInWindow terms window least mode).judge source) := by
  have accepted : (countInWindow terms window least mode).fault? = none := rfl
  unfold evaluate
  rw [accepted, Option.isSome_none, if_neg Bool.false_ne_true]
  cases came : (read source).result with
  | ok value? => exact Traced.result_bind_ok came _
  | error e => exact Traced.result_bind_error came _

theorem ok_judge_countInWindow_iff (source : String) (value? : Option SourceValue) :
    ((countInWindow terms window least mode).judge source value?).ok = true ↔
      least ≤ (hitsInWindow (countedItems value?) terms window mode).length :=
  decide_eq_true_iff

/-- A detail of a count, which may also say that the value was missing. -/
theorem find?_judge_countInWindow {key : String} (source : String)
    (value? : Option SourceValue) (ne : key ≠ "missing") (notSource : key ≠ "source") :
    let items := countedItems value?
    let hits := hitsInWindow items terms window mode
    Dict.find? key ((countInWindow terms window least mode).judge source value?).details =
      Dict.find? key
        [("mode", .string mode.name), ("window", .ofNat window), ("min", .ofNat least),
          ("considered", .ofNat (min items.length window)), ("count", .ofNat hits.length),
          ("hits", .array (hits.map .ofNat))] :=
  find?_details _ _ (by simp) ne notSource

/-- **What a count says is so.** -/
theorem countsWindow_judge (source : String) (value? : Option SourceValue) :
    ((countInWindow terms window least mode).judge source value?).CountsWindow
      (countedItems value?) terms window least mode
      (hitsInWindow (countedItems value?) terms window mode) where
  hits := find?_judge_countInWindow source value? (by decide) (by decide)
  increasing := increasing_hitsInWindow _ _ _ _
  mem_iff _ := mem_hitsInWindow_iff
  count := find?_judge_countInWindow source value? (by decide) (by decide)
  considered := find?_judge_countInWindow source value? (by decide) (by decide)
  atMost := length_hitsInWindow_le_considered _ _ _ _
  ok := ok_judge_countInWindow_iff source value?

/-- **A count does not depend on items before its window.** -/
theorem judge_countInWindow_append {value? recent? : Option SourceValue} {before : List String}
    (longer : countedItems value? = before ++ countedItems recent?)
    (filled : window ≤ (countedItems recent?).length) (source : String) :
    let reason := (countInWindow terms window least mode).judge source value?
    let recent := (countInWindow terms window least mode).judge source recent?
    reason.ok = recent.ok ∧
      Dict.find? "count" reason.details = Dict.find? "count" recent.details := by
  have same : (hitsInWindow (countedItems value?) terms window mode).length =
      (hitsInWindow (countedItems recent?) terms window mode).length := by
    rw [longer, hitsInWindow_append filled, List.length_map]
  constructor
  · rw [Bool.eq_iff_iff, ok_judge_countInWindow_iff, ok_judge_countInWindow_iff, same]
  · rw [(countsWindow_judge source value?).count, (countsWindow_judge source recent?).count, same]

end Test

end ChatRules
