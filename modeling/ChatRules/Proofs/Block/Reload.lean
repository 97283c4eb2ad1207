import ChatRules.Block.Encoding
import ChatRules.Proofs.Block.Leaves
import ChatRules.Proofs.Document.Saved

/-!
# Saving and loading blocks

A set of blocks is saved with its blocks and its lists, and loaded from there once more. A
gate stands in an object together with the kind of its node and its negation, and its own
type tells its fields; a group stands beside it under the other kind.

Numbers are read back as far as their texts do so (`Number.ReadsBack`); windows always are.

Results:

* `typedRecord?_saved`: what a record comes to that was saved under its type.
* `GateTree.ofDocument_saved`, `BlockAction.ofDocument_saved`, `Block.ofDocument_saved`: what
  saved parts of blocks come to.
* `BlockSet.reload_blocks`: a set that was saved and is loaded is the set that it was.
-/

namespace ChatRules

open Document

/-! ## Tables by the names of their fields -/

theorem onlyField?_named {name : String} {fields : List (String × Document)}
    (unique : (fields.map (·.1)).Nodup) :
    onlyField? name (named fields) = Dict.find? name fields := by
  rw [onlyField?, filter_named unique]
  cases Dict.find? name fields <;> rfl

/-- Of saved fields, those that are not among the names stay. -/
theorem without_saved {names : List String} {dropped kept : List (String × Json)}
    (drop : ∀ f ∈ dropped, f.1 ∈ names) (keep : ∀ f ∈ kept, f.1 ∉ names) :
    without names (named (saved (dropped ++ kept))) = named (saved kept) := by
  have split : named (saved (dropped ++ kept)) = named (saved dropped) ++ named (saved kept) := by
    simp [named, saved]
  have noneDropped :
      (named (saved dropped)).filter (fun f => !names.any fun n => f.1 == .name n) = [] := by
    refine List.filter_eq_nil_iff.2 fun f mem => ?_
    obtain ⟨g, field, rfl⟩ := exists_of_mem_named_saved mem
    simpa using drop g field
  rw [split, without, List.filter_append, noneDropped, List.nil_append]
  refine List.filter_eq_self.2 fun f mem => ?_
  obtain ⟨g, field, rfl⟩ := exists_of_mem_named_saved mem
  have other : ∀ n ∈ names, g.1 ≠ n := fun n inNames eq => keep g field (eq ▸ inNames)
  simpa using other

/-- What a record comes to that was saved under its type. -/
theorem typedRecord?_saved {key type : String} {types : List (String × List String)}
    {names : List String} {fields : List (String × Json)}
    (known : types.find? (·.1 == type) = some (type, names))
    (part : (fields.map (·.1)).Sublist names) (unique : (key :: names).Nodup) :
    typedRecord? key types (ofJson (.object ((key, .string type) :: fields))) =
      some (type, saved fields) := by
  obtain ⟨noKey, uniqueNames⟩ := List.nodup_cons.1 unique
  have uniqueFields : ((saved ((key, .string type) :: fields)).map (·.1)).Nodup := by
    rw [map_fst_saved]
    exact unique.sublist (part.cons_cons key)
  have tag : onlyField? key (named (saved ((key, .string type) :: fields))) =
      some (.scalar (.text type) none) := by
    rw [onlyField?_named uniqueFields]
    simp [saved, Dict.find?, ofJson]
  have others : without [key] (named (saved ([(key, .string type)] ++ fields))) =
      named (saved fields) := by
    refine without_saved (by simp) fun f field isKey => noKey ?_
    rw [← List.mem_singleton.1 isKey]
    exact part.subset (List.mem_map_of_mem field)
  have record : fieldsOfTable? names (named (saved fields)) = some (saved fields) := by
    have fits := record?_saved part uniqueNames
    rwa [ofJson_object] at fits
  rw [List.singleton_append] at others
  rw [ofJson_object, typedRecord?, tag, others]
  simp [typeAmong?, known, record]

/-! ## Gates -/

namespace Gate

/-- The window of a gate, if it has one of its own. -/
def window? : Gate → Option Nat
  | .countInHistory _ window _ _ | .historyContainsList _ window => window
  | _ => none

/-- The doubles of a gate. -/
def floats : Gate → List Float
  | .randomChance x | .messageCount _ x | .countInHistory _ _ _ x | .derivedNumber _ _ x
  | .memoryNumber _ _ x => [x]
  | _ => []

/-- The types of gates repeat no field, and their fields have other names than what stands
    beside them in a node. -/
theorem nodup_of_mem_types : ∀ e ∈ types, ("nodeType" :: "not" :: "type" :: e.2).Nodup := by
  decide

/-- A gate is saved under one of the types, with some of its fields. -/
theorem exists_type (g : Gate) :
    ∃ names, types.find? (·.1 == g.typeName) = some (g.typeName, names) ∧
      (g.fieldsJson.map (·.1)).Sublist names := by
  have window (w? : Option Nat) : ((windowField w?).map (·.1)).Sublist ["window"] :=
    Json.sublist_optional "window" _ w?
  cases g with
  | countInHistory listId w? op value =>
    refine ⟨_, rfl, ?_⟩
    simp only [fieldsJson, List.map_append]
    exact ((List.Sublist.refl ["listId"]).append (window w?)).append (.refl ["op", "value"])
  | historyContainsList listId w? => exact ⟨_, rfl, (window w?).cons_cons "listId"⟩
  | _ => exact ⟨_, rfl, List.Sublist.refl _⟩

/-- The saved fields of a gate make the gate. -/
theorem ofFields?_saved {g : Gate} (window : ∀ w ∈ g.window?, w < wordSize 64) :
    ofFields? g.typeName (saved g.fieldsJson) = some g := by
  have text (s : String) : text? (ofJson (.string s)) = some s := rfl
  have float (x : Float) : float? (ofJson (.number (.float x))) = some x := rfl
  have windowBack (w? : Option Nat) (fits : ∀ w ∈ w?, w < wordSize 64) :
      ((w?.map Json.ofNat).elim (some none) fun j => nullable? size? (ofJson j)) = some w? :=
    elim_saved_self size? .ofNat (fun _ _ => nofun) fun w mem => size?_saved (fits w mem)
  cases g with
  | countInHistory listId w? op value =>
    simp [ofFields?, typeName, fieldsJson, comparisonFields, windowField, need?_saved,
      orElse?_saved, Dict.find?_append, Json.find?_optional, Dict.find?, CompareOp.word?_saved,
      text, float, windowBack w? window]
  | historyContainsList listId w? =>
    simp [ofFields?, typeName, fieldsJson, windowField, need?_saved, orElse?_saved,
      Json.find?_optional, Dict.find?, text, windowBack w? window]
  | _ =>
    simp [ofFields?, typeName, fieldsJson, comparisonFields, need?_saved, orElse?_saved,
      Dict.find?, CompareOp.word?_saved, text, float]

end Gate

/-! ## Trees of gates -/

namespace GateTree

/-- A saved gate is loaded as it was, with its negation. -/
theorem ofDocument_saved_gate (negated : Bool) {g : Gate}
    (window : ∀ w ∈ g.window?, w < wordSize 64) :
    ofDocument (ofJson (toJson (.gate negated g))) = some (.gate negated g) := by
  obtain ⟨names, known, part⟩ := g.exists_type
  have unique := Gate.nodup_of_mem_types _ (List.mem_of_find?_eq_some known)
  obtain ⟨noNode, uniqueRest⟩ := List.nodup_cons.1 unique
  obtain ⟨noNot, uniqueRecord⟩ := List.nodup_cons.1 uniqueRest
  let own : List (String × Json) := ("type", .string g.typeName) :: g.fieldsJson
  let node : List (String × Json) := [("nodeType", .string "cond"), ("not", .bool negated)]
  have partOwn : (own.map (·.1)).Sublist ("type" :: names) := part.cons_cons _
  have uniqueAll : ((saved (node ++ own)).map (·.1)).Nodup := by
    rw [map_fst_saved]
    exact unique.sublist ((partOwn.cons_cons "not").cons_cons "nodeType")
  have others : without ["nodeType", "not"] (named (saved (node ++ own))) = named (saved own) := by
    refine without_saved (by simp [node]) fun f field mem => ?_
    have inOwn : f.1 ∈ "type" :: names := partOwn.subset (List.mem_map_of_mem field)
    simp only [List.mem_cons, List.not_mem_nil, or_false] at mem
    rcases mem with eq | eq
    · exact noNode (List.mem_cons_of_mem _ (eq ▸ inOwn))
    · exact noNot (eq ▸ inOwn)
  have kind : onlyField? "nodeType" (named (saved (node ++ own))) =
      some (.scalar (.text "cond") none) := by
    rw [onlyField?_named uniqueAll]
    rfl
  have negation : (named (saved (node ++ own))).filter (fun f => f.1 == .name "not") =
      [(.name "not", .scalar (.bool negated) none)] := by
    rw [filter_named uniqueAll]
    rfl
  have record : typedRecord? "type" Gate.types (.table (named (saved own))) =
      some (g.typeName, saved g.fieldsJson) := by
    rw [← ofJson_object]
    exact typedRecord?_saved known part uniqueRecord
  have document : ofJson (toJson (.gate negated g)) = .table (named (saved (node ++ own))) :=
    ofJson_object _
  have condition : typeAmong? nodeTypes (.scalar (.text "cond") none) = some ("cond", false) := rfl
  rw [document, ofDocument, kind, Option.bind_some, condition]
  simp only [gateOfTable?, negation, bool?, others, record, Gate.ofFields?_saved window,
    Option.bind_eq_bind, Option.bind_some, Option.pure_def]

theorem ofItems_saved {items : List GateTree}
    (parts : ∀ t ∈ items, ofDocument (ofJson t.toJson) = some t) :
    ofItems (ofJsonItems (itemsJson items)) = some items := by
  induction items with
  | nil => simp [itemsJson, ofJsonItems, ofItems]
  | cons t rest ih =>
    obtain ⟨first, others⟩ := List.forall_mem_cons.1 parts
    rw [itemsJson, ofJsonItems, ofItems, first, ih others]

/-- A saved group is loaded as it was, if its items are. -/
theorem ofDocument_saved_group (join : Join) (negated : Bool) {items : List GateTree}
    (parts : ∀ t ∈ items, ofDocument (ofJson t.toJson) = some t) :
    ofDocument (ofJson (toJson (.group join negated items))) =
      some (.group join negated items) := by
  have list : ofList (.list (ofJsonItems (itemsJson items))) = some items := by
    rw [ofList, ofItems_saved parts]
  have joined : join? (.scalar (.text join.groupWord) none) = some join := by
    cases join <;> rfl
  have negation : bool? (.scalar (.bool negated) none) = some negated := rfl
  have kind : onlyField? "nodeType" [(.name "nodeType", .scalar (.text "group") none),
      (.name "join", .scalar (.text join.groupWord) none),
      (.name "not", .scalar (.bool negated) none),
      (.name "items", .list (ofJsonItems (itemsJson items)))] =
        some (.scalar (.text "group") none) := rfl
  have group : typeAmong? nodeTypes (.scalar (.text "group") none) = some ("group", true) := rfl
  simp only [toJson, ofJson, ofJsonFields]
  rw [ofDocument, kind, Option.bind_some, group]
  simp [takeFields, fieldOfKey?, groupFields, joined, negation, list, Draft.finish]

/-- **What a saved tree of gates comes to.** -/
theorem ofDocument_saved {t : GateTree}
    (windows : ∀ leaf ∈ t.leaves, ∀ w ∈ leaf.2.window?, w < wordSize 64) :
    ofDocument (ofJson t.toJson) = some t := by
  induction t using GateTree.induction with
  | gate negated g => exact ofDocument_saved_gate negated (windows _ List.mem_cons_self)
  | group join negated items ih =>
    refine ofDocument_saved_group join negated fun t mem => ih t mem fun leaf below => ?_
    refine windows leaf ?_
    rw [leaves, leavesAll_eq_flatMap]
    exact List.mem_flatMap.2 ⟨t, mem, below⟩

end GateTree

/-! ## Actions -/

namespace BlockAction

/-- The doubles of an action. -/
def floats : BlockAction → List Float
  | .memoryNumber _ _ value _ => value.toList
  | _ => []

/-- The types of actions repeat no field, and none of their fields is named like the type. -/
theorem nodup_of_mem_types : ∀ e ∈ types, ("type" :: e.2).Nodup := by
  decide

/-- An action is saved under one of the types, with some of its fields. -/
theorem exists_type (a : BlockAction) :
    ∃ names, types.find? (·.1 == a.typeName) = some (a.typeName, names) ∧
      (a.fieldsJson.map (·.1)).Sublist names := by
  cases a with
  | append field text => cases field <;> exact ⟨_, rfl, List.Sublist.refl _⟩
  | memoryNumber key mode value text =>
    refine ⟨_, rfl, ?_⟩
    simp only [fieldsJson, List.map_append]
    exact ((List.Sublist.refl ["memKey", "mode"]).append
      (Json.sublist_optional "value" _ value)).append (Json.sublist_optional "text" _ text)
  | _ => exact ⟨_, rfl, List.Sublist.refl _⟩

/-- The saved fields of an action make the action. -/
theorem ofFields?_saved (a : BlockAction) :
    ofFields? a.typeName (saved a.fieldsJson) = some a := by
  have text (s : String) : text? (ofJson (.string s)) = some s := rfl
  have target (field : TextField) :
      word? TextField.words true (ofJson (.string field.word)) = some field := by
    cases field <;> rfl
  have numeric (mode : NumericMode) :
      word? NumericMode.words true (ofJson (.string mode.word)) = some mode := by
    cases mode <;> rfl
  have written (op : WriteOp) :
      word? WriteOp.words true (ofJson (.string op.word)) = some op := by
    cases op <;> rfl
  have amount (x? : Option Float) :
      ((x?.map fun x => Json.number (.float x)).elim (some none) fun j =>
        nullable? float? (ofJson j)) = some x? :=
    elim_saved_self float? (fun x => .number (.float x)) (fun _ _ => nofun) fun _ _ => rfl
  cases a with
  | append field s =>
    cases field <;>
      simp [ofFields?, typeName, fieldsJson, orElse?_saved, Dict.find?, text]
  | memoryNumber key mode value s? =>
    simp [ofFields?, typeName, fieldsJson, need?_saved, orElse?_saved, Dict.find?_append,
      Json.find?_optional, Dict.find?, text, numeric, amount, elim_saved_text, -Option.elim_map]
  | _ =>
    simp [ofFields?, typeName, fieldsJson, need?_saved, orElse?_saved, Dict.find?, text, target,
      written]

theorem ofDocument_saved (a : BlockAction) : ofDocument (ofJson a.toJson) = some a := by
  obtain ⟨names, known, part⟩ := a.exists_type
  have unique := nodup_of_mem_types _ (List.mem_of_find?_eq_some known)
  have record := typedRecord?_saved known part unique
  rw [ofDocument, toJson, record]
  exact a.ofFields?_saved

end BlockAction

/-! ## Blocks -/

namespace Block

/-- Whether the windows of all gates are words. -/
def IsSized (b : Block) : Prop := ∀ leaf ∈ b.leaves, ∀ w ∈ leaf.2.window?, w < wordSize 64

theorem IsSized.conditions {b : Block} (h : b.IsSized) :
    ∀ t ∈ b.conditions, ∀ leaf ∈ t.leaves, ∀ w ∈ leaf.2.window?, w < wordSize 64 := by
  intro t mem leaf below
  refine h leaf ?_
  rw [leaves, GateTree.leavesAll_eq_flatMap]
  exact List.mem_flatMap.2 ⟨t, mem, below⟩

/-- **What a saved block comes to.** -/
theorem ofDocument_saved {b : Block} (h : b.IsSized) : ofDocument (ofJson b.toJson) = some b := by
  have text (s : String) : text? (ofJson (.string s)) = some s := rfl
  have kind : word? BlockKind.words false (ofJson (.string b.kind.word)) = some b.kind := by
    cases b.kind <;> rfl
  have join : word? Join.words false (ofJson (.string b.join.word)) = some b.join := by
    cases b.join <;> rfl
  have conditions := listOf?_saved_self fun t mem => GateTree.ofDocument_saved (h.conditions t mem)
  have actions := @listOf?_saved_self _ _ BlockAction.toJson b.actions fun a _ => a.ofDocument_saved
  have groupId := Json.sublist_optional "groupId" .string b.groupId
  rw [ofDocument, toJson, @record?_saved fieldNames _ ?_ (by decide)]
  · simp only [orElse?_saved, Dict.find?_append, Json.find?_optional, Dict.find?, String.reduceEq,
      if_true, if_false, Option.or_none, Option.none_or, Option.elim_some, text, kind, join,
      conditions, actions, elim_saved_text, Option.bind_eq_bind, Option.bind_some, Option.pure_def]
  · rw [List.map_append]
    exact (List.Sublist.refl ["id", "type", "label", "join", "conditions", "actions"]).append
      groupId

end Block

/-! ## Numbers -/

/-- The numbers of a gate: its window and its doubles. -/
def Gate.numbers (g : Gate) : List Number :=
  (g.window?.toList.map fun w => .int w) ++ g.floats.map .float

theorem Gate.fieldsNumbers_eq (g : Gate) : Json.fieldsNumbers g.fieldsJson = g.numbers := by
  cases g with
  | countInHistory listId w? op value => cases w? <;> rfl
  | historyContainsList listId w? => cases w? <;> rfl
  | _ => rfl

theorem GateTree.itemsJson_eq_map (items : List GateTree) : itemsJson items = items.map toJson := by
  induction items with
  | nil => rfl
  | cons t rest ih => rw [itemsJson, ih, List.map_cons]

/-- The numbers of a saved tree are those of its gates. -/
theorem GateTree.numbers_toJson (t : GateTree) :
    t.toJson.numbers = t.leaves.flatMap fun leaf => leaf.2.numbers := by
  induction t using GateTree.induction with
  | gate negated g =>
    simp [toJson, Json.numbers, Json.fieldsNumbers, Gate.fieldsNumbers_eq, leaves]
  | group join negated items ih =>
    have parts : items.flatMap (fun t => t.toJson.numbers) =
        items.flatMap fun t => t.leaves.flatMap fun leaf => leaf.2.numbers := by
      rw [List.flatMap_def, List.map_congr_left ih, List.flatMap_def]
    simp [toJson, Json.numbers, Json.fieldsNumbers, Json.itemsNumbers_eq_flatMap,
      itemsJson_eq_map, List.flatMap_map, parts, leaves, leavesAll_eq_flatMap,
      List.flatMap_assoc]

theorem BlockAction.numbers_toJson (a : BlockAction) :
    a.toJson.numbers = a.floats.map .float := by
  cases a with
  | memoryNumber key mode value text => cases value <;> cases text <;> rfl
  | _ => rfl

/-- The doubles of a block. -/
def Block.floats (b : Block) : List Float :=
  (b.leaves.flatMap fun leaf => leaf.2.floats) ++ b.actions.flatMap BlockAction.floats

/-- The numbers of a saved block are those of its gates and its actions. -/
theorem Block.numbers_toJson (b : Block) :
    b.toJson.numbers =
      (b.leaves.flatMap fun leaf => leaf.2.numbers) ++
        b.actions.flatMap fun a => a.floats.map .float := by
  have groupId : Json.fieldsNumbers (Json.optional "groupId" .string b.groupId) = [] := by
    cases b.groupId <;> rfl
  rw [Json.fieldsNumbers_eq_flatMap] at groupId
  simp [toJson, Json.numbers, Json.fieldsNumbers_eq_flatMap, Json.itemsNumbers_eq_flatMap, groupId,
    List.flatMap_map, GateTree.numbers_toJson, BlockAction.numbers_toJson, leaves,
    GateTree.leavesAll_eq_flatMap, List.flatMap_assoc]

/-- The numbers of a saved block are its doubles, and windows. -/
theorem Block.IsSized.cases_of_mem_numbers {b : Block} (h : b.IsSized) {n : Number}
    (mem : n ∈ b.toJson.numbers) :
    (∃ x ∈ b.floats, n = .float x) ∨ ∃ w : Nat, w < wordSize 64 ∧ n = .int w := by
  rw [b.numbers_toJson, List.mem_append, List.mem_flatMap, List.mem_flatMap] at mem
  rcases mem with ⟨leaf, below, mem⟩ | ⟨a, action, mem⟩
  · rcases List.mem_append.1 mem with window | float
    · obtain ⟨w, given, rfl⟩ := List.mem_map.1 window
      exact .inr ⟨w, h leaf below w (Option.mem_toList.1 given), rfl⟩
    · obtain ⟨x, given, rfl⟩ := List.mem_map.1 float
      exact .inl ⟨x, List.mem_append_left _ (List.mem_flatMap.2 ⟨leaf, below, given⟩), rfl⟩
  · obtain ⟨x, given, rfl⟩ := List.mem_map.1 mem
    exact .inl ⟨x, List.mem_append_right _ (List.mem_flatMap.2 ⟨a, action, given⟩), rfl⟩

namespace BlockSet

/-- A set as its parts are typed: windows are words of 64 bits, and the lists are a
    dictionary. -/
structure IsStorable (s : BlockSet) : Prop where
  blocks : ∀ b ∈ s.blocks, b.IsSized
  lists : Dict.Sorted s.lists

/-- The doubles of a set. -/
def floats (s : BlockSet) : List Float := s.blocks.flatMap Block.floats

/-- **What a saved set of blocks comes to.** -/
theorem ofDocument_saved {s : BlockSet} (h : s.IsStorable) :
    ofDocument (ofJson s.toJson) = some s := by
  have blocks := listOf?_saved_self fun b mem => Block.ofDocument_saved (h.blocks b mem)
  have lists := @dictOf?_saved _ texts? Json.ofStrings _ h.lists fun e _ => texts?_saved e.2
  have noList : listOf? Block.ofDocument (ofJson s.toJson) = none := rfl
  rw [ofDocument, noList, toJson, @record?_saved ["blocks", "lists"] _ (.refl _) (by decide)]
  simp only [orElse?_saved, Dict.find?, String.reduceEq, if_true, if_false, Option.elim_some,
    blocks, lists, Option.map_none, Option.none_or, Option.bind_eq_bind, Option.bind_some,
    Option.pure_def]

/-- The numbers of a saved set read back if its doubles do. -/
theorem readsBack_numbers {s : BlockSet} (h : s.IsStorable)
    (floats : ∀ x ∈ s.floats, Number.ReadsBack (.float x)) :
    ∀ n ∈ s.toJson.numbers, n.ReadsBack := by
  have lists : s.lists.flatMap (fun e => (Json.ofStrings e.2).numbers) = [] := by
    simp [Json.ofStrings, Json.numbers, Json.itemsNumbers_eq_flatMap, List.flatMap_map]
  intro n mem
  simp only [toJson, Json.numbers, Json.fieldsNumbers, Json.itemsNumbers_eq_flatMap,
    Json.fieldsNumbers_eq_flatMap, List.flatMap_map, lists, List.append_nil,
    List.mem_flatMap] at mem
  obtain ⟨b, block, mem⟩ := mem
  rcases (h.blocks b block).cases_of_mem_numbers mem with ⟨x, given, rfl⟩ | ⟨w, word, rfl⟩
  · exact floats x (List.mem_flatMap.2 ⟨b, block, given⟩)
  · exact Number.readsBack_int (by omega) (by exact_mod_cast word)

/-- **Saving and loading a set of blocks.** A set of any blocks, with trees of gates of any
    shape, is loaded as it was when it was saved: if its doubles are finite, as far as the
    texts of finite doubles read back, and if it is not too deep. -/
theorem reload_blocks {s : BlockSet} (h : s.IsStorable)
    (finite : ∀ x ∈ s.floats, Decimal.isFinite x = true)
    (lossless : ∀ x ∈ s.floats, Decimal.isFinite x = true → Number.ReadsBack (.float x))
    (shallow : s.toJson.depth ≤ depthLimit) : loader.ofJsonText s.toText = .ok s := by
  have numbers := readsBack_numbers h fun x given => lossless x given (finite x given)
  exact loader.ofJsonText_pretty numbers shallow (ofDocument_saved h)

/-- Groups in a group, of which one has no items, a window, and two doubles: one of a gate and
    one of an action. -/
theorem reload_blocks_nested :
    let s : BlockSet :=
      { blocks :=
          [{ id := "a", join := .any
             conditions :=
               [.group .any true
                 [.gate true (.countInHistory "sweets" (some 3) .greater 2.5),
                  .group .all false []],
                .gate false (.scenarioContains "night")]
             actions :=
               [.appendRandom "sweets" .scenario,
                .memoryNumber "mood" .increase (some 0.5) none] },
           { id := "b", kind := .fallback, groupId := some "g" }]
        lists := [("drinks", []), ("sweets", ["cake", "ice cream"])] }
    s.IsStorable ∧ s.floats = [2.5, 0.5] ∧ (∀ x ∈ s.floats, Decimal.isFinite x = true) ∧
      (∀ x ∈ s.floats, Decimal.isFinite x = true → Number.ReadsBack (.float x)) ∧
      s.toJson.depth ≤ depthLimit ∧ loader.ofJsonText s.toText = .ok s := by
  intro s
  have storable : s.IsStorable := by
    refine ⟨?_, ?_⟩
    · unfold Block.IsSized
      decide +kernel
    · unfold Dict.Sorted
      decide +kernel
  have floats : s.floats = [2.5, 0.5] := rfl
  have finite : ∀ x ∈ s.floats, Decimal.isFinite x = true := by
    rw [floats]
    decide +kernel
  have gate : Number.ReadsBack (.float 2.5) := rfl
  have action : Number.ReadsBack (.float 0.5) := rfl
  have lossless : ∀ x ∈ s.floats, Decimal.isFinite x = true → Number.ReadsBack (.float x) := by
    rw [floats]
    simp [gate, action]
  have shallow : s.toJson.depth ≤ depthLimit := by decide +kernel
  exact ⟨storable, floats, finite, lossless, shallow,
    reload_blocks storable finite lossless shallow⟩

end BlockSet

end ChatRules
