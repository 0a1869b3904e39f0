import SearchFilter.Proofs.Outline

/-!
# Specifications whose conditions are changed

The conditions of a specification can be changed one by one, while its keys and the way in which it
combines sub-specifications stay as they are. If a change only takes defects away, nothing but these
defects can keep the specification from being read once the changed one is read: in the place where
reading the changed one goes on, reading the given one goes on or stops with a defect that was taken
away.
-/

namespace SearchFilter

/-! ### Checks that fail only with a defect -/

namespace Check

variable {α β γ δ : Type} {blamed : CompileError → Prop}

/-- Whether a check passes or fails with one of the errors that are blamed, provided that another
check passes. -/
def Blames (blamed : CompileError → Prop) (kept : Except CompileError α)
    (check : Except CompileError β) : Prop :=
  ∀ value, kept = .ok value →
    (∃ result, check = .ok result) ∨ ∃ error, blamed error ∧ check = .error error

namespace Blames

/-- A check that passes has nothing to blame. -/
theorem of_ok (kept : Except CompileError α) (result : β) : Blames blamed kept (.ok result) :=
  fun _ _ => .inl ⟨result, rfl⟩

/-- If the changed one already fails, nothing is asked of the given one. -/
theorem of_error (error : CompileError) (check : Except CompileError β) :
    Blames blamed (.error error : Except CompileError α) check := nofun

/-- More defects may be blamed. -/
theorem mono {more : CompileError → Prop} (kept : Except CompileError α)
    (check : Except CompileError β) (each : ∀ error, blamed error → more error)
    (blames : Blames blamed kept check) : Blames more kept check := by
  intro value passed
  exact (blames value passed).imp_right fun ⟨error, isBlamed, failed⟩ =>
    ⟨error, each error isBlamed, failed⟩

/-- Checks in sequence fail only with a defect if each of them does. After a first check that fails
with a defect the second is not reached. -/
theorem bind (kept : Except CompileError α) (check : Except CompileError β)
    (keptNext : α → Except CompileError γ) (next : β → Except CompileError δ)
    (first : Blames blamed kept check)
    (second : ∀ value result, Blames blamed (keptNext value) (next result)) :
    Blames blamed (kept >>= keptNext) (check >>= next) := by
  intro last passed
  obtain ⟨value, keptPassed, lastPassed⟩ := (bind_eq_ok_iff _ _ _).mp passed
  obtain ⟨result, rfl⟩ | ⟨error, isBlamed, rfl⟩ := first value keptPassed
  · exact second value result last lastPassed
  · exact .inr ⟨error, isBlamed, rfl⟩

/-- Changing results adds no failure. -/
theorem map (kept : Except CompileError α) (check : Except CompileError β) (keptChange : α → γ)
    (change : β → δ) (first : Blames blamed kept check) :
    Blames blamed (kept.map keptChange) (check.map change) := by
  intro last passed
  obtain ⟨value, keptPassed, -⟩ := (map_eq_ok_iff _ _ _).mp passed
  obtain ⟨result, rfl⟩ | ⟨error, isBlamed, rfl⟩ := first value keptPassed
  · exact .inl ⟨change result, rfl⟩
  · exact .inr ⟨error, isBlamed, rfl⟩

/-- A traversal fails only with the errors that are blamed on its items. -/
theorem mapM_map {blamed : α → CompileError → Prop} (change : α → β)
    (keptCheck : β → Except CompileError γ) (check : α → Except CompileError δ)
    (each : ∀ item, Blames (blamed item) (keptCheck (change item)) (check item)) (items : List α) :
    Blames (fun error => ∃ item ∈ items, blamed item error) ((items.map change).mapM keptCheck)
      (items.mapM check) := by
  induction items with
  | nil => exact of_ok _ []
  | cons item rest inductionHypothesis =>
    rw [List.map_cons, List.mapM_cons, List.mapM_cons]
    refine bind _ _ _ _ ?_ fun _ _ => bind _ _ _ _ ?_ fun _ _ => of_ok _ _
    · exact mono _ _ (fun error isBlamed => ⟨item, List.mem_cons_self, isBlamed⟩) (each item)
    · exact mono _ _ (fun error ⟨other, member, isBlamed⟩ =>
        ⟨other, List.mem_cons_of_mem item member, isBlamed⟩) inductionHypothesis

end Blames

end Check

/-! ### Changing conditions -/

namespace Value

mutual

/-- Changes the conditions among the entries of a sub-specification. -/
def changeEntries (change : Value → Value) : List (Key × Value) → List (Key × Value)
  | [] => []
  | (key, value) :: rest =>
    (key, match Combinator.ofKey? key.text with
      | some _ => changeMembers change value
      | none => change value) :: changeEntries change rest

/-- Changes the conditions of the sub-specifications under the key of a combinator. -/
def changeMembers (change : Value → Value) : Value → Value
  | .map entries => .map (changeEntries change entries)
  | .list items => .list (changeItems change items)
  | value => value

/-- The items of a list with their conditions changed, in order. -/
def changeItems (change : Value → Value) : List Value → List Value
  | [] => []
  | item :: rest => changeMembers change item :: changeItems change rest

end

variable (change : Value → Value)

/-- The items of a list are changed one by one. -/
theorem changeItems_eq_map (items : List Value) :
    changeItems change items = items.map (changeMembers change) := by
  induction items with
  | nil => rfl
  | cons item rest inductionHypothesis => rw [changeItems, inductionHypothesis, List.map_cons]

end Value

/-- Changes the conditions of an entry, whose value is a condition itself unless the key combines
sub-specifications. -/
def Where.changeEntry (change : Value → Value) (entry : String × Value) : String × Value :=
  (entry.1, match Combinator.ofKey? entry.1 with
    | some _ => entry.2.changeMembers change
    | none => change entry.2)

/-- The specification with every condition changed. -/
def FilterSpec.mapConditions (change : Value → Value) (spec : FilterSpec) : FilterSpec where
  entries := spec.entries.map (Where.changeEntry change)
  distinct := by
    have same : Entries.keys (spec.entries.map (Where.changeEntry change)) =
        Entries.keys spec.entries := List.map_map
    exact same ▸ spec.distinct

/-! ### The outline of what is changed -/

namespace Outline

/-- An item of an outline with its condition changed. -/
def Item.change (change : Value → Value) : Item → Item
  | .spec depth => .spec depth
  | .condition depth field value => .condition depth field (change value)

variable (change : Value → Value)

mutual

/-- The outline of changed entries is the outline with its conditions changed: keys, combinators and
depths stay. -/
theorem ofEntries_changed (depth : Nat) :
    (entries : List (Key × Value)) →
      ofEntries depth (Value.changeEntries change entries) =
        (ofEntries depth entries).map (Item.change change)
  | [] => rfl
  | (key, value) :: rest => by
    rw [Value.changeEntries, ofEntries, ofEntries, List.map_append, ofEntries_changed depth rest]
    cases Combinator.ofKey? key.text with
    | some combinator => exact congrArg (· ++ _) (ofMembers_changed depth value)
    | none => rfl

/-- The outline of a changed list or map is the outline with its conditions changed. -/
theorem ofMembers_changed (depth : Nat) :
    (value : Value) →
      ofMembers depth (value.changeMembers change) =
        (ofMembers depth value).map (Item.change change)
  | .map entries => by
    rw [Value.changeMembers, ofMembers, ofMembers, ofEntries_changed (depth + 1) entries]
    rfl
  | .list items => by
    rw [Value.changeMembers, ofMembers, ofMembers, ofItems_changed depth items]
  | .null | .scalar _ | .interval _ | .pattern _ => rfl

/-- The outline of changed items is the outline with its conditions changed. -/
theorem ofItems_changed (depth : Nat) :
    (items : List Value) →
      ofItems depth (Value.changeItems change items) =
        (ofItems depth items).map (Item.change change)
  | [] => rfl
  | item :: rest => by
    rw [Value.changeItems, ofItems, ofItems, List.map_append, ofMembers_changed depth item,
      ofItems_changed depth rest]

end

/-- What stands in the outline of a list stands in that of one of its items. -/
theorem mem_ofItems_iff (depth : Nat) (items : List Value) (place : Item) :
    place ∈ ofItems depth items ↔ ∃ item ∈ items, place ∈ ofMembers depth item := by
  induction items with
  | nil => simp [ofItems]
  | cons item rest inductionHypothesis => simp [ofItems, inductionHypothesis]

/-- What stands in the outline of entries stands in that of one of them. -/
theorem mem_ofEntries_iff (depth : Nat) (entries : List (Key × Value)) (place : Item) :
    place ∈ ofEntries depth entries ↔ ∃ entry ∈ entries, place ∈ ofEntries depth [entry] := by
  induction entries with
  | nil => simp [ofEntries]
  | cons entry rest inductionHypothesis =>
    simp only [ofEntries_cons depth entry rest, List.mem_append, inductionHypothesis,
      List.mem_cons, exists_eq_or_imp]

end Outline

/-- Changing the entries of a specification agrees with changing them as entries of a map, whose
keys are all names. -/
theorem Where.map_named_changeEntry (change : Value → Value) (entries : List (String × Value)) :
    (entries.map (changeEntry change)).map named =
      Value.changeEntries change (entries.map named) := by
  induction entries with
  | nil => rfl
  | cons entry rest inductionHypothesis =>
    rw [List.map_cons, List.map_cons, List.map_cons, inductionHypothesis]
    rfl

/-- Changing conditions leaves the outline as it is, apart from the conditions. -/
theorem FilterSpec.outline_mapConditions (change : Value → Value) (spec : FilterSpec) :
    (spec.mapConditions change).outline = spec.outline.map (Outline.Item.change change) := by
  rw [outline, mapConditions, Where.map_named_changeEntry, Outline.ofEntries_changed, outline]

/-! ### Reading what is changed -/

/-- Whether an error is blamed on a condition in an outline. -/
def Outline.Blamed (blamed : Value → CompileError → Prop) (items : List Item)
    (error : CompileError) : Prop :=
  ∃ depth field value, Item.condition depth field value ∈ items ∧ blamed value error

/-- What is blamed on a condition is blamed on it in every larger outline. -/
theorem Outline.Blamed.mono {blamed : Value → CompileError → Prop} {items others : List Item}
    (each : ∀ item ∈ items, item ∈ others) (error : CompileError)
    (isBlamed : Blamed blamed items error) : Blamed blamed others error := by
  obtain ⟨depth, field, value, member, found⟩ := isBlamed
  exact ⟨depth, field, value, each _ member, found⟩

/-- What is blamed on an item of a list is blamed on the list. -/
theorem Outline.blamed_ofItems {blamed : Value → CompileError → Prop} (depth : Nat)
    (items : List Value) (error : CompileError)
    (isBlamed : ∃ item ∈ items, Blamed blamed (ofMembers depth item) error) :
    Blamed blamed (ofItems depth items) error := by
  obtain ⟨item, member, found⟩ := isBlamed
  refine Blamed.mono (fun place listed => ?_) error found
  exact (mem_ofItems_iff depth items place).mpr ⟨item, member, listed⟩

namespace Where

open Check (Blames)
open Outline (Blamed ofMembers ofItems)

variable (change : Value → Value) (blamed : Value → CompileError → Prop)

/-- Whether entries are read, or fail with an error that is blamed on one of their conditions,
provided that they are read with their conditions changed. -/
def Blaming (enter : List (String × Value) → Except CompileError Where) : Prop :=
  ∀ depth entries, Blames (Blamed blamed (Outline.ofEntries depth (entries.map named)))
    (enter (entries.map (changeEntry change))) (enter entries)

/-- Keys are read as before. -/
theorem names_changed (key : String) (given : List (Key × Value)) :
    (Value.changeEntries change given).mapM (nameEntry key) =
      (given.mapM (nameEntry key)).map (List.map (changeEntry change)) := by
  induction given with
  | nil => rfl
  | cons entry rest inductionHypothesis =>
    obtain ⟨name, value⟩ := entry
    rw [Value.changeEntries, List.mapM_cons, List.mapM_cons, inductionHypothesis]
    cases name with
    | op op => rfl
    | name text => cases rest.mapM (nameEntry key) <;> rfl

section Entering

variable (enter : List (String × Value) → Except CompileError Where)
  (blaming : Blaming change blamed enter) (depth : Nat) (key : String)
include blaming

/-- A sub-specification fails only with a defect of a condition in it. -/
theorem specOf_blames (value : Value) :
    Blames (Blamed blamed (ofMembers depth value)) (specOf enter key (value.changeMembers change))
      (specOf enter key value) := by
  cases value with
  | map given =>
    rw [Value.changeMembers, specOf, specOf, names_changed]
    cases read : given.mapM (nameEntry key) with
    | error error => exact .of_error error _
    | ok entries =>
      obtain rfl := names_eq_ok key given entries read
      refine .mono _ _ (fun error => Outline.Blamed.mono ?_ error) (blaming (depth + 1) entries)
      exact fun item member => List.mem_cons_of_mem _ member
  | _ => exact .of_error _ _

/-- A list of sub-specifications fails only with a defect of a condition in one of them. -/
theorem specsOf_blames (items : List Value) :
    Blames (Blamed blamed (ofItems depth items))
      ((Value.changeItems change items).mapM (specOf enter key))
      (items.mapM (specOf enter key)) := by
  rw [Value.changeItems_eq_map]
  exact .mono _ _ (Outline.blamed_ofItems depth items)
    (Blames.mapM_map _ _ _ (specOf_blames change blamed enter blaming depth key) items)

/-- A group fails only with a defect of a condition in it. Whether it is a list does not depend on
its conditions. -/
theorem groupOf_blames (connective : Connective) (group : Value) :
    Blames (Blamed blamed (ofMembers depth group))
      (groupOf enter key connective (group.changeMembers change))
      (groupOf enter key connective group) := by
  cases group with
  | list items =>
    exact .bind _ _ _ _ (specsOf_blames change blamed enter blaming depth key items)
      fun _ _ => .of_ok _ _
  | _ => exact .of_error _ _

/-- The value under a combinator fails only with a defect of a condition in it. -/
theorem clausesOf_blames (combinator : Combinator) (value : Value) :
    Blames (Blamed blamed (ofMembers depth value))
      (clausesOf enter combinator key (value.changeMembers change))
      (clausesOf enter combinator key value) := by
  cases value with
  | list items =>
    rw [Value.changeMembers, ofMembers]
    cases nested : combinator.takesGroups with
    | true =>
      rw [clausesOf_groups enter combinator nested, clausesOf_groups enter combinator nested,
        Value.changeItems_eq_map]
      exact .mono _ _ (Outline.blamed_ofItems depth items) (Blames.mapM_map _ _ _
        (groupOf_blames change blamed enter blaming depth key combinator.connective) items)
    | false =>
      rw [clausesOf_list enter combinator nested, clausesOf_list enter combinator nested]
      exact .bind _ _ _ _ (specsOf_blames change blamed enter blaming depth key items)
        fun _ _ => .of_ok _ _
  | map entries =>
    cases combinator with
    | not =>
      exact .bind _ _ _ _ (specOf_blames change blamed enter blaming depth key (.map entries))
        fun _ _ => .of_ok _ _
    | _ => exact .of_error _ _
  | _ => cases combinator <;> exact .of_error _ _

omit key

variable (shaped : ∀ field value,
  Blames (blamed value) (Operand.ofValue field (change value)) (Operand.ofValue field value))
include shaped

/-- An entry fails only with a defect of its conditions. For a field this is what the change is
assumed to do for a single condition. -/
theorem entryClauses_blames (entry : String × Value) :
    Blames (Blamed blamed (Outline.ofEntries depth [named entry]))
      (entryClauses enter (changeEntry change entry)) (entryClauses enter entry) := by
  obtain ⟨key, value⟩ := entry
  simp only [Outline.ofEntries, named, Key.text, List.append_nil, changeEntry, entryClauses]
  cases Combinator.ofKey? key with
  | some combinator => exact clausesOf_blames change blamed enter blaming depth key combinator value
  | none =>
    refine .bind _ _ _ _ (.mono _ _ ?_ (shaped (pathOf key) value)) fun _ _ => .of_ok _ _
    exact fun error isBlamed => ⟨depth, pathOf key, value, List.mem_singleton_self _, isBlamed⟩

omit depth

/-- Reading entries blames defects alone if entering sub-specifications does. This is the step from
one level to the next. -/
theorem entriesClauses_blaming : Blaming change blamed (entriesClauses enter) := by
  intro depth entries
  refine .map _ _ _ _ (.mono _ _ ?_ (Blames.mapM_map _ _ _
    (entryClauses_blames change blamed enter blaming depth shaped) entries))
  rintro error ⟨entry, member, isBlamed⟩
  refine Outline.Blamed.mono (fun place found => ?_) error isBlamed
  exact (Outline.mem_ofEntries_iff _ _ _).mpr ⟨_, List.mem_map_of_mem member, found⟩

end Entering

variable (shaped : ∀ field value,
  Blames (blamed value) (Operand.ofValue field (change value)) (Operand.ofValue field value))
include shaped

/-- Reading a specification blames defects alone, at every limit. The induction is on the levels
that are left. -/
theorem ofEntries_blaming (limit levels : Nat) :
    Blaming change blamed (ofEntries limit levels) := by
  have refused : Blaming change blamed fun _ => .error (.depthLimitExceeded limit) :=
    fun _ _ => .of_error _ _
  exact ofEntries_of_levels limit _ refused
    (fun enter blaming => entriesClauses_blaming change blamed enter blaming shaped) levels

end Where

/-- If a specification is read with its conditions changed, then it is read itself or fails with an
error that is blamed on one of its conditions, provided that this holds of the shape of each
condition by itself. -/
theorem FilterSpec.normalize_blames (change : Value → Value)
    (blamed : Value → CompileError → Prop)
    (shaped : ∀ field value, Check.Blames (blamed value) (Operand.ofValue field (change value))
      (Operand.ofValue field value)) (limit : Nat) (spec : FilterSpec) :
    Check.Blames (Outline.Blamed blamed spec.outline) ((spec.mapConditions change).normalize limit)
      (spec.normalize limit) :=
  Where.ofEntries_blaming change blamed shaped limit limit 0 spec.entries

end SearchFilter
