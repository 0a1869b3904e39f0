import SearchFilter.Proofs.Demands

/-!
# What a limit lets through

A limit acts as a gate: what passes without it passes in the same way if a condition on what was
written holds, and is refused with one error otherwise. Gates in a row make one gate. The
coordinates of a shape pass exactly if they nest no deeper than allowed, and a specification can be
read exactly if its sub-specifications do not.
-/

namespace SearchFilter

open Check (bind_eq_ok_iff map_eq_ok_iff)

namespace Check

variable {α β : Type} {error : CompileError} {condition later : Prop}

/-- Whether what passes a check passes a narrower one with the same result if a condition holds, and
is refused with the error otherwise. -/
def Gated (error : CompileError) (condition : Prop) (check narrow : Except CompileError α) : Prop :=
  ∀ value, check = .ok value →
    (condition → narrow = .ok value) ∧ (¬condition → narrow = .error error)

namespace Gated

/-- Of what does not pass without the limit nothing is asked. -/
theorem of_error (first : CompileError) (narrow : Except CompileError α) :
    Gated error condition (.error first) narrow := by
  intro value passed
  cases passed

/-- A gate that is open changes nothing. -/
theorem of_holds (holds : condition) (check : Except CompileError α) :
    Gated error condition check check :=
  fun _ passed => ⟨fun _ => passed, fun fails => absurd holds fails⟩

/-- A gate that is closed gives its error, whatever would come behind it. -/
theorem of_fails (fails : ¬condition) (check : Except CompileError α) :
    Gated error condition check (.error error) :=
  fun _ _ => ⟨fun holds => absurd holds fails, fun _ => rfl⟩

/-- A gate may be opened by any condition with the same meaning. -/
theorem congr {other : Prop} (same : condition ↔ other) {check narrow : Except CompileError α}
    (gated : Gated error condition check narrow) : Gated error other check narrow := by
  rwa [← propext same]

/-- Two gates in a row let through what both let through. Behind a closed first gate the second one
is not reached. -/
theorem bind {check narrow : Except CompileError α} {next narrowNext : α → Except CompileError β}
    (first : Gated error condition check narrow)
    (second : ∀ value, Gated error later (next value) (narrowNext value)) :
    Gated error (condition ∧ later) (check >>= next) (narrow >>= narrowNext) := by
  intro result passed
  obtain ⟨value, checked, last⟩ := (bind_eq_ok_iff _ _ _).mp passed
  obtain ⟨kept, refused⟩ := first value checked
  obtain ⟨keptNext, refusedNext⟩ := second value result last
  constructor
  · rintro ⟨holds, laterHolds⟩
    rw [kept holds]
    exact keptNext laterHolds
  · intro fails
    by_cases holds : condition
    · rw [kept holds]
      exact refusedNext fun laterHolds => fails ⟨holds, laterHolds⟩
    · rw [refused holds]
      rfl

/-- A step after the gate changes nothing about it. -/
theorem andThen {check narrow : Except CompileError α} (first : Gated error condition check narrow)
    (next : α → Except CompileError β) :
    Gated error condition (check >>= next) (narrow >>= next) :=
  (first.bind fun value => of_holds trivial (next value)).congr (and_iff_left trivial)

/-- Changing what is let through leaves the gate as it is. -/
theorem map {check narrow : Except CompileError α} (first : Gated error condition check narrow)
    (change : α → β) : Gated error condition (check.map change) (narrow.map change) := by
  intro result passed
  obtain ⟨value, checked, rfl⟩ := (map_eq_ok_iff _ _ _).mp passed
  obtain ⟨kept, refused⟩ := first value checked
  refine ⟨fun holds => ?_, fun fails => ?_⟩
  · rw [kept holds]
    rfl
  · rw [refused fails]
    rfl

/-- What passes the check passes the narrower one at all exactly if the condition holds. -/
theorem passes_iff {check narrow : Except CompileError α} {value : α}
    (gated : Gated error condition check narrow) (passed : check = .ok value) :
    (∃ other, narrow = .ok other) ↔ condition := by
  obtain ⟨kept, refused⟩ := gated value passed
  refine ⟨?_, fun holds => ⟨value, kept holds⟩⟩
  rintro ⟨other, again⟩
  by_contra fails
  rw [refused fails] at again
  cases again

/-- A traversal is let through if every item is. -/
theorem mapM {check narrow : α → Except CompileError β} {allowed : α → Prop}
    (each : ∀ item, Gated error (allowed item) (check item) (narrow item)) (items : List α) :
    Gated error (∀ item ∈ items, allowed item) (items.mapM check) (items.mapM narrow) := by
  induction items with
  | nil => exact of_holds (by simp) _
  | cons item rest inductionHypothesis =>
    rw [List.mapM_cons, List.mapM_cons]
    refine congr List.forall_mem_cons.symm ((each item).bind fun result => ?_)
    exact inductionHypothesis.andThen _

end Gated

end Check

open Check (Gated)

/-! ### Coordinates -/

namespace Value

mutual

/-- How deep the coordinates of a shape nest: a point counts one, and any other list one more than
its deepest member. -/
def nesting : Value → Nat
  | .list items => if Resolve.startsWithNumber items then 1 else 1 + deepest items
  | _ => 1

/-- The nesting of the deepest member. -/
def deepest : List Value → Nat
  | [] => 0
  | item :: rest => max item.nesting (deepest rest)

end

/-- The deepest of some values stays within a bound if each of them does. -/
theorem deepest_le_iff (items : List Value) (bound : Nat) :
    deepest items ≤ bound ↔ ∀ item ∈ items, item.nesting ≤ bound := by
  induction items with
  | nil => simp [deepest]
  | cons item rest inductionHypothesis =>
    rw [deepest, Nat.max_le, inductionHypothesis, List.forall_mem_cons]

/-- A value takes at least one level. -/
theorem nesting_pos (value : Value) : 0 < value.nesting := by
  cases value with
  | list items =>
    rw [nesting]
    split <;> omega
  | _ => simp [nesting]

end Value

/-- Coordinates that are accepted at some depth are accepted at another one if they nest no deeper.
-/
theorem Resolve.coordinatesOf_gated (field : String) (levels allowed : Nat) (value : Value) :
    Gated (.invalidOperand field .coordinatesTooDeep) (value.nesting ≤ allowed)
      (coordinatesOf field levels value) (coordinatesOf field allowed value) := by
  induction allowed generalizing levels value with
  | zero => exact .of_fails (Nat.not_le.mpr value.nesting_pos) _
  | succ allowed inductionHypothesis =>
    cases levels with
    | zero => exact .of_error _ _
    | succ levels =>
      cases value with
      | list items =>
        rw [coordinatesOf, coordinatesOf, Value.nesting]
        split
        · exact .of_holds (Nat.succ_le_succ (Nat.zero_le allowed)) _
        · have members : (∀ item ∈ items, item.nesting ≤ allowed) ↔
              1 + Value.deepest items ≤ allowed + 1 := by
            rw [← Value.deepest_le_iff]
            omega
          exact ((Gated.mapM (inductionHypothesis levels) items).map Coordinates.list).congr
            members
      | map entries => exact .of_holds (Nat.succ_le_succ (Nat.zero_le allowed)) _
      | _ => exact .of_error _ _

/-! ### Sub-specifications -/

namespace Demand

/-- Whether no sub-specification that is demanded is more than a number of levels below the top. -/
def Within (bound : Nat) (demands : List Demand) : Prop :=
  ∀ depth, .spec depth ∈ demands → depth ≤ bound

variable (bound : Nat)

/-- Where nothing is demanded every bound is kept. -/
@[simp] theorem within_nil : Within bound [] := fun _ member => absurd member List.not_mem_nil

/-- Entering a sub-specification keeps a bound if its depth does. -/
@[simp] theorem within_cons_spec (depth : Nat) (rest : List Demand) :
    Within bound (.spec depth :: rest) ↔ depth ≤ bound ∧ Within bound rest := by
  simp [Within]

/-- Entering an operand is no matter of sub-specifications. -/
@[simp] theorem within_cons_operand (depth : Nat) (rest : List Demand) :
    Within bound (.operand depth :: rest) ↔ Within bound rest := by
  simp [Within]

/-- Conditions enter no sub-specification. -/
@[simp] theorem within_cons_plain (field : String) (value : Value) (rest : List Demand) :
    Within bound (.plain field value :: rest) ↔ Within bound rest := by
  simp [Within]

/-- Operators enter no sub-specification. -/
@[simp] theorem within_cons_operator (field : String) (entries : List (Operator × Value))
    (op : Operator) (value : Value) (rest : List Demand) :
    Within bound (.operator field entries op value :: rest) ↔ Within bound rest := by
  simp [Within]

/-- Demands put together keep a bound if both parts do. -/
@[simp] theorem within_append (demands others : List Demand) :
    Within bound (demands ++ others) ↔ Within bound demands ∧ Within bound others := by
  simp only [Within, List.mem_append, or_imp, forall_and]

mutual

/-- A condition on a field has no sub-specification. -/
theorem within_ofCondition (field : String) (depth : Nat) :
    (value : Value) → Within bound (ofCondition field depth value)
  | .map entries => by
    rw [ofCondition]
    exact within_ofOperators field depth _ entries
  | .null | .scalar _ | .list _ | .interval _ | .pattern _ => by simp [ofCondition]

/-- The demands of an operator map enter operands and never a sub-specification, so they keep every
bound. -/
theorem within_ofOperators (field : String) (depth : Nat) (entries : List (Operator × Value)) :
    (rest : List (Key × Value)) → Within bound (ofOperators field depth entries rest)
  | [] => by simp [ofOperators]
  | (.name _, _) :: rest => by
    rw [ofOperators]
    exact within_ofOperators field depth entries rest
  | (.op op, value) :: rest => by
    have others := within_ofOperators field depth entries rest
    have inner := within_ofCondition field (depth + 1) value
    cases op with
    | negation =>
      cases own : value.hasOwnNegation <;> simp [ofOperators, own, others, inner]
    | _ => simp [ofOperators, others]

end

/-- Entries keep a bound if each of them does by itself. -/
theorem within_ofEntries_iff (depth : Nat) (entries : List (String × Value)) :
    Within bound (ofEntries depth (entries.map Where.named)) ↔
      ∀ entry ∈ entries, Within bound (ofEntries depth [Where.named entry]) := by
  induction entries with
  | nil => simp [ofEntries]
  | cons entry rest inductionHypothesis =>
    rw [List.map_cons, ofEntries_cons, within_append, inductionHypothesis, List.forall_mem_cons]

/-- The items of a list keep a bound if each of them does by itself. -/
theorem within_ofItems_iff (depth : Nat) (items : List Value) :
    Within bound (ofItems depth items) ↔
      ∀ item ∈ items, Within bound (ofMembers depth item) := by
  induction items with
  | nil => simp [ofItems]
  | cons item rest inductionHypothesis => simp [ofItems, inductionHypothesis]

end Demand

namespace Where

open Demand (Within ofMembers ofItems)

variable {limit bound depth : Nat}
  {enter narrow : List (String × Value) → Except CompileError Where}
  (gated : ∀ entries, Gated (.depthLimitExceeded limit)
    (Within bound (.spec (depth + 1) :: Demand.ofEntries (depth + 1) (entries.map named)))
    (enter entries) (narrow entries))
include gated

/-- Entering a sub-specification is a gate for its own depth and for what stands in it. -/
theorem specOf_gated (key : String) (value : Value) :
    Gated (.depthLimitExceeded limit) (Within bound (ofMembers depth value))
      (specOf enter key value) (specOf narrow key value) := by
  cases value with
  | map given =>
    intro clauses passed
    obtain ⟨entries, read, entered⟩ := (bind_eq_ok_iff _ _ _).mp passed
    obtain rfl := names_eq_ok key given entries read
    rw [ofMembers, specOf, read]
    exact gated entries clauses entered
  | _ => exact .of_error _ _

/-- A list of sub-specifications is a row of gates, one for each. -/
theorem specsOf_gated (key : String) (items : List Value) :
    Gated (.depthLimitExceeded limit) (Within bound (ofItems depth items))
      (items.mapM (specOf enter key)) (items.mapM (specOf narrow key)) :=
  (Gated.mapM (specOf_gated gated key) items).congr
    (Demand.within_ofItems_iff bound depth items).symm

/-- A group is gated by the sub-specifications in it. -/
theorem groupOf_gated (key : String) (connective : Connective) (value : Value) :
    Gated (.depthLimitExceeded limit) (Within bound (ofMembers depth value))
      (groupOf enter key connective value) (groupOf narrow key connective value) := by
  cases value with
  | list items =>
    rw [ofMembers]
    exact (specsOf_gated gated key items).andThen _
  | _ => exact .of_error _ _

/-- What stands under a combinator is gated by the sub-specifications in it. -/
theorem clausesOf_gated (combinator : Combinator) (key : String) (value : Value) :
    Gated (.depthLimitExceeded limit) (Within bound (ofMembers depth value))
      (clausesOf enter combinator key value) (clausesOf narrow combinator key value) := by
  cases value with
  | list items =>
    rw [ofMembers]
    cases nested : combinator.takesGroups with
    | true =>
      rw [clausesOf_groups enter combinator nested, clausesOf_groups narrow combinator nested]
      exact (Gated.mapM (groupOf_gated gated key _) items).congr
        (Demand.within_ofItems_iff bound depth items).symm
    | false =>
      rw [clausesOf_list enter combinator nested, clausesOf_list narrow combinator nested]
      exact (specsOf_gated gated key items).andThen _
  | map entries =>
    cases combinator with
    | not => exact (specOf_gated gated key (.map entries)).andThen _
    | _ => exact .of_error _ _
  | _ => cases combinator <;> exact .of_error _ _

/-- An entry is gated by the sub-specifications in it. A condition on a field has none, and its gate
is open. -/
theorem entryClauses_gated (entry : String × Value) :
    Gated (.depthLimitExceeded limit) (Within bound (Demand.ofEntries depth [named entry]))
      (entryClauses enter entry) (entryClauses narrow entry) := by
  obtain ⟨key, value⟩ := entry
  simp only [Demand.ofEntries, named, Key.text, List.append_nil, entryClauses]
  cases Combinator.ofKey? key with
  | some combinator => exact clausesOf_gated gated combinator key value
  | none => exact .of_holds (Demand.within_ofCondition bound (pathOf key) depth value) _

/-- Entries are gated if entering sub-specifications is. This is the step from one level to the
next. -/
theorem entriesClauses_gated (entries : List (String × Value)) :
    Gated (.depthLimitExceeded limit) (Within bound (Demand.ofEntries depth (entries.map named)))
      (entriesClauses enter entries) (entriesClauses narrow entries) :=
  ((Gated.mapM (entryClauses_gated gated) entries).map List.flatten).congr
    (Demand.within_ofEntries_iff bound depth entries).symm

omit gated

/-- Entries that can be read at all can be read within a limit if no sub-specification is below it.
The induction is on the levels that are left. -/
theorem ofEntries_gated (most levels left depth : Nat) (below : depth + left = limit)
    (entries : List (String × Value)) :
    Gated (.depthLimitExceeded limit) (Within limit (Demand.ofEntries depth (entries.map named)))
      (ofEntries most levels entries) (ofEntries limit left entries) := by
  induction left generalizing levels depth entries with
  | zero =>
    have tooDeep (others : List Demand) : ¬Within limit (.spec (depth + 1) :: others) := by
      rw [Demand.within_cons_spec]
      omega
    cases levels <;> exact entriesClauses_gated (fun _ => .of_fails (tooDeep _) _) entries
  | succ left inductionHypothesis =>
    cases levels with
    | zero => exact entriesClauses_gated (fun _ => .of_error _ _) entries
    | succ levels =>
      refine entriesClauses_gated (fun inner => ?_) entries
      refine (inductionHypothesis levels (depth + 1) (by omega) inner).congr ?_
      rw [Demand.within_cons_spec]
      exact (and_iff_right (by omega)).symm

end Where

/-- What a specification is read into at some limit it is read into at another one that lets all of
its sub-specifications through. -/
theorem FilterSpec.normalize_gated (spec : FilterSpec) (enough limit : Nat) :
    Gated (.depthLimitExceeded limit) (Demand.Within limit spec.demands)
      (spec.normalize enough) (spec.normalize limit) :=
  Where.ofEntries_gated enough enough limit 0 (Nat.zero_add limit) spec.entries

end SearchFilter
