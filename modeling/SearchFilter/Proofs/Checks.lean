import SearchFilter.Proofs.Building
import SearchFilter.Proofs.Demands

/-!
# Compilation checks the demands one after the other

Every demand of a specification can be checked by itself, with whatever is inside its operand taken
for granted, because that is demanded on its own. Compilation is the traversal of the demands with
this check: it fails with the error of the first demand whose check fails, and raises the warnings
of all of them in order (`built_checked`). The tests with a case flag in the query tree are
collected on the way.
-/

namespace SearchFilter

open Diagnosed (collect)
open Resolve (Setting Contribution)

namespace Demand

/-- Checks a demand by itself and gives the tests with a case flag that it leads to. The levels of
sub-specifications are counted by the reader. -/
def check (setting : Setting) : Demand → Diagnosed (List (String × Test))
  | .spec _ => .done [] []
  | .operand depth =>
    if depth ≤ setting.limit then .done [] [] else .failed (.depthLimitExceeded setting.limit)
  | .plain field value => do
    let shape ← Diagnosed.lift (Operand.ofValue field value)
    return Query.matchers (← Resolve.plainOperand setting field shape)
  | .operator field entries op value =>
    Contribution.matchers <$>
      Resolve.contribution setting (fun _ => .done [] []) field entries (op, value)

/-- The demands of an operator map are those of its entries in order. All entries stay at hand for
partners. -/
theorem ofOperators_keyed_cons (field : String) (depth : Nat)
    (entries : List (Operator × Value)) (entry : Operator × Value)
    (rest : List (Operator × Value)) :
    ofOperators field depth entries ((entry :: rest).map Resolve.keyed) =
      ofOperators field depth entries [Resolve.keyed entry] ++
        ofOperators field depth entries (rest.map Resolve.keyed) := by
  obtain ⟨op, value⟩ := entry
  cases op <;> simp [Resolve.keyed, ofOperators]

/-- The entries of an operator map make their demands one after the other. -/
theorem ofOperators_eq_flatMap (field : String) (depth : Nat)
    (entries rest : List (Operator × Value)) :
    ofOperators field depth entries (rest.map Resolve.keyed) =
      rest.flatMap fun entry => ofOperators field depth entries [Resolve.keyed entry] := by
  induction rest with
  | nil => rfl
  | cons entry rest inductionHypothesis =>
    rw [ofOperators_keyed_cons, inductionHypothesis, List.flatMap_cons]

/-- The check of a plain condition resolves it, and keeps the tests with a case flag of what comes
out. -/
theorem check_plain (setting : Setting) (field : String) (shape : Operand) :
    (Demand.plain field shape.toValue).check setting =
      Query.matchers <$> Resolve.plainOperand setting field shape := by
  rw [check, Operand.ofValue_toValue, Diagnosed.lift_ok_bind, map_eq_pure_bind]

/-- Neither declarations nor the limit matter to a condition that is no operator map. -/
theorem check_plain_congr (setting other : Setting)
    (same : setting.capabilities = other.capabilities) (field : String) (value : Value) :
    (Demand.plain field value).check setting = (Demand.plain field value).check other := by
  have alike (shape : Operand) :
      Resolve.plainOperand setting field shape = Resolve.plainOperand other field shape := by
    cases shape <;> simp only [Resolve.plainOperand, same]
  simp only [check, alike]

end Demand

namespace Resolve

open Demand (check ofCondition ofOperators)

/-! ### Operands -/

section Entries

variable (setting : Setting) (enter : Operand → Diagnosed (List Query)) (field : String)
  (entries : List (Operator × Value)) (value : Value)

/-- Equality is no operator on places, so its contribution is what it resolves to. -/
theorem contribution_equal :
    contribution setting enter field entries (.equal, value) =
      Contribution.queries <$> equality enter field value := by
  rw [map_eq_pure_bind]
  exact Diagnosed.lift_ok_bind () _

/-- Negation is no operator on places, and it contributes one query. -/
theorem contribution_negation :
    contribution setting enter field entries (.negation, value) =
      (fun query => Contribution.queries [query]) <$> negation enter field value := by
  rw [map_eq_pure_bind]
  exact Diagnosed.lift_ok_bind () _

/-- Equality with a value that has no shape of an operand is refused with the same error. -/
theorem equality_of_error (error : CompileError)
    (refused : Operand.ofValue field value = .error error) :
    equality enter field value = .failed error := by
  rw [equality, refused]
  rfl

/-- Negation of a value that has no shape of an operand is refused with the same error. -/
theorem negation_of_error (error : CompileError)
    (refused : Operand.ofValue field value = .error error) :
    negation enter field value = .failed error := by
  rw [negation, refused]
  rfl

/-- An equality is refused with an operator map and resolved as its operand otherwise. -/
theorem equality_toValue (shape : Operand) :
    equality enter field shape.toValue =
      match shape with
      | .ops _ => .failed (.invalidOperand field (.operand .equal .comparand .map))
      | shape => enter shape := by
  rw [equality, Operand.ofValue_toValue, Diagnosed.lift_ok_bind]
  cases shape <;> rfl

/-- Negation by the shape of its operand, which reading the value again does not change. -/
theorem negation_toValue (shape : Operand) :
    negation enter field shape.toValue =
      match shape with
      | .null => .done (Query.test field .present) []
      | .scalar value => .lift do return .leaf (Predicate.of field (← term field value)).flip
      | .list items => .lift (equalsNone field items)
      | shape => (fun queries => (Query.allOf queries).negate) <$> enter shape := by
  rw [negation, Operand.ofValue_toValue, Diagnosed.lift_ok_bind]
  cases shape <;> rfl

/-- Only equality and negation enter operands. -/
theorem contribution_of_entersNone (other : Operand → Diagnosed (List Query)) (op : Operator)
    (noEqual : op ≠ .equal) (noNegation : op ≠ .negation) :
    contribution setting enter field entries (op, value) =
      contribution setting other field entries (op, value) := by
  cases op <;> first | rfl | exact absurd rfl noEqual | exact absurd rfl noNegation

end Entries

variable (setting : Setting) (enter : Operand → Diagnosed (List Query)) (field : String)
  (depth : Nat)

/-- Whether the operands inside operands at some depth are resolved by checking their demands. -/
def Checked : Prop :=
  ∀ shape, Query.matchers <$> enter shape =
    collect (check setting) (.operand (depth + 1) :: ofCondition field (depth + 1) shape.toValue)

variable (checked : Checked setting enter field depth)
include checked

/-- The contribution of an equality is collected over its demands: entering the operand, and what is
inside it. -/
theorem equality_checked (entries : List (Operator × Value)) (value : Value) :
    Contribution.matchers <$> contribution setting enter field entries (.equal, value) =
      collect (check setting) (ofOperators field depth entries [keyed (.equal, value)]) := by
  have demanded : ofOperators field depth entries [keyed (.equal, value)] =
    [.operator field entries .equal value, .operand (depth + 1), .plain field value] := rfl
  have alone : check setting (.operator field entries .equal value) =
      Query.matchers <$> equality (fun _ => .done [] []) field value := by
    rw [check, contribution_equal, Functor.map_map]
    rfl
  rw [contribution_equal, Functor.map_map, demanded]
  change Query.matchers <$> equality enter field value = _
  obtain ⟨error, refused⟩ | ⟨shape, rfl⟩ := Operand.refused_or_shaped field value
  · rw [equality_of_error _ field value error refused] at alone ⊢
    rw [Diagnosed.collect_cons, alone]
    rfl
  · rw [equality_toValue] at alone ⊢
    cases shape with
    | ops inner =>
      rw [Diagnosed.collect_cons, alone]
      rfl
    | _ =>
      rw [Diagnosed.collect_cons_of_empty _ _ _ alone]
      exact checked _

/-- The literals and sequences that are negated by themselves have no case flag. -/
theorem negation_checked (entries : List (Operator × Value)) (value : Value) :
    Contribution.matchers <$> contribution setting enter field entries (.negation, value) =
      collect (check setting) (ofOperators field depth entries [keyed (.negation, value)]) := by
  have demanded : ofOperators field depth entries [keyed (.negation, value)] =
    .operator field entries .negation value ::
      if value.hasOwnNegation then []
        else .operand (depth + 1) :: ofCondition field (depth + 1) value := by
    simp [keyed, ofOperators]
  have alone : check setting (.operator field entries .negation value) =
      (fun query => Query.matchers [query]) <$> negation (fun _ => .done [] []) field value := by
    rw [check, contribution_negation, Functor.map_map]
    rfl
  rw [contribution_negation, Functor.map_map, demanded]
  change (fun query => Query.matchers [query]) <$> negation enter field value = _
  obtain ⟨error, refused⟩ | ⟨shape, rfl⟩ := Operand.refused_or_shaped field value
  · rw [negation_of_error _ field value error refused] at alone ⊢
    rw [Diagnosed.collect_cons, alone]
    rfl
  · rw [negation_toValue] at alone ⊢
    cases shape with
    | null | scalar _ | list _ =>
      rw [← alone]
      exact (Diagnosed.collect_singleton _ _).symm
    | _ =>
      rw [Diagnosed.collect_cons_of_empty _ _ _ alone, Functor.map_map]
      simp only [Query.matchers_negate, Query.matchers_allOf]
      exact checked _

/-- An entry that is taken up makes its demands in order. -/
theorem contribution_checked (entries : List (Operator × Value)) (entry : Operator × Value) :
    Contribution.matchers <$> contribution setting enter field entries entry =
      collect (check setting) (ofOperators field depth entries [keyed entry]) := by
  obtain ⟨op, value⟩ := entry
  by_cases equal : op = .equal
  · subst equal
    exact equality_checked setting enter field depth checked entries value
  by_cases negated : op = .negation
  · subst negated
    exact negation_checked setting enter field depth checked entries value
  have demanded : ofOperators field depth entries [keyed (op, value)] =
      [.operator field entries op value] := by
    cases op <;> first | rfl | contradiction
  rw [demanded, Diagnosed.collect_singleton, check]
  exact congrArg _ (contribution_of_entersNone setting enter field entries value _ op equal negated)

/-- The queries of an operand are collected over its demands if this is so of the operands inside
it. -/
theorem operandWith_checked (shape : Operand) :
    Query.matchers <$> operandWith setting enter field shape =
      collect (check setting) (ofCondition field depth shape.toValue) := by
  have plain := (Demand.check_plain setting field shape).symm
  cases shape with
  | ops entries =>
    have arranged (contributions : List Contribution) :
        Query.matchers ((contributions.foldl (Progress.add field) .start).queries field) =
          contributions.flatMap Contribution.matchers :=
      matchers_arranged field contributions .start
    rw [operandWith, takeUpAll_eq, Operand.toValue, ofCondition, Operand.operatorsOf_keyed,
      Demand.ofOperators_eq_flatMap, Diagnosed.collect_flatMap]
    simp only [← contribution_checked setting enter field depth checked, Diagnosed.collect_map,
      map_bind, bind_map_left, map_pure, arranged]
    exact (map_eq_pure_bind _ _).symm
  | _ => exact plain.trans (Diagnosed.collect_singleton _ _).symm

omit checked in
/-- An operand some levels below the top is resolved by checking its demands one after the other.
The induction is on the levels that may still be entered. -/
theorem operand_checked (levels : Nat) (left : levels = setting.limit - depth) (shape : Operand) :
    Query.matchers <$> operand setting field levels shape =
      collect (check setting) (ofCondition field depth shape.toValue) := by
  induction levels generalizing depth shape with
  | zero =>
    refine operandWith_checked setting _ field depth (fun inner => ?_) shape
    have tooDeep : check setting (.operand (depth + 1)) =
        .failed (.depthLimitExceeded setting.limit) := if_neg (by omega)
    rw [Diagnosed.collect_cons, tooDeep]
    rfl
  | succ levels inductionHypothesis =>
    refine operandWith_checked setting _ field depth (fun inner => ?_) shape
    have allowed : check setting (.operand (depth + 1)) = .done [] [] := if_pos (by omega)
    rw [Diagnosed.collect_cons_of_empty _ _ _ allowed]
    exact inductionHypothesis (depth + 1) (by omega) inner

end Resolve

/-- The demands of a condition, checked one after the other, give its tests with a case flag. -/
theorem Demand.check_keeps (setting : Setting) :
    Outline.Keeps setting Predicate.matcher? fun item => collect (check setting) item.demands where
  spec depth := Diagnosed.collect_singleton (check setting) (.spec depth)
  condition depth field shape :=
    (Resolve.operand_checked setting field depth _ rfl shape).symm

section Compiling

variable (spec : FilterSpec) (fields : FieldContext) (capabilities : Capabilities) (limit : Nat)

/-- A specification that can be read is built by checking its demands one after the other. -/
theorem built_checked (clauses : Where) (read : spec.normalize limit = .ok clauses) :
    (fun root => Query.matchers [root]) <$> Where.query ⟨fields, capabilities, limit⟩ 0 clauses =
      collect (Demand.check ⟨fields, capabilities, limit⟩) spec.demands := by
  rw [FilterSpec.demands_eq_flatMap, Diagnosed.collect_flatMap]
  exact built_collected spec fields capabilities limit (Demand.check_keeps _) clauses read

/-- What is compiled has the warnings of its demands and their tests with a case flag. -/
theorem collect_of_compile (compiled : CompiledQuery)
    (compiles : compile spec fields capabilities limit = .ok compiled) :
    collect (Demand.check ⟨fields, capabilities, limit⟩) spec.demands =
      .done (Query.matchers [compiled.root]) compiled.warnings := by
  obtain ⟨clauses, read, built⟩ := (compile_eq_ok_iff _ _ _ _ _).mp compiles
  rw [← built_checked spec fields capabilities limit clauses read, built]
  exact (Diagnosed.map_eq_done_iff _ _ _ _).mpr ⟨_, rfl, rfl⟩

/-- A specification that can be read is refused for the first demand that does not pass its check.
-/
theorem compile_eq_error_iff_of_read (clauses : Where) (read : spec.normalize limit = .ok clauses)
    (error : CompileError) :
    compile spec fields capabilities limit = .error error ↔
      (spec.demands.findSome? fun demand =>
        (demand.check ⟨fields, capabilities, limit⟩).error?) = some error := by
  rw [← Diagnosed.error?_collect, ← built_checked spec fields capabilities limit clauses read,
    Diagnosed.error?_map, compile, read]
  cases built : Where.query ⟨fields, capabilities, limit⟩ 0 clauses <;> simp [built]

/-- A specification compiles when it can be read and all of its demands pass their checks. -/
theorem compiles_iff :
    (∃ compiled, compile spec fields capabilities limit = .ok compiled) ↔
      (∃ clauses, spec.normalize limit = .ok clauses) ∧
        ∀ demand ∈ spec.demands, (demand.check ⟨fields, capabilities, limit⟩).Succeeds := by
  constructor
  · rintro ⟨compiled, compiles⟩
    obtain ⟨clauses, read, -⟩ := (compile_eq_ok_iff _ _ _ _ _).mp compiles
    refine ⟨⟨clauses, read⟩, ?_⟩
    have collected := collect_of_compile spec fields capabilities limit compiled compiles
    obtain ⟨results, gathered, -⟩ := (Diagnosed.map_eq_done_iff _ _ _ _).mp collected
    exact (Diagnosed.succeeds_mapM_iff _ _).mp ⟨results, _, gathered⟩
  · rintro ⟨⟨clauses, read⟩, each⟩
    obtain ⟨results, warnings, gathered⟩ := (Diagnosed.succeeds_mapM_iff _ _).mpr each
    have collected : (collect (Demand.check ⟨fields, capabilities, limit⟩) spec.demands).Succeeds :=
      (Diagnosed.succeeds_map_iff _ _).mpr ⟨results, warnings, gathered⟩
    rw [← built_checked spec fields capabilities limit clauses read,
      Diagnosed.succeeds_map_iff] at collected
    obtain ⟨root, warnings, built⟩ := collected
    exact ⟨⟨root, warnings⟩, (compile_eq_ok_iff _ _ _ _ _).mpr ⟨clauses, read, built⟩⟩

end Compiling

end SearchFilter
