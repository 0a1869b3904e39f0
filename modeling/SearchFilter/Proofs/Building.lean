import SearchFilter.Proofs.Collecting
import SearchFilter.Proofs.Leaves
import SearchFilter.Proofs.Outline

/-!
# Trees are built condition by condition

Groups hold what their members hold, so the predicates of a tree are those that the conditions in
the outline of its specification resolve to, in order. Each condition is resolved by itself, with as
many levels of operands as are left at its depth.
-/

namespace SearchFilter

open Diagnosed (collect)
open Resolve (Setting)

/-- What is kept of the predicates of queries, in order. -/
def Query.kept {β : Type} (keep : Predicate → Option β) (queries : List Query) : List β :=
  (leavesOfAll queries).filterMap keep

namespace Outline

/-- The predicates that an item of an outline resolves to. That a sub-specification is entered is
settled when it is read. -/
def Item.resolve (setting : Setting) : Item → Diagnosed (List Predicate)
  | .spec _ => .done [] []
  | .condition depth field value => do
    let shape ← Diagnosed.lift (Operand.ofValue field value)
    Query.leavesOfAll <$> Resolve.operand setting field (setting.limit - depth) shape

/-- Whether a step on the items of an outline gives what is kept of the predicates of conditions. -/
structure Keeps (setting : Setting) {β : Type} (keep : Predicate → Option β)
    (step : Item → Diagnosed (List β)) : Prop where
  spec : ∀ depth, step (.spec depth) = .done [] []
  condition : ∀ depth field shape,
    step (.condition depth field shape.toValue) =
      Query.kept keep <$> Resolve.operand setting field (setting.limit - depth) shape

/-- Resolving a condition keeps all of its predicates, which makes it the step to be collected. -/
theorem Item.resolve_keeps (setting : Setting) : Keeps setting some (resolve setting) where
  spec _ := rfl
  condition depth field shape := by
    have all : Query.kept some = Query.leavesOfAll := funext fun _ => List.filterMap_some
    rw [resolve, Operand.ofValue_toValue, Diagnosed.lift_ok_bind, all]

end Outline

namespace Where

open Outline (ofClause ofClauses ofSpecs)

variable {setting : Setting} {β : Type} {keep : Predicate → Option β}
  {step : Outline.Item → Diagnosed (List β)}

/-- Two lists of queries that are built one after the other leave in order what is kept of them. -/
theorem kept_sequence (first others : Diagnosed (List Query)) :
    (Query.kept keep <$> do
      let queries ← first
      let rest ← others
      return queries ++ rest) = (do
        let results ← Query.kept keep <$> first
        let rest ← Query.kept keep <$> others
        return results ++ rest) := by
  simp only [map_eq_pure_bind, bind_assoc, pure_bind, Query.kept, Query.leavesOfAll_append,
    List.filterMap_append]

mutual

/-- The query of a specification is built by collecting along its outline. -/
theorem query_collected (keeps : Outline.Keeps setting keep step) (depth : Nat) :
    (clauses : List Clause) →
      (fun root => Query.kept keep [root]) <$> query setting depth clauses =
        collect step (ofClauses depth clauses)
  | [] => by
    rw [query, ofClauses]
    rfl
  | clause :: rest => by
    rw [query, ofClauses, Diagnosed.collect_append, ← clauseQueries_collected keeps depth clause,
      ← clausesQueries_collected keeps depth rest, ← kept_sequence]
    simp only [map_eq_pure_bind, bind_assoc, pure_bind, Query.kept, Query.leavesOfAll, Query.leaves,
      List.append_nil]

/-- What is kept of a clause is collected over the conditions in its outline, with groups taken
apart. -/
theorem clauseQueries_collected (keeps : Outline.Keeps setting keep step) (depth : Nat) :
    (clause : Clause) →
      Query.kept keep <$> clauseQueries setting depth clause =
        collect step (ofClause depth clause)
  | .group connective members => by
    rw [clauseQueries, ofClause, ← queries_collected keeps depth members]
    simp only [map_eq_pure_bind, bind_assoc, pure_bind, Query.kept, Query.leavesOfAll, Query.leaves,
      List.append_nil]
  | .field path shape => by
    rw [clauseQueries, ofClause, Diagnosed.collect_singleton, keeps.condition]

/-- What is kept of clauses in sequence is collected over their outlines in sequence. -/
theorem clausesQueries_collected (keeps : Outline.Keeps setting keep step) (depth : Nat) :
    (clauses : List Clause) →
      Query.kept keep <$> clausesQueries setting depth clauses =
        collect step (ofClauses depth clauses)
  | [] => by
    rw [clausesQueries, ofClauses]
    rfl
  | clause :: rest => by
    rw [clausesQueries, ofClauses, Diagnosed.collect_append,
      ← clauseQueries_collected keeps depth clause, ← clausesQueries_collected keeps depth rest,
      ← kept_sequence]

/-- What is kept of the members of a group is collected over the outlines of its sub-specifications,
one level further down. -/
theorem queries_collected (keeps : Outline.Keeps setting keep step) (depth : Nat) :
    (members : List (List Clause)) →
      Query.kept keep <$> queries setting (depth + 1) members =
        collect step (ofSpecs depth members)
  | [] => by
    rw [queries, ofSpecs]
    rfl
  | member :: rest => by
    rw [queries, ofSpecs, Diagnosed.collect_cons_of_empty _ _ _ (keeps.spec (depth + 1)),
      Diagnosed.collect_append, ← query_collected keeps (depth + 1) member,
      ← queries_collected keeps depth rest]
    simp only [map_eq_pure_bind, bind_assoc, pure_bind, Query.kept, Query.leavesOfAll,
      List.filterMap_append, List.append_nil]

end

end Where

section Compiling

variable (spec : FilterSpec) (fields : FieldContext) (capabilities : Capabilities) (limit : Nat)

/-- A specification that can be read is built by collecting along its outline. -/
theorem built_collected {β : Type} {keep : Predicate → Option β}
    {step : Outline.Item → Diagnosed (List β)}
    (keeps : Outline.Keeps ⟨fields, capabilities, limit⟩ keep step) (clauses : Where)
    (read : spec.normalize limit = .ok clauses) :
    (fun root => Query.kept keep [root]) <$> Where.query ⟨fields, capabilities, limit⟩ 0 clauses =
      collect step spec.outline := by
  rw [Where.query_collected keeps, Where.ofEntries_outlines limit limit spec.entries clauses read 0]
  rfl

/-- The predicates of a compiled query are those that the outline of its specification resolves
to. -/
theorem resolved_of_compile (compiled : CompiledQuery)
    (compiles : compile spec fields capabilities limit = .ok compiled) :
    collect (Outline.Item.resolve ⟨fields, capabilities, limit⟩) spec.outline =
      .done compiled.root.leaves compiled.warnings := by
  obtain ⟨clauses, read, built⟩ := (compile_eq_ok_iff _ _ _ _ _).mp compiles
  rw [← built_collected spec fields capabilities limit (Outline.Item.resolve_keeps _) clauses read,
    built]
  refine (Diagnosed.map_eq_done_iff _ _ _ _).mpr ⟨_, rfl, ?_⟩
  simp only [Query.kept, Query.leavesOfAll, List.append_nil, List.filterMap_some]

/-- In what compiles every condition has a shape. -/
theorem shaped_of_compile (compiled : CompiledQuery)
    (compiles : compile spec fields capabilities limit = .ok compiled) (depth : Nat)
    (field : String) (value : Value) (member : .condition depth field value ∈ spec.outline) :
    ∃ shape, Operand.ofValue field value = .ok shape := by
  have resolved := resolved_of_compile spec fields capabilities limit compiled compiles
  obtain ⟨results, gathered, -⟩ := (Diagnosed.map_eq_done_iff _ _ _ _).mp resolved
  obtain ⟨predicates, warnings, done⟩ :=
    (Diagnosed.succeeds_mapM_iff _ _).mp ⟨results, _, gathered⟩ _ member
  obtain ⟨shape, _, _, lifted, -⟩ := (Diagnosed.bind_eq_done_iff _ _ _ _).mp done
  exact ⟨shape, ((Diagnosed.lift_eq_done_iff _ _ _).mp lifted).1⟩

end Compiling

end SearchFilter
