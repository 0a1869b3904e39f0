import SearchFilter.Proofs.SpecificationMeaning

/-!
# Specifications of a single field condition

What is said about the conditions of one field is said about the specifications that consist of one
such condition. These compile exactly when the condition has the shape of an operand that can be
resolved with all levels that the limit allows, and hold where the condition does.
-/

namespace SearchFilter.FilterSpec

open Check (bind_eq_ok_iff map_eq_ok_iff mapM_eq_ok_iff)

/-- The specification with one condition under one key. -/
def single (key : String) (value : Value) : FilterSpec := .ofPairs [(key, value)]

variable (key : String) (value : Value) (isField : Combinator.ofKey? key = none)
include isField

/-- The normal form of a single condition is one clause, whatever the limit. -/
theorem normalize_single_eq_ok_iff (limit : Nat) (clauses : Where) :
    (single key value).normalize limit = .ok clauses ↔
      ∃ operand, Operand.ofValue (Where.pathOf key) value = .ok operand ∧
        clauses = [.field (Where.pathOf key) operand] := by
  have read (enter : List (String × Value) → Except CompileError Where) :
      Where.entriesClauses enter [(key, value)] = .ok clauses ↔
        ∃ operand, Operand.ofValue (Where.pathOf key) value = .ok operand ∧
          clauses = [.field (Where.pathOf key) operand] := by
    unfold Where.entriesClauses
    simp only [map_eq_ok_iff, mapM_eq_ok_iff, List.forall₂_cons_left_iff,
      List.forall₂_nil_left_iff, Where.entryClauses, isField, bind_eq_ok_iff,
      Check.pure_eq_ok_iff]
    constructor
    · rintro ⟨parts, ⟨part, rest, ⟨operand, shaped, rfl⟩, rfl, rfl⟩, rfl⟩
      exact ⟨operand, shaped, rfl⟩
    · rintro ⟨operand, shaped, rfl⟩
      exact ⟨_, ⟨_, _, ⟨operand, shaped, rfl⟩, rfl, rfl⟩, rfl⟩
  cases limit with
  | zero => exact read _
  | succ levels => exact read _

/-- A single condition is refused where its operand is, and otherwise compiles to the conjunction of
the queries of its operand. -/
theorem compile_single_eq (fields : FieldContext) (capabilities : Capabilities) (limit : Nat)
    {operand : Operand} (shaped : Operand.ofValue (Where.pathOf key) value = .ok operand) :
    compile (single key value) fields capabilities limit =
      match Resolve.operand ⟨fields, capabilities, limit⟩ (Where.pathOf key) limit operand with
      | .failed error => .error error
      | .done queries warnings => .ok ⟨.group .and queries, warnings⟩ := by
  have normalized : (single key value).normalize limit = .ok [.field (Where.pathOf key) operand] :=
    (normalize_single_eq_ok_iff key value isField limit _).mpr ⟨operand, shaped, rfl⟩
  rw [compile, normalized]
  simp only [Where.query, Where.clauseQueries, Where.clausesQueries, Nat.sub_zero, pure_bind,
    List.append_nil]
  cases Resolve.operand ⟨fields, capabilities, limit⟩ (Where.pathOf key) limit operand with
  | failed error => rfl
  | done queries warnings => simp [Diagnosed.done_bind]

/-- A single condition compiles to the conjunction of the queries of its operand. -/
theorem compile_single_eq_ok_iff (fields : FieldContext) (capabilities : Capabilities)
    (limit : Nat) (compiled : CompiledQuery) :
    compile (single key value) fields capabilities limit = .ok compiled ↔
      ∃ operand queries, Operand.ofValue (Where.pathOf key) value = .ok operand ∧
        Resolve.operand ⟨fields, capabilities, limit⟩ (Where.pathOf key) limit operand =
          .done queries compiled.warnings ∧
        compiled.root = .group .and queries := by
  have built (operand : Operand) (root : Query) (warnings : List Warning) :
      Where.query ⟨fields, capabilities, limit⟩ 0 [.field (Where.pathOf key) operand] =
          .done root warnings ↔
        ∃ queries, Resolve.operand ⟨fields, capabilities, limit⟩ (Where.pathOf key) limit operand =
          .done queries warnings ∧ root = .group .and queries := by
    rw [Where.query, Where.clauseQueries, Where.clausesQueries, Nat.sub_zero]
    simp only [pure_bind, List.append_nil]
    rw [← map_eq_pure_bind, Diagnosed.map_eq_done_iff]
    simp only [eq_comm]
  rw [compile_eq_ok_iff]
  constructor
  · rintro ⟨clauses, read, done⟩
    obtain ⟨operand, shaped, rfl⟩ :=
      (normalize_single_eq_ok_iff key value isField limit clauses).mp read
    obtain ⟨queries, resolved, root⟩ := (built operand _ _).mp done
    exact ⟨operand, queries, shaped, resolved, root⟩
  · rintro ⟨operand, queries, shaped, resolved, root⟩
    exact ⟨_, (normalize_single_eq_ok_iff key value isField limit _).mpr ⟨operand, shaped, rfl⟩,
      (built operand _ _).mpr ⟨queries, resolved, root⟩⟩

/-- A single condition selects the documents whose field satisfies it. -/
theorem selects_single (fields : FieldContext) (capabilities : Capabilities) (limit : Nat)
    (compiled : CompiledQuery)
    (compiles : compile (single key value) fields capabilities limit = .ok compiled)
    (document : Json) :
    compiled.root.selects document =
      Meaning.condition capabilities (.of document (Where.pathOf key)) value := by
  obtain ⟨operand, queries, shaped, resolved, root⟩ :=
    (compile_single_eq_ok_iff key value isField fields capabilities limit compiled).mp compiles
  rw [root, Query.selects]
  exact Resolve.operand_faithful ⟨fields, capabilities, limit⟩ (Where.pathOf key) limit value
    operand queries compiled.warnings shaped resolved document

end SearchFilter.FilterSpec
