import SearchFilter.Proofs.Easing
import SearchFilter.Proofs.Outcomes

/-!
# Case flags are all that an engine changes in a query

What an engine can do shows in a compiled query only in the case flags of the tests that came from
pattern literals. If one engine compiles a specification and another one can do at least as much
with case, the other one compiles it too, and its query with the flags replaced is the query of the
first. The relation between the two compilations is carried through every step, as the one for
limits and declarations is.
-/

namespace SearchFilter

namespace Diagnosed

variable {α β : Type}

/-- Whether another step is done whenever a step is, with a result that the change turns into that
of the step. The warnings are not compared. -/
def Tracks (change : α → α) (step other : Diagnosed α) : Prop :=
  ∀ value warnings, step = .done value warnings →
    ∃ given raised, other = .done given raised ∧ value = change given

namespace Tracks

variable {change : α → α} {changeNext : β → β}

/-- Of a step that fails nothing is asked. -/
theorem of_failed (error : CompileError) (other : Diagnosed α) :
    Tracks change (.failed error) other := by
  intro value warnings done
  cases done

/-- Two steps that are done follow each other if their results do. The warnings may differ. -/
theorem of_done (value given : α) (warnings raised : List Warning) (same : value = change given) :
    Tracks change (.done value warnings) (.done given raised) := by
  intro _ _ done
  obtain ⟨rfl, -⟩ := Diagnosed.done.inj done
  exact ⟨given, raised, rfl, same⟩

/-- A step whose results the change leaves alone tracks itself. -/
theorem of_unchanged (step : Diagnosed α)
    (unchanged : ∀ value warnings, step = .done value warnings → change value = value) :
    Tracks change step step :=
  fun value warnings done => ⟨value, warnings, done, (unchanged value warnings done).symm⟩

/-- Steps in sequence follow each other if the first ones do and the second ones do for results that
belong together. -/
theorem bind {step other : Diagnosed α} {next otherNext : α → Diagnosed β}
    (first : Tracks change step other)
    (second : ∀ given, Tracks changeNext (next (change given)) (otherNext given)) :
    Tracks changeNext (step >>= next) (other >>= otherNext) := by
  intro result warnings done
  obtain ⟨value, _, _, stepDone, last, -⟩ := (bind_eq_done_iff _ _ _ _).mp done
  obtain ⟨given, raised, otherDone, rfl⟩ := first value _ stepDone
  obtain ⟨output, later, finished, same⟩ := second given result _ last
  exact ⟨output, _, (bind_eq_done_iff _ _ _ _).mpr ⟨given, raised, later, otherDone, finished, rfl⟩,
    same⟩

/-- Changing the results on both sides keeps them together if the changes agree. -/
theorem map {step other : Diagnosed α} {build otherBuild : α → β}
    (first : Tracks change step other)
    (second : ∀ given, build (change given) = changeNext (otherBuild given)) :
    Tracks changeNext (build <$> step) (otherBuild <$> other) := by
  rw [map_eq_pure_bind, map_eq_pure_bind]
  exact first.bind fun given => of_done _ _ _ _ (second given)

/-- A traversal follows another one if its step does for every item. -/
theorem mapM {step other : α → Diagnosed β} (items : List α)
    (each : ∀ item, Tracks changeNext (step item) (other item)) :
    Tracks (List.map changeNext) (items.mapM step) (items.mapM other) := by
  induction items with
  | nil => exact of_done _ _ _ _ rfl
  | cons item rest inductionHypothesis =>
    rw [List.mapM_cons, List.mapM_cons]
    exact (each item).bind fun result => inductionHypothesis.bind fun results =>
      of_done _ _ _ _ rfl

end Tracks

end Diagnosed

/-! ### Trees with other case flags -/

/-- The test with another case flag, if it came from a pattern literal. -/
def Test.reflag (flag : Bool → Bool) : Test → Test
  | .regexp pattern ignoreCase true => .regexp pattern (flag ignoreCase) true
  | test => test

/-- A test without a case flag is the same for all engines. -/
theorem Test.reflag_of_unflagged (flag : Bool → Bool) (test : Test)
    (unflagged : test.caseFlag? = none) : test.reflag flag = test := by
  cases test with
  | regexp pattern ignoreCase strict => cases unflagged
  | _ => rfl

namespace Query

mutual

/-- The tree with other case flags at the tests that came from pattern literals. -/
def reflag (flag : Bool → Bool) : Query → Query
  | .matchAll => .matchAll
  | .group connective members => .group connective (reflagAll flag members)
  | .leaf predicate => .leaf { predicate with test := predicate.test.reflag flag }

/-- The queries of a group with other case flags, in order. -/
def reflagAll (flag : Bool → Bool) : List Query → List Query
  | [] => []
  | query :: rest => query.reflag flag :: reflagAll flag rest

end

variable (flag : Bool → Bool)

/-- The members of a group change one by one. -/
@[simp] theorem reflagAll_eq_map (queries : List Query) :
    reflagAll flag queries = queries.map (reflag flag) := by
  induction queries with
  | nil => rfl
  | cons query rest inductionHypothesis => rw [reflagAll, inductionHypothesis, List.map_cons]

/-- A group keeps its connective. -/
@[simp] theorem reflag_group (connective : Connective) (members : List Query) :
    (group connective members).reflag flag = .group connective (members.map (reflag flag)) := by
  rw [reflag, reflagAll_eq_map]

/-- A single test changes in its flag alone. -/
@[simp] theorem reflag_test (field : String) (test : Test) :
    (Query.test field test).reflag flag = Query.test field (test.reflag flag) := rfl

/-- The negation of a query does not depend on case flags, so it may be taken before or after they
are changed. -/
@[simp] theorem reflag_negate (query : Query) :
    query.negate.reflag flag = (query.reflag flag).negate := by
  cases query with
  | matchAll => rfl
  | group connective members => simp [negate]
  | leaf predicate =>
    obtain ⟨field, negated, test⟩ := predicate
    cases negated <;> rfl

/-- Putting queries together does not depend on case flags. -/
@[simp] theorem reflag_allOf (queries : List Query) :
    (allOf queries).reflag flag = allOf (queries.map (reflag flag)) := by
  unfold allOf
  split
  · rfl
  · rename_i several
    rw [reflag_group]
    split
    · rename_i query single
      obtain ⟨given, rfl, -⟩ := List.map_eq_singleton_iff.mp single
      exact absurd rfl (several given)
    · rfl

mutual

/-- A tree stays as it is if each test with a case flag does. -/
theorem reflag_eq_of_matchers :
    (query : Query) → (∀ matcher ∈ matchers [query], matcher.2.reflag flag = matcher.2) →
      query.reflag flag = query
  | .matchAll, _ => rfl
  | .group connective members, unchanged => by
    rw [matchers_group] at unchanged
    rw [reflag_group, map_reflag_eq_of_matchers members unchanged]
  | .leaf predicate, unchanged => by
    have same : predicate.test.reflag flag = predicate.test := by
      cases flagged : predicate.test.caseFlag? with
      | none => exact Test.reflag_of_unflagged flag predicate.test flagged
      | some ignoreCase =>
        refine unchanged (predicate.field, predicate.test) ?_
        rw [matchers_leaf, Predicate.matcher?, flagged]
        exact List.mem_singleton_self _
    rw [reflag, same]

/-- Queries stay as they are if the change keeps every flag that occurs in them. -/
theorem map_reflag_eq_of_matchers :
    (queries : List Query) → (∀ matcher ∈ matchers queries, matcher.2.reflag flag = matcher.2) →
      queries.map (reflag flag) = queries
  | [], _ => rfl
  | query :: rest, unchanged => by
    rw [matchers_cons, List.forall_mem_append] at unchanged
    rw [List.map_cons, reflag_eq_of_matchers query unchanged.1,
      map_reflag_eq_of_matchers rest unchanged.2]

end

/-- Flags that are replaced by themselves change nothing. -/
@[simp] theorem reflag_id (query : Query) : query.reflag id = query := by
  refine reflag_eq_of_matchers id query fun matcher _ => ?_
  obtain ⟨field, test⟩ := matcher
  cases test with
  | regexp pattern ignoreCase strict => cases strict <;> rfl
  | _ => rfl

end Query

/-- The operators for patterns lead to no test from a pattern literal. -/
theorem Demand.reflag_of_mem_matchers (flag : Bool → Bool) (capabilities : Capabilities)
    (field : String) (entries : List (Operator × Value)) (op : Operator) (value : Value)
    (matcher : String × Test)
    (member : matcher ∈ (operator field entries op value).matchers capabilities) :
    matcher.2.reflag flag = matcher.2 := by
  obtain ⟨pattern, same | same⟩ :=
    exists_of_mem_matchers_operator capabilities field entries op value matcher member
  · rw [same]
    rfl
  · rw [same]
    rfl

namespace Resolve

open Diagnosed (Tracks)

variable (flag : Bool → Bool)

/-! ### Arranging contributions -/

/-- The contribution with other case flags. A bound has none. -/
def Contribution.reflag : Contribution → Contribution
  | .bound side limit => .bound side limit
  | .queries added => .queries (added.map (Query.reflag flag))

/-- The queries arranged so far with other case flags. -/
def Progress.reflag (progress : Progress) : Progress :=
  ⟨progress.settled.map (Query.reflag flag), progress.openRange,
    progress.later.map (Query.reflag flag)⟩

/-- Other case flags leave the queries of a progress in their places. The open range has none. -/
theorem queries_reflag (field : String) (progress : Progress) :
    (progress.reflag flag).queries field = (progress.queries field).map (Query.reflag flag) := by
  obtain ⟨settled, openRange, later⟩ := progress
  cases openRange <;> simp [Progress.reflag, Progress.queries, Test.reflag]

/-- Placing a contribution does not look at case flags. -/
theorem add_reflag (field : String) (progress : Progress) (contribution : Contribution) :
    (progress.reflag flag).add field (contribution.reflag flag) =
      (progress.add field contribution).reflag flag := by
  cases contribution with
  | queries added => simp [Contribution.reflag, Progress.add, Progress.append, Progress.reflag]
  | bound side bound =>
    simp only [Contribution.reflag, Progress.add, Progress.bound, queries_reflag]
    cases filled : progress.openRange.bind (fill? side bound) <;>
      simp [Progress.reflag, filled]

/-- Contributions are arranged in the same way whatever their case flags are. -/
theorem arranged_reflag (field : String) (contributions : List Contribution)
    (progress : Progress) :
    (contributions.map (Contribution.reflag flag)).foldl (Progress.add field)
        (progress.reflag flag) =
      (contributions.foldl (Progress.add field) progress).reflag flag := by
  induction contributions generalizing progress with
  | nil => rfl
  | cons contribution rest inductionHypothesis =>
    rw [List.map_cons, List.foldl_cons, List.foldl_cons, add_reflag, inductionHypothesis]

/-! ### Resolving for two engines -/

section Engines

variable (fields : FieldContext) (capabilities other : Capabilities) (limit : Nat)
  (field : String)

/-- Whether the second engine can do as much with case as the first one, and the case flags of the
first one are made from those of the second by a change. -/
structure Reflags : Prop where
  knows : capabilities.has .caseInsensitiveMatch = true →
    other.has .caseInsensitiveMatch = true
  flags : ∀ ignoreCase, (ignoreCase && capabilities.has .caseInsensitiveMatch) =
    flag (ignoreCase && other.has .caseInsensitiveMatch)

variable (reflags : Reflags flag capabilities other)
include reflags

/-- An engine that can do at least as much accepts the same patterns with wildcards, with the same
result. -/
theorem like_persists (text : String) (ignoreCase : Bool) :
    Check.Persists (like capabilities text ignoreCase) (like other text ignoreCase) := by
  unfold like
  cases ignoreCase with
  | false => exact Check.Persists.refl _
  | true =>
    cases able : capabilities.has .caseInsensitiveMatch with
    | false => exact Check.Persists.of_error _ _
    | true =>
      rw [reflags.knows able]
      exact Check.Persists.refl _

/-- The other engine builds the same queries for an operator without operands inside. -/
theorem simpleEntry_alike (entries : List (Operator × Value)) (op : Operator) (value : Value) :
    Tracks id (simpleEntry ⟨fields, capabilities, limit⟩ field entries op value)
      (simpleEntry ⟨fields, other, limit⟩ field entries op value) := by
  cases op with
  | like | likeAnyCase =>
    intro queries warnings done
    exact ⟨queries, warnings, Diagnosed.Persists.lift _ _
      (.bind _ _ _ _ (.refl _) fun text =>
        .bind _ _ _ _ (like_persists flag capabilities other reflags text _) fun _ => .refl _)
      queries warnings done, rfl⟩
  | geoPolygon =>
    have polygon : Tracks id (inPolygon capabilities field value) (inPolygon other field value) :=
      .bind (.of_unchanged _ fun _ _ _ => rfl) fun points => .of_done _ _ _ _ rfl
    exact polygon.bind fun test => .of_done _ _ _ _ rfl
  | _ => exact .of_unchanged _ fun _ _ _ => rfl

/-- Of the operators whose operands are not resolved in their turn, only the one with wildcards and
without case asks the engine for anything, and none of them gives a flag that depends on it. -/
theorem simpleEntry_tracks (entries : List (Operator × Value)) (op : Operator) (value : Value)
    (noBound : sideOf? op = none) (noEqual : op ≠ .equal) (noNegation : op ≠ .negation) :
    Tracks (List.map (Query.reflag flag))
      (simpleEntry ⟨fields, capabilities, limit⟩ field entries op value)
      (simpleEntry ⟨fields, other, limit⟩ field entries op value) := by
  intro queries warnings done
  obtain ⟨given, raised, otherDone, same⟩ :=
    simpleEntry_alike flag fields capabilities other limit field reflags entries op value _ _ done
  obtain rfl : queries = given := same
  refine ⟨queries, raised, otherDone, (Query.map_reflag_eq_of_matchers flag _ ?_).symm⟩
  rw [(simpleEntry_form noBound noEqual noNegation otherDone).outcome.1]
  exact Demand.reflag_of_mem_matchers flag other field entries op value

/-- Only a pattern literal gets its flag from the engine. The other operands resolve alike. -/
theorem plainOperand_tracks (shape : Operand) :
    Tracks (List.map (Query.reflag flag))
      (plainOperand ⟨fields, capabilities, limit⟩ field shape)
      (plainOperand ⟨fields, other, limit⟩ field shape) := by
  cases shape with
  | pattern literal =>
    have replaced : literal.test capabilities = (literal.test other).reflag flag := by
      rw [Pattern.test, Pattern.test, Test.reflag, reflags.flags]
    rw [plainOperand, plainOperand, patternLiteral_eq, patternLiteral_eq, replaced]
    exact (Tracks.of_done _ _ _ _ rfl).bind fun _ => .of_done _ _ _ _ rfl
  | ops entries => exact .of_done _ _ _ _ rfl
  | _ =>
    refine .of_unchanged _ fun queries warnings done => Query.map_reflag_eq_of_matchers flag _ ?_
    rw [(plainOperand_form (by simp) done).outcome.1]
    exact fun _ member => absurd member List.not_mem_nil

/-! ### Operands -/

variable (enter otherEnter : Operand → Diagnosed (List Query))
  (entering : ∀ shape, Tracks (List.map (Query.reflag flag)) (enter shape) (otherEnter shape))
include entering

omit reflags

/-- An equality follows what is entered. -/
theorem equality_tracks (value : Value) :
    Tracks (List.map (Query.reflag flag)) (equality enter field value)
      (equality otherEnter field value) := by
  obtain ⟨error, refused⟩ | ⟨shape, rfl⟩ := Operand.refused_or_shaped field value
  · rw [equality_of_error _ field value error refused]
    exact .of_failed _ _
  · rw [equality_toValue, equality_toValue]
    cases shape with
    | ops inner => exact .of_failed _ _
    | _ => exact entering _

/-- A negation follows what is entered, since negating does not look at case flags. -/
theorem negation_tracks (value : Value) :
    Tracks (Query.reflag flag) (negation enter field value) (negation otherEnter field value) := by
  obtain ⟨error, refused⟩ | ⟨shape, rfl⟩ := Operand.refused_or_shaped field value
  · rw [negation_of_error _ field value error refused]
    exact .of_failed _ _
  · rw [negation_toValue, negation_toValue]
    -- The forms of their own have no case flag.
    cases shape with
    | null => exact .of_done _ _ _ _ rfl
    | scalar literal =>
      refine .of_unchanged _ fun query warnings done => ?_
      obtain ⟨test, built, rfl, -⟩ := (Diagnosed.lift_bind_pure_eq_done_iff _ _ _ _).mp done
      rw [term_eq_ok _ _ _ built]
      rfl
    | list items =>
      refine .of_unchanged _ fun query warnings done => ?_
      obtain ⟨built, -⟩ := (Diagnosed.lift_eq_done_iff _ _ _).mp done
      refine Query.reflag_eq_of_matchers flag query ?_
      rw [(equalsNone_form built).2.matchers]
      exact fun _ member => absurd member List.not_mem_nil
    | _ =>
      exact (entering _).map fun queries => by simp only [Query.reflag_negate, Query.reflag_allOf]

include reflags

/-- What an entry contributes differs in case flags alone. -/
theorem contribution_tracks (entries : List (Operator × Value)) (entry : Operator × Value) :
    Tracks (Contribution.reflag flag)
      (contribution ⟨fields, capabilities, limit⟩ enter field entries entry)
      (contribution ⟨fields, other, limit⟩ otherEnter field entries entry) := by
  obtain ⟨op, value⟩ := entry
  have placed : Tracks id
      (Diagnosed.lift (placeCheck ⟨fields, capabilities, limit⟩ field op))
      (Diagnosed.lift (placeCheck ⟨fields, other, limit⟩ field op)) :=
    .of_unchanged _ fun _ _ _ => rfl
  refine placed.bind fun _ => ?_
  unfold contributed
  dsimp only
  split
  · have bounded : Tracks id (Diagnosed.lift (boundOperand field op value))
        (Diagnosed.lift (boundOperand field op value)) := .of_unchanged _ fun _ _ _ => rfl
    exact bounded.bind fun _ => .of_done _ _ _ _ rfl
  · rename_i noBound
    split
    · have equal := equality_tracks flag field enter otherEnter entering value
      exact equal.bind fun _ => .of_done _ _ _ _ rfl
    · have negated := negation_tracks flag field enter otherEnter entering value
      exact negated.bind fun _ => .of_done _ _ _ _ rfl
    · rename_i noEqual noNegation
      have simple := simpleEntry_tracks flag fields capabilities other limit field reflags entries op
        value noBound noEqual noNegation
      exact simple.bind fun _ => .of_done _ _ _ _ rfl

/-- The queries of an operand differ in case flags alone if those of the operands inside it do. -/
theorem operandWith_tracks (shape : Operand) :
    Tracks (List.map (Query.reflag flag))
      (operandWith ⟨fields, capabilities, limit⟩ enter field shape)
      (operandWith ⟨fields, other, limit⟩ otherEnter field shape) := by
  have plain :=
    plainOperand_tracks flag fields capabilities other limit field reflags shape
  cases shape with
  | ops entries =>
    rw [operandWith, operandWith, takeUpAll_eq, takeUpAll_eq]
    have contributions := Tracks.mapM entries fun entry => contribution_tracks flag fields
      capabilities other limit field reflags enter otherEnter entering entries entry
    have taken := contributions.map fun given => arranged_reflag flag field given .start
    exact taken.bind fun progress => .of_done _ _ _ _ (queries_reflag flag field progress)
  | _ => exact plain

omit entering in
/-- An operand that is resolved for one engine is resolved for the other one. The induction is on
the levels that may still be entered. -/
theorem operand_tracks (levels : Nat) (shape : Operand) :
    Tracks (List.map (Query.reflag flag))
      (operand ⟨fields, capabilities, limit⟩ field levels shape)
      (operand ⟨fields, other, limit⟩ field levels shape) := by
  induction levels generalizing shape with
  | zero =>
    exact operandWith_tracks flag fields capabilities other limit field reflags _ _
      (fun _ => .of_failed _ _) shape
  | succ levels inductionHypothesis =>
    exact operandWith_tracks flag fields capabilities other limit field reflags _ _
      inductionHypothesis shape

end Engines

end Resolve

namespace Where

open Diagnosed (Tracks)
open Resolve (Reflags)

variable (flag : Bool → Bool) (fields : FieldContext) (capabilities other : Capabilities)
  (limit : Nat)

mutual

/-- What is built for one engine is built for the other one, with case flags replaced. -/
theorem query_tracks (reflags : Reflags flag capabilities other) (depth : Nat) :
    (clauses : List Clause) →
      Tracks (Query.reflag flag) (query ⟨fields, capabilities, limit⟩ depth clauses)
        (query ⟨fields, other, limit⟩ depth clauses)
  | [] => by
    rw [query, query]
    exact .of_done _ _ _ _ rfl
  | clause :: rest => by
    rw [query, query]
    exact (clauseQueries_tracks reflags depth clause).bind fun first =>
      (clausesQueries_tracks reflags depth rest).bind fun others => .of_done _ _ _ _ (by simp)

/-- The queries of a clause differ in case flags alone. -/
theorem clauseQueries_tracks (reflags : Reflags flag capabilities other) (depth : Nat) :
    (clause : Clause) →
      Tracks (List.map (Query.reflag flag))
        (clauseQueries ⟨fields, capabilities, limit⟩ depth clause)
        (clauseQueries ⟨fields, other, limit⟩ depth clause)
  | .group connective members => by
    rw [clauseQueries, clauseQueries]
    exact (queries_tracks reflags (depth + 1) members).bind fun inner => .of_done _ _ _ _ (by simp)
  | .field path shape => by
    rw [clauseQueries, clauseQueries]
    exact Resolve.operand_tracks flag fields capabilities other limit path reflags _ shape

/-- The queries of clauses in sequence differ in case flags alone. -/
theorem clausesQueries_tracks (reflags : Reflags flag capabilities other) (depth : Nat) :
    (clauses : List Clause) →
      Tracks (List.map (Query.reflag flag))
        (clausesQueries ⟨fields, capabilities, limit⟩ depth clauses)
        (clausesQueries ⟨fields, other, limit⟩ depth clauses)
  | [] => by
    rw [clausesQueries, clausesQueries]
    exact .of_done _ _ _ _ rfl
  | clause :: rest => by
    rw [clausesQueries, clausesQueries]
    exact (clauseQueries_tracks reflags depth clause).bind fun first =>
      (clausesQueries_tracks reflags depth rest).bind fun others => .of_done _ _ _ _ (by simp)

/-- The members of a group differ in case flags alone. -/
theorem queries_tracks (reflags : Reflags flag capabilities other) (depth : Nat) :
    (members : List (List Clause)) →
      Tracks (List.map (Query.reflag flag))
        (queries ⟨fields, capabilities, limit⟩ depth members)
        (queries ⟨fields, other, limit⟩ depth members)
  | [] => by
    rw [queries, queries]
    exact .of_done _ _ _ _ rfl
  | member :: rest => by
    rw [queries, queries]
    exact (query_tracks reflags depth member).bind fun first =>
      (queries_tracks reflags depth rest).bind fun others => .of_done _ _ _ _ rfl

end

end Where

/-- What compiles for one engine compiles for another one that can do as much with case, to the tree
with the case flags of that engine. -/
theorem compile_tracks (flag : Bool → Bool) (spec : FilterSpec) (fields : FieldContext)
    (capabilities other : Capabilities) (limit : Nat)
    (reflags : Resolve.Reflags flag capabilities other) (compiled : CompiledQuery)
    (compiles : compile spec fields capabilities limit = .ok compiled) :
    ∃ given, compile spec fields other limit = .ok given ∧
      compiled.root = given.root.reflag flag := by
  obtain ⟨clauses, read, built⟩ := (compile_eq_ok_iff _ _ _ _ _).mp compiles
  obtain ⟨root, warnings, otherBuilt, same⟩ :=
    Where.query_tracks flag fields capabilities other limit reflags 0 clauses _ _ built
  exact ⟨⟨root, warnings⟩, (compile_eq_ok_iff _ _ _ _ _).mpr ⟨clauses, read, otherBuilt⟩, same⟩

end SearchFilter
