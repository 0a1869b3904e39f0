import SearchFilter.Proofs.Contributions

/-!
# The leaves of query trees

The predicates of a tree in order, and among them those whose test has a case flag. Groups and
negations neither drop nor reorder predicates. The bounds of an operator map are merged into ranges,
which have no case flag, so that the tests with one stay in the order of the entries.
-/

namespace SearchFilter

/-- Whether a test ignores case, for the tests that may. -/
def Test.caseFlag? : Test → Option Bool
  | .wildcard _ ignoreCase => some ignoreCase
  | .regexp _ ignoreCase _ => some ignoreCase
  | _ => none

/-- The field and the test of a predicate, if the test has a case flag. -/
def Predicate.matcher? (predicate : Predicate) : Option (String × Test) :=
  predicate.test.caseFlag?.map fun _ => (predicate.field, predicate.test)

namespace Query

mutual

/-- The predicates of a tree in order. -/
def leaves : Query → List Predicate
  | .matchAll => []
  | .group _ members => leavesOfAll members
  | .leaf predicate => [predicate]

/-- The predicates of several queries, in order. -/
def leavesOfAll : List Query → List Predicate
  | [] => []
  | query :: rest => query.leaves ++ leavesOfAll rest

end

/-- The tests with a case flag in order, each with its field. -/
def matchers (queries : List Query) : List (String × Test) :=
  (leavesOfAll queries).filterMap Predicate.matcher?

/-- The predicates of queries put together are put together. -/
@[simp] theorem leavesOfAll_append (queries others : List Query) :
    leavesOfAll (queries ++ others) = leavesOfAll queries ++ leavesOfAll others := by
  induction queries with
  | nil => rfl
  | cons query rest inductionHypothesis =>
    simp only [List.cons_append, leavesOfAll, inductionHypothesis, List.append_assoc]

/-- The tests with a case flag of queries put together are put together. -/
@[simp] theorem matchers_append (queries others : List Query) :
    matchers (queries ++ others) = matchers queries ++ matchers others := by
  simp only [matchers, leavesOfAll_append, List.filterMap_append]

/-- The tests of the first query come first. -/
theorem matchers_cons (query : Query) (rest : List Query) :
    matchers (query :: rest) = matchers [query] ++ matchers rest :=
  matchers_append [query] rest

/-- A group has the tests of its members, whatever its connective is. -/
@[simp] theorem matchers_group (connective : Connective) (members : List Query) :
    matchers [.group connective members] = matchers members := by
  simp only [matchers, leavesOfAll, leaves, List.append_nil]

/-- A predicate has its own test, if that has a case flag. -/
@[simp] theorem matchers_leaf (predicate : Predicate) :
    matchers [.leaf predicate] = predicate.matcher?.toList := by
  cases found : predicate.matcher? <;> simp [matchers, leavesOfAll, leaves, found]

/-- Negating a query keeps its tests, with a group around it or without. -/
@[simp] theorem matchers_negate (query : Query) : matchers [query.negate] = matchers [query] := by
  cases query with
  | matchAll => rfl
  | group connective members => exact matchers_group _ _
  | leaf predicate =>
    by_cases negated : predicate.negated = true
    · simp only [negate, negated, if_true, matchers_group]
    · simp only [negate, negated, matchers_leaf]
      rfl

/-- Putting queries together keeps their tests in order. -/
@[simp] theorem matchers_allOf (queries : List Query) :
    matchers [allOf queries] = matchers queries := by
  unfold allOf
  split
  · rfl
  · exact matchers_group _ _

end Query

namespace Resolve

/-- The tests with a case flag among contributed queries. A bound has none. -/
def Contribution.matchers : Contribution → List (String × Test)
  | .bound _ _ => []
  | .queries added => Query.matchers added

/-- The open range has no case flag. -/
theorem matchers_queries (field : String) (progress : Progress) :
    Query.matchers (progress.queries field) =
      Query.matchers progress.settled ++ Query.matchers progress.later := by
  unfold Progress.queries
  split
  · exact Query.matchers_append _ _
  · rw [Query.matchers_append, Query.matchers_cons]
    rfl

/-- Arranged contributions have their tests with a case flag in order, after those that were there
before. The induction is on the contributions. -/
theorem matchers_arranged (field : String) (contributions : List Contribution)
    (progress : Progress) :
    Query.matchers ((contributions.foldl (Progress.add field) progress).queries field) =
      Query.matchers (progress.queries field) ++ contributions.flatMap Contribution.matchers := by
  induction contributions generalizing progress with
  | nil => simp
  | cons contribution rest inductionHypothesis =>
    rw [List.foldl_cons, inductionHypothesis, List.flatMap_cons, ← List.append_assoc]
    congr 1
    cases contribution with
    | queries added =>
      simp only [Progress.add, Progress.append, matchers_queries, Query.matchers_append,
        Contribution.matchers, List.append_assoc]
    | bound side bound =>
      simp only [Progress.add, Progress.bound, Contribution.matchers, List.append_nil]
      split
      · simp only [matchers_queries]
      · rw [matchers_queries]
        exact List.append_nil _

end Resolve

end SearchFilter
