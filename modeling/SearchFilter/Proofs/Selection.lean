import SearchFilter.Matching

/-!
# Laws of selection

Groups select what all, some or none of their members select, and the operations that build queries
act on the selected documents as their names say: a negation complements them, whichever form it
takes, and a conjunction of a single query is that query.
-/

namespace SearchFilter.Query

/-- All members are asked one by one. -/
@[simp] theorem selectedByAll_eq_all (members : List Query) (document : Json) :
    selectedByAll members document = members.all fun member => member.selects document := by
  induction members with
  | nil => rfl
  | cons member members inductionHypothesis =>
    simp only [selectedByAll, inductionHypothesis, List.all_cons]

/-- The members are asked one by one for one that selects. -/
@[simp] theorem selectedByAny_eq_any (members : List Query) (document : Json) :
    selectedByAny members document = members.any fun member => member.selects document := by
  induction members with
  | nil => rfl
  | cons member members inductionHypothesis =>
    simp only [selectedByAny, inductionHypothesis, List.any_cons]

/-- A conjunction selects what all of its members select, and everything if it has none. -/
@[simp] theorem selects_and (members : List Query) (document : Json) :
    (group .and members).selects document = members.all fun member => member.selects document := by
  rw [selects, selectedByAll_eq_all]

/-- A disjunction selects what one of its members selects, and nothing if it has none. -/
@[simp] theorem selects_or (members : List Query) (document : Json) :
    (group .or members).selects document = members.any fun member => member.selects document := by
  rw [selects, selectedByAny_eq_any]

/-- A negation selects what none of its members selects. -/
@[simp] theorem selects_not (members : List Query) (document : Json) :
    (group .not members).selects document =
      !members.any fun member => member.selects document := by
  rw [selects, selectedByAny_eq_any]

/-- A test that is not on places holds of the values of its field. -/
theorem selects_test (field : String) (test : Test) (document : Json)
    (onValues : test.isOnPlaces = false) :
    (Query.test field test).selects document =
      test.holds (document.leaves (Path.segments field)) := by
  simp [Query.test, selects, Predicate.selects, Predicate.hits, Predicate.of, onValues]

/-- A test on places holds of the places of its field. -/
theorem selects_test_places (field : String) (test : Test) (document : Json)
    (onPlaces : test.isOnPlaces = true) :
    (Query.test field test).selects document =
      Geo.holds test (document.places (Path.segments field)) := by
  simp [Query.test, selects, Predicate.selects, Predicate.hits, Predicate.of, onPlaces]

/-- Flipping a predicate complements the documents that it selects. -/
theorem selects_flip (predicate : Predicate) (document : Json) :
    (leaf predicate.flip).selects document = !(leaf predicate).selects document := by
  have hit : predicate.flip.hits document = predicate.hits document := rfl
  have flag : predicate.flip.negated = !predicate.negated := rfl
  simp only [selects, Predicate.selects, hit, flag]
  cases predicate.hits document <;> cases predicate.negated <;> rfl

/-- A failed test selects the complement of the test. -/
theorem selects_testNot (field : String) (test : Test) (document : Json) :
    (Query.testNot field test).selects document = !(Query.test field test).selects document :=
  selects_flip (.of field test) document

/-- Negation selects the complement, by the flag of a plain leaf as well as by a group around
anything else. -/
theorem selects_negate (query : Query) (document : Json) :
    query.negate.selects document = !query.selects document := by
  cases query with
  | matchAll => simp [negate]
  | group connective members => simp [negate]
  | leaf predicate =>
    by_cases negated : predicate.negated = true
    · simp [negate, negated]
    · simp only [negate, negated]
      exact selects_flip predicate document

/-- All queries together select what every one of them selects, with a group around them or not. -/
theorem selects_allOf (queries : List Query) (document : Json) :
    (allOf queries).selects document = queries.all fun query => query.selects document := by
  unfold allOf
  split
  · simp
  · exact selects_and _ document

end SearchFilter.Query
