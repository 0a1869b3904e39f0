import SearchFilter.Proofs.BodyReading
import SearchFilter.Proofs.PairedBounds

/-!
# Rendered bodies mean what their queries select

A query is rendered and evaluated by two recursions that know nothing of each other. Here the body
is read back and found to say of every document what the evaluator says. Two things have to be kept
out: a number without a spelling in a document, which would be rendered as null, and a distance test
on a field whose name is that of the distance itself, whose two entries would become one.
-/

namespace SearchFilter

/-! ### What can be rendered -/

/-- The floating-point number of a literal, if it is one. -/
def Scalar.floats : Scalar → List Binary64
  | .float value => [value]
  | _ => []

/-- Both parts of a point. -/
def GeoPoint.floats (point : GeoPoint) : List Binary64 := [point.lat, point.lon]

mutual

/-- The parts of all points in coordinates. -/
def Coordinates.floats : Coordinates → List Binary64
  | .point value => value.floats
  | .list items => Coordinates.allFloats items

/-- The parts of all points in nested coordinates. -/
def Coordinates.allFloats : List Coordinates → List Binary64
  | [] => []
  | item :: rest => item.floats ++ Coordinates.allFloats rest

end

/-- The floating-point number of a bound, if its literal is one. -/
def Bound.floats (bound : Bound) : List Binary64 := bound.scalar?.toList.flatMap Scalar.floats

/-- The floating-point numbers in a test. -/
def Test.floats : Test → List Binary64
  | .term value => value.floats
  | .termSet _ values => values.flatMap Scalar.floats
  | .range interval => interval.lower.floats ++ interval.upper.floats
  | .geoDistance center _ => center.floats
  | .geoBoundingBox topLeft bottomRight => topLeft.floats ++ bottomRight.floats
  | .geoPolygon points => points.flatMap GeoPoint.floats
  | .geoShape shape _ => shape.coordinates.floats
  | .present | .startsWith _ | .wildcard _ _ | .regexp _ _ _ => []

/-- Whether all numbers of a predicate have a spelling and its field does not take the place of a
distance. -/
def Predicate.isRenderable (predicate : Predicate) : Bool :=
  predicate.test.floats.all Binary64.isFinite &&
    match predicate.test with
    | .geoDistance _ _ => predicate.field ≠ "distance"
    | _ => true

namespace Query

mutual

/-- The predicates at the leaves of a query. -/
def predicates : Query → List Predicate
  | .matchAll => []
  | .group _ members => allPredicates members
  | .leaf predicate => [predicate]

/-- The predicates of several queries, in order. -/
def allPredicates : List Query → List Predicate
  | [] => []
  | query :: rest => query.predicates ++ allPredicates rest

end

/-- Whether all predicates of a tree have a body that says what they do. -/
def isRenderable (query : Query) : Bool := query.predicates.all Predicate.isRenderable

end Query

/-- What is read back one by one is read back in a row. -/
theorem mapM_map_eq_some {α β : Type} (render : α → β) (read : β → Option α) (values : List α)
    (each : ∀ value ∈ values, read (render value) = some value) :
    (values.map render).mapM read = some values := by
  induction values with
  | nil => rfl
  | cons value rest inductionHypothesis =>
    obtain ⟨here, later⟩ := List.forall_mem_cons.mp each
    simp [List.mapM_cons, here, inductionHypothesis later]

namespace Dsl

/-! ### Parameters are read back -/

/-- A literal in a body is read back as itself if it is no number without a spelling. -/
theorem literal?_toJson (value : Scalar) (finite : value.floats.all Binary64.isFinite = true) :
    literal? value.toJson = some value := by
  cases value with
  | float number =>
    have spelled : number.isFinite = true := by simpa [Scalar.floats] using finite
    simp [Scalar.toJson, Json.real, spelled, literal?]
  | _ => rfl

/-- What is read back one by one is read back from an array. -/
theorem mapM_rendered {α : Type} (render : α → Json) (read : Json → Option α)
    (floats : α → List Binary64)
    (each : ∀ value, (floats value).all Binary64.isFinite = true → read (render value) = some value)
    (values : List α) (finite : (values.flatMap floats).all Binary64.isFinite = true) :
    (values.map render).mapM read = some values := by
  rw [List.all_flatMap, List.all_eq_true] at finite
  exact mapM_map_eq_some render read values fun value member => each value (finite value member)

/-- A point in a body is read back as itself if its parts are finite. -/
theorem point?_body (point : GeoPoint) (finite : point.floats.all Binary64.isFinite = true) :
    point? point.body = some point := by
  obtain ⟨lat, lon⟩ := point
  have spelled : lat.isFinite = true ∧ lon.isFinite = true := by
    simpa [GeoPoint.floats] using finite
  simp [point?, GeoPoint.body, Json.member?, Entries.find?, Json.real, spelled.1, spelled.2,
    Json.binary64?, Number.toBinary64]

mutual

/-- Coordinates are read back from their arrays. No member of a list of coordinates is rendered as a
number, so a list of two is not taken for a point. -/
theorem coordinates?_body : (coordinates : Coordinates) →
    coordinates.floats.all Binary64.isFinite = true →
      coordinates? coordinates.body = some coordinates
  | .point ⟨lat, lon⟩, finite => by
    have spelled : lat.isFinite = true ∧ lon.isFinite = true := by
      simpa [Coordinates.floats, GeoPoint.floats] using finite
    simp [Coordinates.body, Json.real, spelled.1, spelled.2, coordinates?, Number.toBinary64]
  | .list items, finite => by
    rw [Coordinates.floats] at finite
    have read := allCoordinates?_bodies items finite
    have nests : coordinates? (.array (Coordinates.bodies items)) =
        (allCoordinates? (Coordinates.bodies items)).map .list := by
      rw [coordinates?]
      intro lon lat pair
      match items with
      | [] => cases pair
      | .point _ :: _ => simp [Coordinates.bodies, Coordinates.body] at pair
      | .list _ :: _ => simp [Coordinates.bodies, Coordinates.body] at pair
    rw [Coordinates.body, nests, read, Option.map_some]

/-- Nested coordinates in a body are read back one by one. -/
theorem allCoordinates?_bodies : (items : List Coordinates) →
    (Coordinates.allFloats items).all Binary64.isFinite = true →
      allCoordinates? (Coordinates.bodies items) = some items
  | [], _ => rfl
  | item :: rest, finite => by
    rw [Coordinates.allFloats, List.all_append, Bool.and_eq_true] at finite
    simp [Coordinates.bodies, allCoordinates?, coordinates?_body item finite.1,
      allCoordinates?_bodies rest finite.2]

end

/-- A shape in a body is read back as itself, without a radius too. -/
theorem shape?_body (shape : GeoShape)
    (finite : shape.coordinates.floats.all Binary64.isFinite = true) :
    shape? shape.body = some shape := by
  obtain ⟨kind, coordinates, radius⟩ := shape
  have read := coordinates?_body coordinates finite
  cases radius <;>
    simp [shape?, GeoShape.body, Json.member?, Entries.find?, Json.string?, read]

/-- The entry for a bound in the body of a range is read back as that bound. -/
theorem edge?_entry (op : Operator) (value : Scalar)
    (finite : value.floats.all Binary64.isFinite = true) :
    edge? (op.name, value.toJson) = Edge.of? op value := by
  simp [edge?, Operator.ofCanonicalName?_name, literal?_toJson value finite]

/-- The literal of a finite bound is finite. -/
theorem floats_of_scalar? (bound : Bound) (literal : Scalar) (ends : bound.scalar? = some literal)
    (finite : bound.floats.all Binary64.isFinite = true) :
    literal.floats.all Binary64.isFinite = true := by
  simpa [Bound.floats, ends] using finite

/-- The entry of a lower bound is read back as that bound. -/
theorem lowerEdges_bodyEntries (lower : Bound)
    (finite : lower.floats.all Binary64.isFinite = true) :
    ∃ edges, (Interval.bodyEntries ⟨lower, .unbounded⟩).mapM edge? = some edges ∧
      ∀ value, (edges.all fun edge => edge.admits value) = lower.isBelow value := by
  cases lower with
  | unbounded => exact ⟨[], rfl, fun value => rfl⟩
  | included literal =>
    have read : edge? ("gte", literal.toJson) = some ⟨.lower, false, literal⟩ :=
      edge?_entry .greaterOrEqual literal (floats_of_scalar? _ literal rfl finite)
    exact ⟨[⟨.lower, false, literal⟩], by simp [Interval.bodyEntries, List.mapM_cons, read],
      fun value => by simp [Edge.admits, Bound.isBelow]⟩
  | excluded literal =>
    have read : edge? ("gt", literal.toJson) = some ⟨.lower, true, literal⟩ :=
      edge?_entry .greater literal (floats_of_scalar? _ literal rfl finite)
    exact ⟨[⟨.lower, true, literal⟩], by simp [Interval.bodyEntries, List.mapM_cons, read],
      fun value => by simp [Edge.admits, Bound.isBelow]⟩

/-- The entry of an upper bound is read back as that bound. -/
theorem upperEdges_bodyEntries (upper : Bound)
    (finite : upper.floats.all Binary64.isFinite = true) :
    ∃ edges, (Interval.bodyEntries ⟨.unbounded, upper⟩).mapM edge? = some edges ∧
      ∀ value, (edges.all fun edge => edge.admits value) = upper.isAbove value := by
  cases upper with
  | unbounded => exact ⟨[], rfl, fun value => rfl⟩
  | included literal =>
    have read : edge? ("lte", literal.toJson) = some ⟨.upper, false, literal⟩ :=
      edge?_entry .lessOrEqual literal (floats_of_scalar? _ literal rfl finite)
    exact ⟨[⟨.upper, false, literal⟩], by simp [Interval.bodyEntries, List.mapM_cons, read],
      fun value => by simp [Edge.admits, Bound.isAbove]⟩
  | excluded literal =>
    have read : edge? ("lt", literal.toJson) = some ⟨.upper, true, literal⟩ :=
      edge?_entry .less literal (floats_of_scalar? _ literal rfl finite)
    exact ⟨[⟨.upper, true, literal⟩], by simp [Interval.bodyEntries, List.mapM_cons, read],
      fun value => by simp [Edge.admits, Bound.isAbove]⟩

/-- The bounds of a range body are read back, and a value satisfies all of them exactly when it lies
between the ends of the range. -/
theorem edges_bodyEntries (interval : Interval)
    (finite : (interval.lower.floats ++ interval.upper.floats).all Binary64.isFinite = true) :
    ∃ edges, interval.bodyEntries.mapM edge? = some edges ∧
      ∀ value, (edges.all fun edge => edge.admits value) = interval.contains value := by
  obtain ⟨lower, upper⟩ := interval
  rw [List.all_append, Bool.and_eq_true] at finite
  obtain ⟨lowerEdges, lowerRead, isBelow⟩ := lowerEdges_bodyEntries lower finite.1
  obtain ⟨upperEdges, upperRead, isAbove⟩ := upperEdges_bodyEntries upper finite.2
  have parts : Interval.bodyEntries ⟨lower, upper⟩ =
      Interval.bodyEntries ⟨lower, .unbounded⟩ ++ Interval.bodyEntries ⟨.unbounded, upper⟩ := by
    simp [Interval.bodyEntries]
  refine ⟨lowerEdges ++ upperEdges, ?_, fun value => ?_⟩
  · simp [parts, List.mapM_append, lowerRead, upperRead]
  · rw [List.all_append, isBelow, isAbove, Interval.contains]

/-- A range without ends has no entry in its body and contains every value. -/
theorem contains_of_bodyEntries_empty (interval : Interval)
    (empty : interval.bodyEntries = []) (value : Json) : interval.contains value = true := by
  obtain ⟨lower, upper⟩ := interval
  cases lower <;> cases upper <;> simp [Interval.bodyEntries] at empty
  rfl

/-! ### Bodies of tests -/

/-- A body that is no group says what its kind says of its content. -/
theorem holds?_leaf (document : Json) (kind : String) (entries : List (String × Json))
    (notBool : kind ≠ "bool") :
    holds? document (.entry kind (.object entries)) = holdsLeaf document kind entries := by
  rw [Json.entry, holds?]
  exact notBool

/-- A body for one field says what its kind says of that field. -/
theorem holds?_field (document : Json) (kind field : String) (content : Json)
    (notBool : kind ≠ "bool") :
    holds? document (.entry kind (.entry field content)) =
      holdsLeaf document kind [(field, content)] :=
  holds?_leaf document kind [(field, content)] notBool

/-- A body with a single clause says what the clause says. -/
theorem holds?_filter (document : Json) (bodies : List Json) :
    holds? document (.entry "bool" (.entry "filter" (.array bodies))) =
      allHold? document bodies := by
  rw [Json.entry, Json.entry, holds?, clausesHold?, clausesHold?]
  simp

/-- A group of negated clauses holds if none of the clauses does. -/
theorem holds?_mustNot (document : Json) (bodies : List Json) :
    holds? document (.entry "bool" (.entry "must_not" (.array bodies))) =
      (anyHolds? document bodies).map not := by
  rw [Json.entry, Json.entry, holds?, clausesHold?, clausesHold?]
  cases anyHolds? document bodies <;> simp

/-- A group of optional clauses of which one is asked for holds if one of the clauses does. -/
theorem holds?_should (document : Json) (bodies : List Json) :
    holds? document (.entry "bool"
        (.object [("should", .array bodies), ("minimum_should_match", .natural 1)])) =
      anyHolds? document bodies := by
  rw [Json.entry, holds?, clausesHold?, clausesHold?, clausesHold?]
  cases anyHolds? document bodies <;> simp [asksForOne, Json.natural]

/-- The body that matches everything holds of every document. -/
theorem holds?_matchAll (document : Json) : holds? document Query.matchAllBody = some true := by
  rw [Query.matchAllBody, holds?_leaf document _ _ (by decide)]
  rfl

/-- The negation of the body that matches everything holds of no document. -/
theorem holds?_matchNone (document : Json) : holds? document Query.matchNoneBody = some false := by
  rw [Query.matchNoneBody, Json.entry, Json.entry, holds?, clausesHold?, clausesHold?,
    holds?_matchAll]
  · rfl
  · simp [Query.matchAllBody, Json.entry]

/-- A predicate on values is asked of the values at the path of its field. -/
theorem hits_onValues (document : Json) (field : String) (test : Test)
    (onValues : test.isOnPlaces = false) :
    (Predicate.of field test).hits document =
      test.holds (document.leaves (Path.segments field)) := by
  simp [Predicate.hits, Predicate.of, onValues]

/-- The body for presence says what the predicate for presence does. -/
theorem holds?_exists (document : Json) (field : String) :
    holds? document (Query.existsBody field) =
      some ((Predicate.of field .present).hits document) := by
  rw [Query.existsBody, holds?_field document _ _ _ (by decide),
    hits_onValues document field .present rfl]
  rfl

/-- The body for a literal says what the predicate for it does. -/
theorem holds?_term (document : Json) (field : String) (value : Scalar)
    (finite : value.floats.all Binary64.isFinite = true) :
    holds? document (Query.termBody field value) =
      some ((Predicate.of field (.term value)).hits document) := by
  rw [Query.termBody, holds?_field document _ _ _ (by decide),
    hits_onValues document field (.term value) rfl]
  simp [holdsLeaf, literal?_toJson value finite, Test.holds]

/-- The terms of a set that has to be there as a whole are asked for one by one. -/
theorem allHold?_terms (document : Json) (field : String) (values : List Scalar)
    (finite : (values.flatMap Scalar.floats).all Binary64.isFinite = true) :
    allHold? document (values.map (Query.termBody field)) =
      some (values.all fun value => (Predicate.of field (.term value)).hits document) := by
  induction values with
  | nil => rw [List.map_nil, allHold?, List.all_nil]
  | cons value rest inductionHypothesis =>
    rw [List.flatMap_cons, List.all_append, Bool.and_eq_true] at finite
    rw [List.map_cons, allHold?, holds?_term document field value finite.1,
      inductionHypothesis finite.2]
    rfl

/-- A test whose parameters are read back from its body is asked as the evaluator asks it. -/
theorem holds?_parameters (document : Json) (kind field : String) (test : Test)
    (entries : List (String × Json))
    (read : predicate? kind entries = some (Predicate.of field test)) :
    holds? document (.entry kind (.object entries)) =
      some ((Predicate.of field test).hits document) := by
  have foreign (other : String) (none : predicate? other entries = none) : kind ≠ other := by
    rintro rfl
    rw [none] at read
    cases read
  rw [holds?_leaf document kind entries (foreign "bool" (by simp [predicate?])), holdsLeaf, read,
    Option.map_some]
  · intro same
    exact absurd same (foreign "match_all" (by simp [predicate?]))
  · intro _ same
    exact absurd same (foreign "exists" (by simp [predicate?]))
  · intro _ _ same
    exact absurd same (foreign "term" (by simp [predicate?]))
  · intro _ _ same
    exact absurd same (foreign "terms" (by simp [predicate?]))
  · intro _ _ same
    exact absurd same (foreign "range" (by simp [predicate?]))

/-- The body of a test says of a document what the test finds there. -/
theorem holds?_test (document : Json) (field : String) (test : Test)
    (renderable : (Predicate.of field test).isRenderable = true) :
    holds? document (test.body field) = some ((Predicate.of field test).hits document) := by
  -- Two things are needed of a test: its numbers are finite, and a circle is not on a field that
  -- its body has another use for.
  rw [Predicate.isRenderable, Bool.and_eq_true] at renderable
  obtain ⟨finite, apart⟩ := renderable
  cases test with
  | term value => exact holds?_term document field value finite
  | termSet mode values =>
    rw [hits_onValues document field (.termSet mode values) rfl]
    cases mode with
    | any =>
      rw [Test.body, holds?_field document _ _ _ (by decide)]
      have read := mapM_rendered Scalar.toJson literal? Scalar.floats literal?_toJson values finite
      simp [holdsLeaf, read, Test.holds]
    | all =>
      rw [Test.body]
      split
      · rename_i empty
        rw [holds?_matchAll, List.isEmpty_iff.mp empty]
        rfl
      · rw [holds?_filter, allHold?_terms document field values finite]
        simp only [hits_onValues document field (.term _) rfl]
        rfl
  | range interval =>
    rw [hits_onValues document field (.range interval) rfl, Test.body]
    split
    · rename_i empty
      have contains := contains_of_bodyEntries_empty interval (List.isEmpty_iff.mp empty)
      rw [holds?_exists, hits_onValues document field .present rfl]
      cases document.leaves (Path.segments field) <;> simp [Test.holds, contains]
    · obtain ⟨edges, read, admitted⟩ := edges_bodyEntries interval finite
      rw [holds?_field document _ _ _ (by decide)]
      simp [holdsLeaf, read, admitted, Test.holds]
  | present => exact holds?_exists document field
  | startsWith text => exact holds?_parameters document _ field _ _ rfl
  | wildcard pattern ignoreCase =>
    refine holds?_parameters document _ field _ _ ?_
    cases ignoreCase <;> rfl
  | regexp pattern ignoreCase strict =>
    refine holds?_parameters document _ field _ _ ?_
    cases ignoreCase <;> cases strict <;> rfl
  | geoDistance center distance =>
    have named : field ≠ "distance" := of_decide_eq_true apart
    have separate : Entries.ofPairs [(field, center.body), ("distance", .string distance)] =
        [(field, center.body), ("distance", .string distance)] := by
      simp [Entries.ofPairs, Entries.putAll, Entries.put, named]
    refine holds?_parameters document _ field _ _ ?_
    simp [separate, predicate?, Entries.find?, named, Json.string?, point?_body center finite,
      Predicate.of]
  | geoBoundingBox topLeft bottomRight =>
    have corners : (topLeft.floats ++ bottomRight.floats).all Binary64.isFinite = true := finite
    rw [List.all_append, Bool.and_eq_true] at corners
    refine holds?_parameters document _ field _ _ ?_
    simp [predicate?, Json.member?, Entries.find?, point?_body topLeft corners.1,
      point?_body bottomRight corners.2]
  | geoPolygon points =>
    have read := mapM_rendered GeoPoint.body point? GeoPoint.floats point?_body points finite
    refine holds?_parameters document _ field _ _ ?_
    simp [predicate?, Json.entry, Json.member?, Entries.find?, Json.array?, read]
  | geoShape shape relation =>
    refine holds?_parameters document _ field _ _ ?_
    have named : ShapeRelation.ofName? relation.name = some relation := by
      cases relation <;> decide
    simp [predicate?, Json.member?, Entries.find?, Json.string?, shape?_body shape finite, named]

/-- The body of a predicate says what the predicate says, negated or not. -/
theorem holds?_predicate (document : Json) (predicate : Predicate)
    (renderable : predicate.isRenderable = true) :
    holds? document predicate.body = some (predicate.selects document) := by
  obtain ⟨field, negated, test⟩ := predicate
  have plain := holds?_test document field test renderable
  have hits : (Predicate.of field test).hits document =
      Predicate.hits ⟨field, negated, test⟩ document := rfl
  cases negated with
  | false =>
    simp only [Predicate.body, Predicate.selects, Bool.false_eq_true, if_false, plain, hits,
      Bool.bne_false]
  | true =>
    simp only [Predicate.body, Predicate.selects, if_true, holds?_mustNot, anyHolds?, plain, hits]
    simp

mutual

/-- The body of a query says of every document what the evaluator says. The induction is on the
query, with the members of a group read as all of them and as some of them. -/
theorem holds?_body (document : Json) : (query : Query) → query.isRenderable = true →
    holds? document query.body = some (query.selects document)
  | .matchAll, _ => holds?_matchAll document
  | .leaf predicate, renderable => by
    have leaf : predicate.isRenderable = true := by
      simpa [Query.isRenderable, Query.predicates] using renderable
    exact holds?_predicate document predicate leaf
  | .group connective members, renderable => by
    obtain ⟨all, any⟩ := membersHold?_bodies document members renderable
    rw [Query.body]
    cases connective with
    | and =>
      rw [Query.groupBody, Query.selects]
      split
      · rename_i empty
        rw [holds?_matchAll]
        rwa [List.isEmpty_iff.mp empty, allHold?] at all
      · rw [holds?_filter, all]
    | or =>
      rw [Query.groupBody, Query.selects]
      split
      · rename_i empty
        rw [holds?_matchNone]
        rwa [List.isEmpty_iff.mp empty, anyHolds?] at any
      · rw [holds?_should, any]
    | not => rw [Query.groupBody, holds?_mustNot, any, Query.selects, Option.map_some]

/-- The bodies of the members of a group say together what the members select, all of them and one
of them. The induction is on the members. -/
theorem membersHold?_bodies (document : Json) : (members : List Query) →
    (Query.allPredicates members).all Predicate.isRenderable = true →
      allHold? document (Query.bodies members) = some (Query.selectedByAll members document) ∧
        anyHolds? document (Query.bodies members) = some (Query.selectedByAny members document)
  | [], _ => by
    rw [Query.bodies, allHold?, anyHolds?]
    exact ⟨rfl, rfl⟩
  | member :: rest, renderable => by
    rw [Query.allPredicates, List.all_append, Bool.and_eq_true] at renderable
    have first := holds?_body document member renderable.1
    obtain ⟨all, any⟩ := membersHold?_bodies document rest renderable.2
    rw [Query.bodies, allHold?, anyHolds?, first, all, any]
    exact ⟨rfl, rfl⟩

end

/-- Rendering agrees with the evaluator. Read by the meaning of bodies, the body of a query holds of
a document exactly when the query selects it, as long as its numbers are finite and no distance is
asked of a field that is itself called `distance`. -/
theorem body_holds_eq_selects (query : Query)
    (finite : ∀ predicate ∈ query.predicates, ∀ number ∈ predicate.test.floats,
      number.isFinite = true)
    (apart : ∀ predicate ∈ query.predicates, ∀ center distance,
      predicate.test = .geoDistance center distance → predicate.field ≠ "distance")
    (document : Json) : holds? document query.body = some (query.selects document) := by
  refine holds?_body document query (List.all_eq_true.mpr fun predicate member => ?_)
  rw [Predicate.isRenderable, Bool.and_eq_true]
  refine ⟨List.all_eq_true.mpr (finite predicate member), ?_⟩
  have named := apart predicate member
  split
  · rename_i center distance isDistance
    exact decide_eq_true (named center distance isDistance)
  · rfl

/-- An empty disjunction, a doubly negated range without ends and a negated distance. -/
theorem body_holds_eq_selects_of_degenerate :
    let query := Query.group .or [.group .or [], .group .not [.testNot "n" (.range .full)],
      .testNot "place" (.geoDistance ⟨.zero, .zero⟩ "5km")]
    let document := Json.object [("n", .array [.integer 1])]
    holds? document query.body = some (query.selects document) ∧
      query.selects document = true := by
  intro query document
  refine ⟨body_holds_eq_selects query (by decide) ?_ document, by decide⟩
  intro predicate member center distance isDistance
  simp only [query, Query.predicates, Query.allPredicates, Query.testNot, List.append_nil,
    List.nil_append, List.cons_append, List.mem_cons, List.not_mem_nil, or_false] at member
  obtain rfl | rfl := member
  · simp [Predicate.flip, Predicate.of]
  · simp [Predicate.flip, Predicate.of]

end Dsl

end SearchFilter
