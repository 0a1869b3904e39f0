import SearchFilter.Query.Body
import SearchFilter.Proofs.CompiledTrees

/-!
# Nulls in rendered bodies

A floating-point number without a spelling in a document is rendered as null, and an engine reads
null as something else. Compilation refuses what is not a number, and intervals lose their infinite
ends when they are built, but an infinite literal anywhere else reaches the tree and is rendered as
null: as the operand of a bound, for a look-up or as a member of a set. So the body of a compiled
query contains null exactly if its specification contains an infinite literal.
-/

namespace SearchFilter

/-! ### Nulls -/

namespace Json

mutual

/-- Whether a document value is null or contains null at any depth. -/
def hasNull : Json → Bool
  | .null => true
  | .array items => anyNull items
  | .object entries => anyNullValue entries
  | .bool _ | .number _ | .string _ => false

/-- Whether there is a null in one of the items. -/
def anyNull : List Json → Bool
  | [] => false
  | item :: rest => item.hasNull || anyNull rest

/-- Whether there is a null in the value of one of the members. -/
def anyNullValue : List (String × Json) → Bool
  | [] => false
  | (_, value) :: rest => value.hasNull || anyNullValue rest

end

/-- Items are looked through one by one. -/
theorem anyNull_eq_any (items : List Json) : anyNull items = items.any hasNull := by
  induction items with
  | nil => rfl
  | cons item rest inductionHypothesis =>
    rw [anyNull, inductionHypothesis, List.any_cons]

/-- An array has the nulls of its items. -/
@[simp] theorem hasNull_array (items : List Json) : (array items).hasNull = items.any hasNull := by
  rw [hasNull, anyNull_eq_any]

/-- An object has the nulls of its values, and none in its keys. -/
@[simp] theorem hasNull_object (entries : List (String × Json)) :
    (object entries).hasNull = entries.any fun entry => entry.2.hasNull := by
  rw [hasNull]
  induction entries with
  | nil => rfl
  | cons entry rest inductionHypothesis =>
    rw [anyNullValue, inductionHypothesis, List.any_cons]

/-- An object with one member has the nulls of its value. -/
@[simp] theorem hasNull_entry (key : String) (value : Json) :
    (entry key value).hasNull = value.hasNull := by
  simp [entry]

/-- A string is no null. -/
@[simp] theorem hasNull_string (text : String) : (string text).hasNull = false := rfl

/-- A number is no null. -/
@[simp] theorem hasNull_number (value : Number) : (number value).hasNull = false := rfl

/-- A truth value is no null. -/
@[simp] theorem hasNull_bool (value : Bool) : (bool value).hasNull = false := rfl

/-- A floating-point number is written as null exactly if it is not finite. This is the one source
of nulls. -/
@[simp] theorem hasNull_real (value : Binary64) : (real value).hasNull = !value.isFinite := by
  unfold real
  cases value.isFinite <;> rfl

end Json

/-! ### Literals -/

/-- Whether a literal is an infinity. -/
def Scalar.isInfinite : Scalar → Bool
  | .float value => value.isInfinite
  | _ => false

/-- A literal that is not refused is rendered as null only if it is an infinity. -/
theorem Scalar.hasNull_toJson (literal : Scalar) (number : literal.isNaN = false) :
    literal.toJson.hasNull = literal.isInfinite := by
  cases literal with
  | float value =>
    rw [toJson, Json.hasNull_real, isInfinite]
    have isNumber : value.isNaN = false := number
    revert isNumber
    simp only [Binary64.isFinite, Binary64.isInfinite, Binary64.isNaN, bne, Bool.not_not]
    cases value.biasedExponent == 2047 <;> cases value.fraction == 0 <;> simp
  | _ => rfl

/-- An interval that is built from two ends has no infinite one. -/
theorem Interval.ends_between (lower upper : Bound) :
    (between lower upper).ends.any Scalar.isInfinite = false := by
  have finite (bound : Bound) : bound.finite.scalar?.toList.any Scalar.isInfinite = false := by
    unfold Bound.finite
    split
    · split
      · rfl
      · rename_i finite
        simpa [Bound.scalar?, Scalar.isInfinite] using finite
    · split
      · rfl
      · rename_i finite
        simpa [Bound.scalar?, Scalar.isInfinite] using finite
    · rename_i noIncluded noExcluded
      cases bound with
      | unbounded => rfl
      | included literal =>
        cases literal with
        | float value => exact absurd rfl (noIncluded value)
        | _ => rfl
      | excluded literal =>
        cases literal with
        | float value => exact absurd rfl (noExcluded value)
        | _ => rfl
  rw [ends, List.any_append, between]
  exact Bool.or_eq_false_iff.mpr ⟨finite lower, finite upper⟩

/-! ### Places -/

/-- The parts of a point on the globe are finite. -/
theorem GeoPoint.hasNull_body (place : GeoPoint) (onGlobe : place.IsOnGlobe) :
    place.body.hasNull = false := by
  obtain ⟨latFinite, lonFinite⟩ := onGlobe.isFinite
  simp [body, latFinite, lonFinite]

mutual

/-- Coordinates of points on the globe have no null at any depth. -/
theorem Coordinates.hasNull_body : (coordinates : Coordinates) →
    (∀ point ∈ coordinates.points, point.IsOnGlobe) → coordinates.body.hasNull = false
  | .point place, onGlobe => by
    obtain ⟨latFinite, lonFinite⟩ := (onGlobe place (List.mem_singleton_self _)).isFinite
    simp [Coordinates.body, latFinite, lonFinite]
  | .list items, onGlobe => by
    rw [Coordinates.body, Json.hasNull, Json.anyNull_eq_any]
    exact Coordinates.hasNull_bodies items onGlobe

/-- Nested coordinates of points on the globe have no null. -/
theorem Coordinates.hasNull_bodies : (items : List Coordinates) →
    (∀ point ∈ Coordinates.pointsOfAll items, point.IsOnGlobe) →
      (Coordinates.bodies items).any Json.hasNull = false
  | [], _ => rfl
  | item :: rest, onGlobe => by
    rw [Coordinates.pointsOfAll] at onGlobe
    obtain ⟨here, later⟩ := List.forall_mem_append.mp onGlobe
    rw [Coordinates.bodies, List.any_cons, Coordinates.hasNull_body item here,
      Coordinates.hasNull_bodies rest later, Bool.or_self]

end

/-! ### Bodies -/

/-- Two tests that agree on the items of a list agree on whether one of them passes. -/
theorem any_eq_any_of_forall {α : Type} {test other : α → Bool} {items : List α}
    (same : ∀ item ∈ items, test item = other item) : items.any test = items.any other := by
  induction items with
  | nil => rfl
  | cons item rest inductionHypothesis =>
    obtain ⟨here, later⟩ := List.forall_mem_cons.mp same
    rw [List.any_cons, List.any_cons, here, inductionHypothesis later]

/-- A flag that is written only where it is set has the nulls of its value there. -/
@[simp] theorem Query.anyNull_flagEntry (name : String) (set : Bool) (value : Json) :
    ((flagEntry name set value).any fun entry => entry.2.hasNull) = (set && value.hasNull) := by
  cases set <;> simp [flagEntry]

/-- The body of a shape has no null: its name and its radius are texts, and its points lie on the
globe. -/
theorem GeoShape.hasNull_body (shape : GeoShape)
    (onGlobe : ∀ point ∈ shape.coordinates.points, point.IsOnGlobe) :
    shape.body.hasNull = false := by
  obtain ⟨kind, coordinates, radius⟩ := shape
  have noNull : coordinates.body.hasNull = false := coordinates.hasNull_body onGlobe
  cases radius <;> simp [body, noNull]

/-- The ends of an interval are rendered one by one. -/
theorem Interval.hasNull_bodyEntries (interval : Interval)
    (wellFormed : ∀ value ∈ interval.ends, value.CanEndRange) :
    (interval.bodyEntries.any fun entry => entry.2.hasNull) =
      interval.ends.any Scalar.isInfinite := by
  obtain ⟨lower, upper⟩ := interval
  have each (literal : Scalar) (isEnd : literal ∈ ends ⟨lower, upper⟩) :
      literal.toJson.hasNull = literal.isInfinite :=
    literal.hasNull_toJson (wellFormed literal isEnd).2
  cases lower <;> cases upper <;>
    simp_all [bodyEntries, ends, Bound.scalar?]

/-- The body of a well-formed test contains null exactly if one of its literals is infinite. -/
theorem Test.hasNull_body (field : String) (test : Test) (wellFormed : test.WellFormed) :
    (test.body field).hasNull = test.literals.any Scalar.isInfinite := by
  cases test with
  | term value =>
    simp [body, Query.termBody, literals, value.hasNull_toJson wellFormed]
  | termSet mode values =>
    have each : ∀ value ∈ values, value.toJson.hasNull = value.isInfinite :=
      fun value member => value.hasNull_toJson (wellFormed value member)
    rw [literals, ← any_eq_any_of_forall each]
    cases mode with
    | any =>
      simp [body, List.any_map, Function.comp_def]
    | all =>
      rw [body]
      split
      · rename_i empty
        obtain rfl := List.isEmpty_iff.mp empty
        rfl
      · simp [List.any_map, Function.comp_def, Query.termBody]
  | range interval =>
    rw [body, literals, ← interval.hasNull_bodyEntries wellFormed]
    split
    · rename_i empty
      rw [List.isEmpty_iff.mp empty]
      rfl
    · simp
  | present | startsWith _ => rfl
  | wildcard pattern ignoreCase => simp [body, literals]
  | regexp pattern ignoreCase strict => simp [body, literals]
  -- A circle on the field of that name has only its radius as a member, which is a text.
  | geoDistance center distance =>
    have noNull := center.hasNull_body wellFormed.1
    by_cases taken : field = "distance" <;>
      simp [body, literals, Entries.ofPairs, Entries.putAll, Entries.put, taken, noNull]
  | geoBoundingBox topLeft bottomRight =>
    simp [body, literals, topLeft.hasNull_body wellFormed.1,
      bottomRight.hasNull_body wellFormed.2.1]
  | geoPolygon points =>
    have each : ∀ point ∈ points, point.body.hasNull = false :=
      fun point member => point.hasNull_body (wellFormed.2 point member)
    simp [body, literals, List.any_map, Function.comp_def, any_eq_any_of_forall each]
  | geoShape shape relation =>
    simp [body, literals, shape.hasNull_body wellFormed.2]

/-- The body of a well-formed predicate has a null exactly if one of its literals is infinite. -/
theorem Predicate.hasNull_body (predicate : Predicate) (wellFormed : predicate.test.WellFormed) :
    predicate.body.hasNull = predicate.test.literals.any Scalar.isInfinite := by
  rw [← predicate.test.hasNull_body predicate.field wellFormed, body]
  split <;> simp

namespace Query

/-- A group has the nulls of its members, also an empty one, whose body is its own. -/
theorem hasNull_groupBody (connective : Connective) (members : List Json) :
    (groupBody connective members).hasNull = members.any Json.hasNull := by
  cases connective <;> cases members <;>
    simp [groupBody, matchAllBody, matchNoneBody, Json.natural]

mutual

/-- The body of a query contains null exactly if that of one of its predicates does. -/
theorem hasNull_body : (query : Query) →
    query.body.hasNull = query.leaves.any fun predicate => predicate.body.hasNull
  | .matchAll => rfl
  | .group connective members => by
    rw [body, leaves, hasNull_groupBody, hasNull_bodies members]
  | .leaf predicate => by
    rw [body, leaves, List.any_cons, List.any_nil, Bool.or_false]

/-- The bodies of several queries have the nulls of their predicates. -/
theorem hasNull_bodies : (queries : List Query) →
    (bodies queries).any Json.hasNull =
      (leavesOfAll queries).any fun predicate => predicate.body.hasNull
  | [] => rfl
  | query :: rest => by
    rw [bodies, leavesOfAll, List.any_cons, List.any_append, hasNull_body query,
      hasNull_bodies rest]

end

end Query

section Compiling

variable (spec : FilterSpec) (fields : FieldContext) (capabilities : Capabilities) (limit : Nat)
  (compiled : CompiledQuery) (compiles : compile spec fields capabilities limit = .ok compiled)
include compiles

/-- The body of a compiled query contains null exactly if its specification contains an infinite
literal. The ends of intervals that are built from two ends are never among them. -/
theorem compile_body_hasNull :
    compiled.root.body.hasNull = spec.scalars.any Scalar.isInfinite ∧
      ∀ lower upper, (Interval.between lower upper).ends.any Scalar.isInfinite = false := by
  refine ⟨?_, Interval.ends_between⟩
  obtain ⟨leaves, literals⟩ := fits_of_compile spec fields capabilities limit compiled compiles
  have each : ∀ predicate ∈ compiled.root.leaves,
      predicate.body.hasNull = predicate.test.literals.any Scalar.isInfinite :=
    fun predicate member => predicate.hasNull_body (leaves predicate member).2
  rw [Query.hasNull_body, any_eq_any_of_forall each, ← List.any_flatMap, literals.any_eq]

end Compiling

/-- An infinite member of a negated list, an infinite bound under a negation, and an interval that
is built from infinite ends. -/
theorem compile_body_hasNull_of_nested :
    let infinite (negative : Bool) : Scalar := .float (.infinity negative)
    let looked := FilterSpec.ofPairs [("not", .map [(.name "f", .map
      [(.op .negation, .list [.null, .scalar (infinite true)])])])]
    let bounded := FilterSpec.ofPairs [("f", .map [(.op .negation, .map
      [(.op .greater, .scalar (infinite false))])])]
    let interval := FilterSpec.ofPairs
      [("f", .interval (.between (.included (infinite true)) (.excluded (infinite false))))]
    (∃ compiled, compile looked .empty ⟨fun _ => true⟩ = .ok compiled ∧
      compiled.root.body.hasNull = true) ∧
    (∃ compiled, compile bounded .empty ⟨fun _ => true⟩ = .ok compiled ∧
      compiled.root.body.hasNull = true) ∧
    ∃ compiled, compile interval .empty ⟨fun _ => true⟩ = .ok compiled ∧
      compiled.root.body.hasNull = false := by
  intro infinite looked bounded interval
  refine ⟨⟨_, rfl, ?_⟩, ⟨_, rfl, ?_⟩, ⟨_, rfl, ?_⟩⟩
  · exact (compile_body_hasNull looked .empty ⟨fun _ => true⟩ defaultDepth _ rfl).1.trans
      (by decide +kernel)
  · exact (compile_body_hasNull bounded .empty ⟨fun _ => true⟩ defaultDepth _ rfl).1.trans
      (by decide +kernel)
  · exact (compile_body_hasNull interval .empty ⟨fun _ => true⟩ defaultDepth _ rfl).1.trans
      (by decide +kernel)

/-- A range between two bounds, the lower of which is infinite, is rendered with null for that
bound. The interval between the same ends is rendered without the bound. -/
theorem infinite_bound_renders_null :
    let below : Scalar := .float (.infinity true)
    let bounds := FilterSpec.ofPairs
      [("f", .map [(.op .greaterOrEqual, .scalar below), (.op .less, .scalar (.int 5))])]
    let interval := FilterSpec.ofPairs
      [("f", .interval (.between (.included below) (.excluded (.int 5))))]
    let rendered (entries : List (String × Json)) : Json :=
      .entry "bool" (.entry "filter" (.array [.entry "range" (.entry "f" (.object entries))]))
    (∃ compiled, compile bounds .empty ⟨fun _ => true⟩ = .ok compiled ∧
      compiled.root.body = rendered [("gte", .null), ("lt", .integer 5)] ∧
      compiled.root.body.hasNull = true) ∧
    ∃ compiled, compile interval .empty ⟨fun _ => true⟩ = .ok compiled ∧
      compiled.root.body = rendered [("lt", .integer 5)] ∧ compiled.root.body.hasNull = false :=
  ⟨⟨_, rfl, rfl, rfl⟩, ⟨_, rfl, rfl, rfl⟩⟩

end SearchFilter
