import SearchFilter.Query.Body
import SearchFilter.Proofs.DocumentPlaces
import SearchFilter.Proofs.FieldCondition
import SearchFilter.Proofs.PlaceForms
import SearchFilter.Proofs.ShapeLeaves

/-!
# Shapes that are fed back

The body of a test for a shape names what the operand of the operator for shapes names. Taken for
that operand it is read into the shape that was rendered. Points were written with their longitude
first and are read so, no list of coordinates begins with a number, and coordinates that were
written nest no deeper than those that had been read, so the limit that allowed them allows them
again.
-/

namespace SearchFilter

open Check (bind_eq_ok_iff map_eq_ok_iff mapM_eq_ok_iff)

/-- The specification that asks for the shape in the body of a test for one: the members of the
shape and its relation under the operator for shapes. -/
def Json.shapeSpec? (body : Json) : Option Json := do
  let .object [(field, condition)] ← body.member? "geo_shape" | none
  let .object members ← condition.member? "shape" | none
  let relation ← condition.member? "relation"
  return .object
    [(field, .object [("$geo_shape", .object (members ++ [("relation", relation)]))])]

/-! ### Coordinates -/

namespace Coordinates

/-- Whether coordinates have their points on the globe and nest at most so many levels deep. -/
inductive Fits : Nat → Coordinates → Prop
  | point {levels : Nat} {place : GeoPoint} (onGlobe : place.IsOnGlobe) :
      Fits (levels + 1) (.point place)
  | list {levels : Nat} {items : List Coordinates} (each : ∀ item ∈ items, Fits levels item) :
      Fits (levels + 1) (.list items)

mutual

/-- The value that the body of coordinates is read into. -/
def given : Coordinates → Value
  | .point place => .list [.scalar (.float place.lon), .scalar (.float place.lat)]
  | .list items => .list (allGiven items)

/-- The operands for nested coordinates, in order. -/
def allGiven : List Coordinates → List Value
  | [] => []
  | item :: rest => item.given :: allGiven rest

end

/-- Nested coordinates are given one by one. -/
theorem allGiven_eq_map (items : List Coordinates) : allGiven items = items.map given := by
  induction items with
  | nil => rfl
  | cons item rest inductionHypothesis => rw [allGiven, inductionHypothesis, List.map_cons]

/-- Nested coordinates are rendered one by one. -/
theorem bodies_eq_map (items : List Coordinates) : bodies items = items.map body := by
  induction items with
  | nil => rfl
  | cons item rest inductionHypothesis => rw [bodies, inductionHypothesis, List.map_cons]

/-- Coordinates are never given as a number, so a list of them is never taken for a pair. -/
theorem number?_given (coordinates : Coordinates) : coordinates.given.number? = none := by
  cases coordinates <;> rfl

/-- A finite number in a body is read as that floating-point number. -/
theorem valueOf_real (field : String) {number : Binary64} (finite : number.isFinite = true) :
    FilterSpec.valueOf field (.real number) = .ok (.scalar (.float number)) := by
  rw [Json.real, if_pos finite]
  rfl

/-- The rendering of coordinates is read as their operand, at every depth. -/
theorem valueOf_body (field : String) {levels : Nat} {coordinates : Coordinates}
    (fits : coordinates.Fits levels) :
    FilterSpec.valueOf field coordinates.body = .ok coordinates.given := by
  induction fits with
  | point onGlobe =>
    obtain ⟨latFinite, lonFinite⟩ := onGlobe.isFinite
    simp only [body, given, FilterSpec.valueOf, FilterSpec.valuesOf_eq_mapM, List.mapM_cons,
      valueOf_real field latFinite, valueOf_real field lonFinite]
    rfl
  | list _ inductionHypothesis =>
    rw [body, given, FilterSpec.valueOf, FilterSpec.valuesOf_eq_mapM, bodies_eq_map,
      allGiven_eq_map, Check.mapM_map_of_forall inductionHypothesis]
    rfl

end Coordinates

namespace Resolve

/-- A point on the globe is accepted again, with its parts in the order of a shape. -/
theorem shapePoint_given (field : String) {place : GeoPoint} (onGlobe : place.IsOnGlobe) :
    shapePoint field (Coordinates.point place).given = .ok place := by
  obtain ⟨latFinite, lonFinite⟩ := onGlobe.isFinite
  obtain ⟨⟨-, latNear⟩, -, lonNear⟩ := place.isOnGlobe_iff.mp onGlobe
  exact (shapePoint_eq_ok_iff field place .pair).mpr
    ⟨⟨rfl, latFinite, decide_eq_true latNear⟩, rfl, lonFinite, decide_eq_true lonNear⟩

/-- Coordinates that were read have their points on the globe and nest as deep as was allowed. -/
theorem fits_of_coordinatesOf (field : String) (levels : Nat) (value : Value) :
    Check.Ensures (coordinatesOf field levels value) (Coordinates.Fits levels) := by
  have point (levels : Nat) (value : Value) :
      Check.Ensures ((shapePoint field value).map Coordinates.point)
        (Coordinates.Fits (levels + 1)) := by
    intro coordinates accepted
    obtain ⟨place, read, rfl⟩ := (map_eq_ok_iff _ _ _).mp accepted
    exact .point (shapePoint_wellFormed field value place read)
  induction levels generalizing value with
  | zero => exact .of_error _
  | succ levels inductionHypothesis =>
    cases value with
    | map entries => exact point levels _
    | list items =>
      unfold coordinatesOf
      split
      · exact point levels _
      · intro coordinates accepted
        obtain ⟨members, read, rfl⟩ := (map_eq_ok_iff _ _ _).mp accepted
        refine .list fun member listed => ?_
        obtain ⟨item, -, itemRead⟩ :=
          Check.exists_of_mem_of_mapM_eq_ok _ _ _ read member listed
        exact inductionHypothesis item member itemRead
    | _ => exact .of_error _

/-- Coordinates that fit are read back from what their body is read into. -/
theorem coordinatesOf_given (field : String) {levels : Nat} {coordinates : Coordinates}
    (fits : coordinates.Fits levels) :
    coordinatesOf field levels coordinates.given = .ok coordinates := by
  induction fits with
  | @point levels place onGlobe =>
    have isPair : coordinatesOf field (levels + 1) (Coordinates.point place).given =
        (shapePoint field (Coordinates.point place).given).map .point := rfl
    rw [isPair, shapePoint_given field onGlobe]
    rfl
  | @list levels items _ inductionHypothesis =>
    have noPair : startsWithNumber (Coordinates.allGiven items) = false := by
      cases items with
      | nil => rfl
      | cons item rest => simp only [Coordinates.allGiven, startsWithNumber, item.number?_given,
          Option.isSome_none]
    have read := Check.mapM_map_of_forall inductionHypothesis
    rw [Coordinates.given, coordinatesOf, noPair, Coordinates.allGiven_eq_map, read, List.map_id']
    rfl

end Resolve

/-! ### Shapes -/

/-- The value that the members of a shape and its relation are read into. -/
def GeoShape.given (shape : GeoShape) (relation : ShapeRelation) : List (Key × Value) :=
  (.name "type", .scalar (.str shape.kind)) :: (.name "coordinates", shape.coordinates.given) ::
    (shape.radius.map fun radius => (Key.name "radius", Value.scalar (.str radius))).toList ++
      [(.name "relation", .scalar (.str relation.name))]

namespace Resolve

/-- A text in lower case stays as it is when it is brought into lower case again. -/
theorem toLower_toLower (c : Char) : c.toLower.toLower = c.toLower := by
  have noUpper := isUpper_toLower c
  generalize c.toLower = lowered at noUpper ⊢
  unfold Char.toLower
  split
  · rename_i upper
    exact absurd upper (of_decide_eq_false noUpper)
  · rfl

/-- A relation is read back from its name. -/
theorem relationOf_name (field : String) (relation : ShapeRelation) :
    relationOf field (some (.scalar (.str relation.name))) = .ok relation := by
  have named : ShapeRelation.ofText? relation.name = some relation := by
    cases relation <;> decide
  simp only [relationOf, Value.string?, Scalar.string?, Option.bind_some, named]

/-- The type of a shape that was read is in lower case and its coordinates fit. -/
theorem fits_of_toShape (field : String) (levels : Nat) (value : Value) (shape : GeoShape)
    (relation : ShapeRelation)
    (accepted : toShape field levels value = .ok (.geoShape shape relation)) :
    String.ofList (shape.kind.toList.map Char.toLower) = shape.kind ∧
      shape.coordinates.Fits levels := by
  cases value with
  | map entries =>
    obtain ⟨-, type, written, coordinates, _, -, -, read, -, same⟩ :=
      (toShape_eq_ok_iff _ _ _ _).mp accepted
    obtain ⟨rfl, -⟩ := Test.geoShape.inj same
    refine ⟨?_, fits_of_coordinatesOf field levels written coordinates read⟩
    have lowered : Char.toLower ∘ Char.toLower = Char.toLower := funext toLower_toLower
    rw [String.toList_ofList, List.map_map, lowered]
  | _ => cases accepted

/-- Such a shape is read back from its members and its relation. -/
theorem toShape_given (field : String) {levels : Nat} (shape : GeoShape) (relation : ShapeRelation)
    (lowered : String.ofList (shape.kind.toList.map Char.toLower) = shape.kind)
    (fits : shape.coordinates.Fits levels) :
    toShape field levels (.map (shape.given relation)) = .ok (.geoShape shape relation) := by
  obtain ⟨kind, coordinates, radius⟩ := shape
  refine (toShape_eq_ok_iff _ _ _ _).mpr ⟨?_, kind, coordinates.given, coordinates, relation, rfl,
    rfl, coordinatesOf_given field fits, ?_, ?_⟩
  · cases radius <;> rfl
  · cases radius <;> exact relationOf_name field relation
  · rw [lowered]
    cases radius <;> rfl

/-- The operator for shapes alone resolves as its operand is read, with every refusal. -/
theorem operand_shape_eq (setting : Setting) (field : String) (levels : Nat) (value : Value) :
    operand setting field levels (.ops [(.geoShape, value)]) =
      Diagnosed.lift (requireGeo setting field .geoShape >>= fun _ =>
        (toShape field setting.limit value).map fun test => [Query.test field test]) := by
  have contributes : contribution setting (entering setting field levels) field
      [(.geoShape, value)] (.geoShape, value) =
        Diagnosed.lift (requireGeo setting field .geoShape) >>= fun _ =>
          Diagnosed.lift (toShape field setting.limit value >>= fun test =>
            pure [Query.test field test]) >>= fun queries => pure (.queries queries) := rfl
  rw [operand_ops_eq, List.mapM_cons, contributes]
  cases requireGeo setting field .geoShape with
  | error error => rfl
  | ok permitted => cases toShape field setting.limit value <;> rfl

/-- The operator for shapes alone resolves to the test that its operand is read into. -/
theorem operand_shape (setting : Setting) (field : String) (levels : Nat) (value : Value)
    (test : Test) (permitted : requireGeo setting field .geoShape = .ok ())
    (read : toShape field setting.limit value = .ok test) :
    operand setting field levels (.ops [(.geoShape, value)]) =
      .done [Query.test field test] [] := by
  rw [operand_shape_eq, permitted, read]
  rfl

end Resolve

namespace FilterSpec

/-- An entry is read if its key and its value are. -/
theorem entryOf_eq_ok (field : String) {text : String} {key : Key} {json : Json} {value : Value}
    (named : keyOf text = .ok key) (read : valueOf field json = .ok value) :
    entryOf field (text, json) = .ok (key, value) := by
  rw [entryOf, named, read]
  rfl

/-- The members of a shape with its relation. -/
def shapeMembers (shape : GeoShape) (relation : ShapeRelation) : List (String × Json) :=
  ("type", .string shape.kind) :: ("coordinates", shape.coordinates.body) ::
    (shape.radius.map fun radius => ("radius", Json.string radius)).toList ++
      [("relation", .string relation.name)]

/-- The members of a rendered shape are read as the entries of its operand. -/
theorem valueOf_shapeMembers (field : String) {levels : Nat} (shape : GeoShape)
    (relation : ShapeRelation) (fits : shape.coordinates.Fits levels) :
    valueOf field (.object (shapeMembers shape relation)) = .ok (.map (shape.given relation)) := by
  obtain ⟨kind, coordinates, radius⟩ := shape
  have names : ∀ entry ∈ shapeMembers ⟨kind, coordinates, radius⟩ relation,
      entry.1 ≠ "$range" ∧ entry.1 ≠ "$regex" := by
    cases radius <;> simp [shapeMembers]
  have coordinatesRead : entryOf field ("coordinates", coordinates.body) =
      .ok (.name "coordinates", coordinates.given) :=
    entryOf_eq_ok field rfl (coordinates.valueOf_body field fits)
  have text (key text : String) (named : keyOf key = .ok (.name key)) :
      entryOf field (key, .string text) = .ok (.name key, .scalar (.str text)) :=
    entryOf_eq_ok field named rfl
  rw [valueOf_object_of_names field _ names]
  cases radius <;>
    simp only [shapeMembers, GeoShape.given, List.mapM_append, List.mapM_cons, coordinatesRead,
      text "type" _ rfl, text "radius" _ rfl, text "relation" _ rfl, Option.map_none,
      Option.map_some, Option.toList_none, Option.toList_some] <;>
    rfl

/-- The body of a test for a shape has what the specification for it needs. -/
theorem shapeSpec?_body (field : String) (shape : GeoShape) (relation : ShapeRelation) :
    (Test.body field (.geoShape shape relation)).shapeSpec? =
      some (.object
        [(field, .object [("$geo_shape", .object (shapeMembers shape relation))])]) := by
  obtain ⟨kind, coordinates, radius⟩ := shape
  cases radius <;> rfl

/-- The path of a field is a path already. -/
theorem pathOf_pathOf (key : String) : Where.pathOf (Where.pathOf key) = Where.pathOf key := by
  by_cases identity : key = "id"
  · rw [identity]
    rfl
  · have other : Where.pathOf key = key := if_neg identity
    rw [other, other]

/-- What a key of a field stands for is a key of the same field. -/
theorem ofKey?_pathOf (key : String) (isField : Combinator.ofKey? key = none) :
    Combinator.ofKey? (Where.pathOf key) = none := by
  unfold Where.pathOf
  split
  · decide
  · exact isField

/-- A document with a rendered shape as its operand is read as the condition on that shape. -/
theorem ofJson_shape (field : String) {levels : Nat} (shape : GeoShape)
    (relation : ShapeRelation) (fits : shape.coordinates.Fits levels) :
    ofJson (.object [(field, .object [("$geo_shape", .object (shapeMembers shape relation))])]) =
      .ok (single field (.map [(.op .geoShape, .map (shape.given relation))])) := by
  have operandRead : entryOf field ("$geo_shape", .object (shapeMembers shape relation)) =
      .ok (.op .geoShape, .map (shape.given relation)) :=
    entryOf_eq_ok field rfl (valueOf_shapeMembers field shape relation fits)
  have conditionRead :
      valueOf field (.object [("$geo_shape", .object (shapeMembers shape relation))]) =
        .ok (.map [(.op .geoShape, .map (shape.given relation))]) := by
    rw [valueOf_object_of_names field _ (by simp), List.mapM_cons, operandRead]
    rfl
  rw [ofJson, pairsOf, conditionRead]
  rfl

/-- Whatever specification a test for a shape was compiled from, the body of the test gives a
specification that is accepted and compiles to the same test on the same field, under the same
limit. -/
theorem shape_returns_of_compile (spec : FilterSpec) (fields : FieldContext)
    (capabilities : Capabilities) (limit : Nat) (compiled : CompiledQuery)
    (compiles : compile spec fields capabilities limit = .ok compiled) (predicate : Predicate)
    (member : predicate ∈ compiled.root.leaves) (shape : GeoShape) (relation : ShapeRelation)
    (isShape : predicate.test = .geoShape shape relation) :
    ∃ json returned, (predicate.test.body predicate.field).shapeSpec? = some json ∧
      ofJson json = .ok returned ∧
        compile returned fields capabilities limit =
          .ok ⟨.group .and [.test predicate.field (.geoShape shape relation)], []⟩ := by
  obtain ⟨⟨key, isField, onField⟩, wasRead⟩ :=
    shapeRead_of_compile spec fields capabilities limit compiled compiles predicate member
  obtain ⟨permitted, written, read⟩ := wasRead shape relation isShape
  rw [isShape] at read ⊢
  obtain ⟨lowered, fits⟩ := Resolve.fits_of_toShape _ _ _ _ _ read
  have readAgain := Resolve.toShape_given predicate.field shape relation lowered fits
  have keyed : Combinator.ofKey? predicate.field = none := onField ▸ ofKey?_pathOf key isField
  have samePath : Where.pathOf predicate.field = predicate.field := onField ▸ pathOf_pathOf key
  refine ⟨_, _, shapeSpec?_body predicate.field shape relation,
    ofJson_shape predicate.field shape relation fits, ?_⟩
  rw [compile_single_eq_ok_iff _ _ keyed]
  refine ⟨_, _, rfl, ?_, rfl⟩
  rw [samePath]
  exact Resolve.operand_shape _ _ _ _ _ permitted readAgain

set_option maxRecDepth 4000 in
/-- A negated shape on the identity of documents, with one point in both forms, an empty list and a
type in mixed case, in a negated sub-specification. -/
theorem shape_returns_of_compile_of_mixed :
    let number (value : Int) : Value := .scalar (.int value)
    let spec := ofPairs [("not", .map [(.name "id", .map [(.op .negation, .map [(.op .geoShape,
      .map [(.name "type", .scalar (.str "MultiPoint")), (.name "radius", .scalar (.str "5m")),
        (.name "coordinates", .list [.list [], .list [number 2, number 1],
          .map [(.name "lat", number 1), (.name "lon", number 2)]])])])])])]
    let place : Coordinates := .point ⟨.ofInt 1, .ofInt 2⟩
    let test : Test :=
      .geoShape ⟨"multipoint", .list [.list [], place, place], some "5m"⟩ .intersects
    ∃ compiled, compile spec .empty ⟨fun _ => true⟩ 2 = .ok compiled ∧
      ⟨"_id", true, test⟩ ∈ compiled.root.leaves ∧
        ∃ json returned, (test.body "_id").shapeSpec? = some json ∧ ofJson json = .ok returned ∧
          compile returned .empty ⟨fun _ => true⟩ 2 = .ok ⟨.group .and [.test "_id" test], []⟩ := by
  intro number spec place test
  have compiles : ∃ compiled, compile spec .empty ⟨fun _ => true⟩ 2 = .ok compiled ∧
      ⟨"_id", true, test⟩ ∈ compiled.root.leaves :=
    ⟨_, rfl, List.mem_singleton_self _⟩
  obtain ⟨compiled, specCompiles, member⟩ := compiles
  exact ⟨compiled, specCompiles, member,
    shape_returns_of_compile spec .empty ⟨fun _ => true⟩ 2 compiled specCompiles _ member _ _ rfl⟩

end FilterSpec

end SearchFilter
