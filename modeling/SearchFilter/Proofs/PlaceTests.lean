import SearchFilter.Proofs.Meaning
import SearchFilter.Proofs.Selection
import SearchFilter.Proofs.Steps

/-!
# Tests on places mean the areas of their operands

The resolver reads points, radii and shapes together with the checks that refuse them. Whatever it
accepts is what the operand says: the test that it builds holds of the places of a field exactly
when they meet the area that the operand describes. The number of levels that coordinates may nest
decides only whether they are accepted.
-/

namespace SearchFilter.Resolve

open Check (bind_eq_ok_iff map_eq_ok_iff mapM_eq_ok_iff)

/-- An accepted part of a point is the number that was given. -/
theorem coordinate_eq_ok (field part : String) (value : Option Value) (number : Binary64)
    (accepted : coordinate field part value = .ok number) :
    value.bind Value.number? = some number := by
  unfold coordinate at accepted
  split at accepted
  · rename_i given found
    split at accepted
    · rw [found, Except.ok.inj accepted]
    · cases accepted
  · cases accepted

/-- An accepted point has the given parts. -/
theorem onGlobe_eq_ok (field : String) (lat lon : Binary64) (place : GeoPoint)
    (accepted : onGlobe field lat lon = .ok place) : place = ⟨lat, lon⟩ := by
  unfold onGlobe at accepted
  split at accepted
  · exact (Except.ok.inj accepted).symm
  · cases accepted

/-- An accepted point is the one that the operand describes. -/
theorem point_eq_ok (field : String) (value : Value) (place : GeoPoint)
    (accepted : point field value = .ok place) : Meaning.place? value = some place := by
  unfold point at accepted
  split at accepted
  · rename_i lat lon
    obtain ⟨latitude, latitudeRead, remaining⟩ := (bind_eq_ok_iff _ _ _).mp accepted
    obtain ⟨longitude, longitudeRead, placed⟩ := (bind_eq_ok_iff _ _ _).mp remaining
    have first : lat.number? = some latitude := coordinate_eq_ok _ _ _ _ latitudeRead
    have second : lon.number? = some longitude := coordinate_eq_ok _ _ _ _ longitudeRead
    rw [onGlobe_eq_ok _ _ _ _ placed]
    simp [Meaning.place?, first, second]
  · rename_i entries
    obtain ⟨latitude, latitudeRead, remaining⟩ := (bind_eq_ok_iff _ _ _).mp accepted
    obtain ⟨longitude, longitudeRead, placed⟩ := (bind_eq_ok_iff _ _ _).mp remaining
    obtain ⟨lat, latNamed, first⟩ :=
      Option.bind_eq_some_iff.mp (coordinate_eq_ok _ _ _ _ latitudeRead)
    obtain ⟨lon, lonNamed, second⟩ :=
      Option.bind_eq_some_iff.mp (coordinate_eq_ok _ _ _ _ longitudeRead)
    rw [onGlobe_eq_ok _ _ _ _ placed]
    simp [Meaning.place?, latNamed, lonNamed, first, second]
  · cases accepted

/-- An accepted list of coordinates that begins with a number is a pair with its longitude first. -/
theorem shapePoint_eq_ok (field : String) (items : List Value) (place : GeoPoint)
    (accepted : shapePoint field (.list items) = .ok place) : Meaning.pair? items = some place := by
  unfold shapePoint at accepted
  split at accepted
  · rename_i lon lat pair
    obtain rfl := Value.list.inj pair
    obtain ⟨latitude, latitudeRead, remaining⟩ := (bind_eq_ok_iff _ _ _).mp accepted
    obtain ⟨longitude, longitudeRead, placed⟩ := (bind_eq_ok_iff _ _ _).mp remaining
    have first : lat.number? = some latitude := coordinate_eq_ok _ _ _ _ latitudeRead
    have second : lon.number? = some longitude := coordinate_eq_ok _ _ _ _ longitudeRead
    rw [onGlobe_eq_ok _ _ _ _ placed]
    simp [Meaning.pair?, first, second]
  · rename_i noPair
    unfold point at accepted
    split at accepted
    · rename_i lat lon pair
      exact absurd pair (noPair lat lon)
    · rename_i entries isMap
      cases isMap
    · cases accepted

/-- Accepted points are the ones that the operands describe, one for one. -/
theorem points_eq_ok (field : String) (values : List Value) (places : List GeoPoint)
    (accepted : values.mapM (point field) = .ok places) :
    values.mapM Meaning.place? = some places := by
  have pointwise := (mapM_eq_ok_iff _ _ _).mp accepted
  clear accepted
  induction pointwise with
  | nil => rfl
  | cons read _ inductionHypothesis =>
    simp [List.mapM_cons, point_eq_ok _ _ _ read, inductionHypothesis]

/-- Coordinates that are accepted at some depth are the ones that the operand describes. The depth
is gone from the conclusion. -/
theorem coordinatesOf_eq_ok (field : String) (levels : Nat) (value : Value)
    (coordinates : Coordinates) (accepted : coordinatesOf field levels value = .ok coordinates) :
    Meaning.coordinates? value = some coordinates := by
  induction levels generalizing value coordinates with
  | zero => cases accepted
  | succ levels inductionHypothesis =>
    cases value with
    | null => cases accepted
    | scalar literal => cases accepted
    | interval interval => cases accepted
    | pattern pattern => cases accepted
    | map entries =>
      obtain ⟨place, read, rfl⟩ := (map_eq_ok_iff _ _ _).mp accepted
      have same : Meaning.place? (.map entries) = some place := point_eq_ok field _ _ read
      simp [Meaning.coordinates?, same]
    | list items =>
      unfold coordinatesOf at accepted
      by_cases isPair : startsWithNumber items = true
      · rw [if_pos isPair] at accepted
        obtain ⟨place, read, rfl⟩ := (map_eq_ok_iff _ _ _).mp accepted
        simp [Meaning.coordinates?, isPair, shapePoint_eq_ok field _ _ read]
      · rw [if_neg isPair] at accepted
        obtain ⟨members, read, rfl⟩ := (map_eq_ok_iff _ _ _).mp accepted
        have all : Meaning.allCoordinates? items = some members := by
          have pointwise := (mapM_eq_ok_iff _ _ _).mp read
          clear read accepted isPair
          induction pointwise with
          | nil => rfl
          | cons first _ others =>
            simp [Meaning.allCoordinates?, inductionHypothesis _ _ first, others]
        simp [Meaning.coordinates?, isPair, all]

/-- The text of the distance that a condition asks for. -/
def distanceText (radius : Option Value) : String := radius.elim Distance.defaultText radiusText

/-- A circle is accepted exactly when its center is a point and its distance can be read. -/
theorem aroundPoint_eq_ok_iff (field : String) (center : Value) (radius : Option Value)
    (test : Test) :
    aroundPoint field center radius = .ok test ↔
      ∃ place, point field center = .ok place ∧
        (Distance.meters? (distanceText radius)).isSome = true ∧
          .geoDistance place (distanceText radius) = test := by
  rw [aroundPoint, bind_eq_ok_iff]
  refine exists_congr fun place => and_congr_right fun _ => ?_
  cases radius with
  | none =>
    have known : (Distance.meters? (distanceText none)).isSome = true := by decide +kernel
    rw [Check.pure_eq_ok_iff, and_iff_right known]
    rfl
  | some given =>
    cases measured : Distance.meters? (radiusText given) <;>
      simp [distanceText, measured, throw, throwThe, MonadExceptOf.throw]

/-- The test around a point selects documents with a place in the circle. -/
theorem selects_aroundPoint (field : String) (center : Value) (radius : Option Value) (test : Test)
    (document : Json) (accepted : aroundPoint field center radius = .ok test) :
    (Query.test field test).selects document =
      (Held.of document field).meets (Meaning.circle? center radius) := by
  obtain ⟨place, read, known, rfl⟩ := (aroundPoint_eq_ok_iff _ _ _ _).mp accepted
  obtain ⟨meters, measured⟩ := Option.isSome_iff_exists.mp known
  have circle : Meaning.circle? center radius = some (.circle place meters) := by
    rw [Meaning.circle?, point_eq_ok field center place read]
    change (Distance.meters? (distanceText radius)).bind _ = _
    rw [measured]
    rfl
  rw [Query.selects_test_places _ _ _ rfl, circle]
  simp [Geo.holds, Geo.Area.ofTest?, Held.meets, Held.of, measured]

/-- An accepted box has the given corners. -/
theorem inBox_eq_ok (field : String) (topLeft bottomRight : GeoPoint) (test : Test)
    (accepted : inBox field topLeft bottomRight = .ok test) :
    test = .geoBoundingBox topLeft bottomRight := by
  unfold inBox at accepted
  split at accepted
  · cases accepted
  · exact (Except.ok.inj accepted).symm

/-- The falling diagonal gives a box test and nothing else. -/
theorem box_of_boxFromTopLeft {field : String} {corner opposite : Value} {test : Test}
    (accepted : boxFromTopLeft field corner opposite = .ok test) :
    ∃ topLeft bottomRight, test = .geoBoundingBox topLeft bottomRight := by
  obtain ⟨_, -, remaining⟩ := (bind_eq_ok_iff _ _ _).mp accepted
  obtain ⟨_, -, boxed⟩ := (bind_eq_ok_iff _ _ _).mp remaining
  exact ⟨_, _, inBox_eq_ok _ _ _ _ boxed⟩

/-- The rising diagonal gives a box test and nothing else. -/
theorem box_of_boxFromTopRight {field : String} {corner opposite : Value} {test : Test}
    (accepted : boxFromTopRight field corner opposite = .ok test) :
    ∃ topLeft bottomRight, test = .geoBoundingBox topLeft bottomRight := by
  obtain ⟨_, -, remaining⟩ := (bind_eq_ok_iff _ _ _).mp accepted
  obtain ⟨_, -, boxed⟩ := (bind_eq_ok_iff _ _ _).mp remaining
  exact ⟨_, _, inBox_eq_ok _ _ _ _ boxed⟩

/-- The test for a box selects documents with a place between the corners. -/
theorem selects_boxFromTopLeft (field : String) (corner opposite : Value) (test : Test)
    (document : Json) (accepted : boxFromTopLeft field corner opposite = .ok test) :
    (Query.test field test).selects document =
      (Held.of document field).meets (Meaning.boxFromTopLeft? corner opposite) := by
  obtain ⟨topLeft, first, remaining⟩ := (bind_eq_ok_iff _ _ _).mp accepted
  obtain ⟨bottomRight, second, boxed⟩ := (bind_eq_ok_iff _ _ _).mp remaining
  rw [inBox_eq_ok _ _ _ _ boxed, Query.selects_test_places _ _ _ rfl]
  simp [Geo.holds, Geo.Area.ofTest?, Meaning.boxFromTopLeft?, Held.meets, Held.of,
    point_eq_ok _ _ _ first, point_eq_ok _ _ _ second]

/-- The same with the other two corners, whose longitudes change places. -/
theorem selects_boxFromTopRight (field : String) (corner opposite : Value) (test : Test)
    (document : Json) (accepted : boxFromTopRight field corner opposite = .ok test) :
    (Query.test field test).selects document =
      (Held.of document field).meets (Meaning.boxFromTopRight? corner opposite) := by
  obtain ⟨topRight, first, remaining⟩ := (bind_eq_ok_iff _ _ _).mp accepted
  obtain ⟨bottomLeft, second, boxed⟩ := (bind_eq_ok_iff _ _ _).mp remaining
  rw [inBox_eq_ok _ _ _ _ boxed, Query.selects_test_places _ _ _ rfl]
  simp [Geo.holds, Geo.Area.ofTest?, Meaning.boxFromTopRight?, Held.meets, Held.of,
    point_eq_ok _ _ _ first, point_eq_ok _ _ _ second]

/-- The corners that a polygon is built from are those that its operand lists, in either form. -/
theorem polygonPoints_eq_ok (field : String) (value : Value) (corners : List Value)
    (accepted : polygonPoints field value = .ok corners) :
    Meaning.polygon? value =
      (corners.mapM Meaning.place?).map fun points => .polygons [.of points []] := by
  unfold polygonPoints at accepted
  split at accepted
  · rw [← Except.ok.inj accepted]
    rfl
  · split at accepted
    · rename_i found
      rw [← Except.ok.inj accepted]
      simp [Meaning.polygon?, found]
    · cases accepted
  · cases accepted

/-- A polygon is accepted exactly when at least three corners are listed and all of them are
points. -/
theorem inPolygon_eq_done_iff (capabilities : Capabilities) (field : String) (value : Value)
    (test : Test) (warnings : List Warning) :
    inPolygon capabilities field value = .done test warnings ↔
      ∃ corners points, polygonPoints field value = .ok corners ∧ 3 ≤ corners.length ∧
        corners.mapM (point field) = .ok points ∧ .geoPolygon points = test ∧
          warnings = if capabilities.has .geoPolygonDeprecated then
            [.deprecated field Operator.geoPolygon.name Feature.geoPolygonDeprecated.since]
          else [] := by
  rw [inPolygon, Diagnosed.bind_eq_done_iff]
  constructor
  · rintro ⟨points, _, _, lifted, finished, rfl⟩
    obtain ⟨accepted, rfl⟩ := (Diagnosed.lift_eq_done_iff _ _ _).mp lifted
    obtain ⟨rfl, rfl⟩ := Diagnosed.done.inj finished
    obtain ⟨corners, listed, remaining⟩ := (bind_eq_ok_iff _ _ _).mp accepted
    by_cases few : corners.length < 3
    · simp [few, bind, Except.bind, throw, throwThe, MonadExceptOf.throw] at remaining
    · exact ⟨corners, points, listed, Nat.not_lt.mp few, by simpa [few] using remaining, rfl, rfl⟩
  · rintro ⟨corners, points, listed, enough, read, rfl, rfl⟩
    refine ⟨points, [], _, (Diagnosed.lift_eq_done_iff _ _ _).mpr ⟨?_, rfl⟩, rfl, rfl⟩
    exact (bind_eq_ok_iff _ _ _).mpr
      ⟨corners, listed, by simpa [Nat.not_lt.mpr enough] using read⟩

/-- The test for a polygon selects documents with a place inside it. -/
theorem selects_inPolygon (capabilities : Capabilities) (field : String) (value : Value)
    (test : Test) (warnings : List Warning) (document : Json)
    (done : inPolygon capabilities field value = .done test warnings) :
    (Query.test field test).selects document =
      (Held.of document field).meets (Meaning.polygon? value) := by
  obtain ⟨corners, points, listed, -, read, rfl, -⟩ := (inPolygon_eq_done_iff _ _ _ _ _).mp done
  rw [Query.selects_test_places _ _ _ rfl]
  simp [Geo.holds, Geo.Area.ofTest?, Held.meets, Held.of, polygonPoints_eq_ok _ _ _ listed,
    points_eq_ok _ _ _ read]

/-- An accepted relation is the one that was named, or the default. -/
theorem relationOf_eq_ok (field : String) (value : Option Value) (relation : ShapeRelation)
    (accepted : relationOf field value = .ok relation) :
    Meaning.relation? value = some relation := by
  unfold relationOf at accepted
  split at accepted
  · rw [← Except.ok.inj accepted]
    rfl
  · split at accepted
    · rename_i found
      rw [← Except.ok.inj accepted]
      exact found
    · cases accepted

/-- A shape is accepted exactly when its map has no foreign key, a textual type, coordinates that
nest as deep as allowed and a known relation, and these are what it keeps. -/
theorem toShape_eq_ok_iff (field : String) (levels : Nat) (entries : List (Key × Value))
    (test : Test) :
    toShape field levels (.map entries) = .ok test ↔
      (entries.find? fun entry => !isShapeKey entry.1) = none ∧
        ∃ kind given coordinates relation,
          ((Value.map entries).named? "type").bind Value.string? = some kind ∧
          (Value.map entries).named? "coordinates" = some given ∧
          coordinatesOf field levels given = .ok coordinates ∧
          relationOf field ((Value.map entries).named? "relation") = .ok relation ∧
          .geoShape ⟨String.ofList (kind.toList.map Char.toLower), coordinates,
            ((Value.map entries).named? "radius").bind Value.string?⟩ relation = test := by
  unfold toShape
  cases foreign : entries.find? fun entry => !isShapeKey entry.1 with
  | some entry => simp [foreign, bind, Except.bind, throw, throwThe, MonadExceptOf.throw]
  | none =>
    cases typed : ((Value.map entries).named? "type").bind Value.string? with
    | none => simp [foreign, typed, bind, Except.bind, throw, throwThe, MonadExceptOf.throw]
    | some kind =>
      cases placed : (Value.map entries).named? "coordinates" with
      | none =>
        simp [foreign, typed, placed, bind, Except.bind, pure, Except.pure, throw, throwThe,
          MonadExceptOf.throw]
      | some given =>
        simp only [foreign, typed, placed, pure_bind, bind_eq_ok_iff, Check.pure_eq_ok_iff,
          Option.some.injEq, true_and, exists_eq_left', exists_and_left]

/-- A shape gives a shape test and nothing else. -/
theorem shape_of_toShape {field : String} {levels : Nat} {value : Value} {test : Test}
    (accepted : toShape field levels value = .ok test) :
    ∃ shape relation, test = .geoShape shape relation := by
  cases value with
  | map entries =>
    obtain ⟨-, _, _, _, _, -, -, -, -, rfl⟩ := (toShape_eq_ok_iff _ _ _ _).mp accepted
    exact ⟨_, _, rfl⟩
  | _ => cases accepted

/-- The test for a shape selects documents whose places have its relation to its area. A shape
without an area has no place in it. -/
theorem selects_toShape (field : String) (levels : Nat) (value : Value) (test : Test)
    (document : Json) (accepted : toShape field levels value = .ok test) :
    (Query.test field test).selects document =
      (Meaning.shape? value).any fun (area, relation) =>
        area.relates relation (Held.of document field).places := by
  cases value with
  | map entries =>
    obtain ⟨-, kind, given, coordinates, relation, kindRead, found, coordinatesRead, relationRead,
      rfl⟩ := (toShape_eq_ok_iff _ _ _ _).mp accepted
    obtain ⟨type, named, text⟩ := Option.bind_eq_some_iff.mp kindRead
    have placed : Meaning.coordinates? given = some coordinates :=
      coordinatesOf_eq_ok field levels given coordinates coordinatesRead
    have related := relationOf_eq_ok field _ relation relationRead
    rw [Query.selects_test_places _ _ _ rfl]
    simp only [Geo.holds, Geo.Area.ofTest?, Meaning.shape?, named, found, text, placed, related,
      Option.bind_eq_bind, Option.bind_some]
    cases Geo.Area.ofShape? ⟨String.ofList (kind.toList.map Char.toLower), coordinates,
      ((Value.map entries).named? "radius").bind Value.string?⟩ <;> rfl
  | _ => cases accepted

end SearchFilter.Resolve
