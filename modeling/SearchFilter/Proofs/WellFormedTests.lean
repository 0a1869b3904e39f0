import SearchFilter.Proofs.OperatorMeaning

/-!
# Well-formed tests

Some tests have no meaning for an engine: a look-up of what is not a number, a range that ends at a
truth value, a place that is not on the globe, a box that is given upside down, a polygon without an
inside, a circle without a radius. A test without these defects is well formed. Every builder of the
resolver that accepts its operand builds a well-formed test; where an operand is read by several
builders, each of them makes the check.
-/

namespace SearchFilter

/-! ### Literals -/

/-- The literals at the ends of an interval. -/
def Interval.ends (interval : Interval) : List Scalar :=
  interval.lower.scalar?.toList ++ interval.upper.scalar?.toList

/-- The literals that a test compares with the values of its field. -/
def Test.literals : Test → List Scalar
  | .term value => [value]
  | .termSet _ values => values
  | .range interval => interval.ends
  | _ => []

/-- Whether a literal may end a range: a string or a number. -/
def Scalar.CanEndRange (literal : Scalar) : Prop :=
  (∀ truth, literal ≠ .bool truth) ∧ literal.isNaN = false

/-- A literal with a place in an order may end a range. -/
theorem Scalar.canEndRange_of_isOrderable (literal : Scalar)
    (orderable : literal.isOrderable = true) : literal.CanEndRange := by
  cases literal with
  | bool truth => cases orderable
  | int value => exact ⟨nofun, rfl⟩
  | float value => exact ⟨nofun, by simpa [isOrderable, Scalar.isNaN] using orderable⟩
  | str text => exact ⟨nofun, rfl⟩

/-! ### Places -/

/-- Whether a place has a latitude and a longitude on the globe. -/
def GeoPoint.IsOnGlobe (place : GeoPoint) : Prop :=
  Binary64.atMost (.ofInt (-90)) place.lat ∧ place.lat.atMost (.ofInt 90) ∧
    Binary64.atMost (.ofInt (-180)) place.lon ∧ place.lon.atMost (.ofInt 180)

mutual

/-- The points of coordinates, however deep they stand. -/
def Coordinates.points : Coordinates → List GeoPoint
  | .point place => [place]
  | .list items => Coordinates.pointsOfAll items

/-- All points in nested coordinates, in order. -/
def Coordinates.pointsOfAll : List Coordinates → List GeoPoint
  | [] => []
  | item :: rest => item.points ++ Coordinates.pointsOfAll rest

end

/-! ### Tests -/

/-- Whether a test is one that an engine can give a meaning to. -/
def Test.WellFormed : Test → Prop
  | .term value => value.isNaN = false
  | .termSet _ values => ∀ value ∈ values, value.isNaN = false
  | .range interval => ∀ value ∈ interval.ends, value.CanEndRange
  | .regexp _ ignoreCase strict => strict = false → ignoreCase = false
  | .geoDistance center distance => center.IsOnGlobe ∧ (Distance.meters? distance).isSome
  | .geoBoundingBox topLeft bottomRight =>
    topLeft.IsOnGlobe ∧ bottomRight.IsOnGlobe ∧ bottomRight.lat.atMost topLeft.lat
  | .geoPolygon points => 3 ≤ points.length ∧ ∀ point ∈ points, point.IsOnGlobe
  | .geoShape shape _ =>
    (∀ c ∈ shape.kind.toList, c.isUpper = false) ∧
      ∀ point ∈ shape.coordinates.points, point.IsOnGlobe
  | .present | .startsWith _ | .wildcard _ _ => True

/-- A well-formed test that compares with no literal, such as a test on places. -/
structure Test.LiteralFree (test : Test) : Prop where
  wellFormed : test.WellFormed
  noLiteral : test.literals = []

namespace Binary64

/-- A finite number is a number. -/
theorem isNaN_of_isFinite (number : Binary64) (finite : number.isFinite = true) :
    number.isNaN = false := by
  simp only [isFinite, isNaN, bne_iff_ne, ne_eq] at finite ⊢
  simp [finite]

/-- The order with equality compares counts of units, and needs a number on both sides. -/
theorem atMost_iff (x y : Binary64) :
    x.atMost y = true ↔ x.isNaN = false ∧ y.isNaN = false ∧ x.scaled ≤ y.scaled := by
  unfold atMost less equals compare?
  cases x.isNaN <;> cases y.isNaN <;> simp [Int.le_iff_lt_or_eq, Int.compare_eq_lt]

/-- Two numbers of which the first is not below the second are in order the other way round. -/
theorem atMost_of_not_less (x y : Binary64) (xNumber : x.isNaN = false) (yNumber : y.isNaN = false)
    (notLess : ¬x.less y = true) : y.atMost x = true := by
  refine (atMost_iff y x).mpr ⟨yNumber, xNumber, ?_⟩
  simpa [less, compare?, xNumber, yNumber, Int.compare_eq_lt] using notLess

/-- Without its sign a count of units is the magnitude. -/
theorem natAbs_scaled (number : Binary64) : number.scaled.natAbs = number.magnitude := by
  unfold scaled
  split <;> simp

/-- A number lies between two opposite ones exactly if it is at most as far from zero as they
are. -/
theorem between_iff (low high : Binary64) {distance : Nat} (lowNumber : low.isNaN = false)
    (highNumber : high.isNaN = false) (lowScaled : low.scaled = -(distance : Int))
    (highScaled : high.scaled = distance) (number : Binary64) :
    (low.atMost number = true ∧ number.atMost high = true) ↔
      number.isNaN = false ∧ number.magnitude ≤ distance := by
  rw [atMost_iff, atMost_iff, lowScaled, highScaled, ← natAbs_scaled]
  constructor
  · rintro ⟨⟨-, isNumber, above⟩, -, -, below⟩
    exact ⟨isNumber, by omega⟩
  · rintro ⟨isNumber, within⟩
    exact ⟨⟨lowNumber, isNumber, by omega⟩, isNumber, highNumber, by omega⟩

/-- A number that is nearer to zero than what an infinity decodes to is finite. -/
theorem isFinite_of_magnitude_lt (number : Binary64) (isNumber : number.isNaN = false)
    (near : number.magnitude < leadingOne <<< 2046) : number.isFinite = true := by
  by_contra unbounded
  have full : number.biasedExponent = 2047 := by simpa [isFinite] using unbounded
  have empty : number.fraction = 0 := by simpa [isNaN, full] using isNumber
  have far : number.magnitude = leadingOne <<< 2046 := by
    rw [magnitude, if_neg (by rw [full]; decide), full, empty]
  exact absurd near (far ▸ Nat.lt_irrefl _)

end Binary64

/-- A place is on the globe exactly if its coordinates are at most so many degrees from zero. -/
theorem GeoPoint.isOnGlobe_iff (place : GeoPoint) :
    place.IsOnGlobe ↔
      (place.lat.isNaN = false ∧ place.lat.magnitude ≤ 90 * Binary64.one) ∧
        place.lon.isNaN = false ∧ place.lon.magnitude ≤ 180 * Binary64.one := by
  rw [← Binary64.between_iff (.ofInt (-90)) (.ofInt 90) (by decide +kernel) (by decide +kernel)
      (by decide +kernel) (by decide +kernel),
    ← Binary64.between_iff (.ofInt (-180)) (.ofInt 180) (by decide +kernel) (by decide +kernel)
      (by decide +kernel) (by decide +kernel), and_assoc]
  rfl

/-- A point on the globe has finite parts. -/
theorem GeoPoint.IsOnGlobe.isFinite {place : GeoPoint} (onGlobe : place.IsOnGlobe) :
    place.lat.isFinite = true ∧ place.lon.isFinite = true := by
  obtain ⟨⟨latNumber, latNear⟩, lonNumber, lonNear⟩ := place.isOnGlobe_iff.mp onGlobe
  have near : 180 * Binary64.one < Binary64.leadingOne <<< 2046 := by decide +kernel
  have nearer : 90 * Binary64.one < Binary64.leadingOne <<< 2046 := by decide +kernel
  exact ⟨Binary64.isFinite_of_magnitude_lt _ latNumber (Nat.lt_of_le_of_lt latNear nearer),
    Binary64.isFinite_of_magnitude_lt _ lonNumber (Nat.lt_of_le_of_lt lonNear near)⟩

namespace Resolve

open Check (Ensures bind_eq_ok_iff)

/-! ### Builders of tests on values -/

/-- A literal that may be looked up is a number, or none at all. -/
theorem matchable_wellFormed (field : String) (literal : Scalar) :
    Ensures (matchable field literal) fun accepted => accepted.isNaN = false := by
  unfold matchable
  split
  · exact .of_error _
  · exact .of_ok _ (eq_false_of_ne_true ‹_›)

/-- The test for a literal is well formed. -/
theorem term_wellFormed (field : String) (literal : Scalar) :
    Ensures (term field literal) Test.WellFormed := by
  intro test built
  obtain ⟨accepted, passed, rfl⟩ := (Check.map_eq_ok_iff _ _ _).mp built
  exact matchable_wellFormed field literal accepted passed

/-- The literals of an accepted sequence may all be looked up. -/
theorem literals_wellFormed (field : String) (items : List (Option Scalar)) :
    Ensures (literals field items) fun values => ∀ value ∈ values, value.isNaN = false := by
  intro values passed value member
  obtain ⟨literal, -, accepted⟩ := Check.exists_of_mem_of_mapM_eq_ok _ _ _ passed value member
  exact matchable_wellFormed field literal value accepted

/-- An accepted end of a range may end one. -/
theorem orderableEnd_wellFormed (field : String) (bound : Bound)
    (passed : orderableEnd field bound = .ok ()) :
    ∀ literal ∈ bound.scalar?.toList, literal.CanEndRange := by
  unfold orderableEnd at passed
  cases ended : bound.scalar? with
  | none => exact fun _ member => absurd member List.not_mem_nil
  | some literal =>
    rw [ended] at passed
    refine List.forall_mem_singleton.mpr (literal.canEndRange_of_isOrderable ?_)
    by_contra unordered
    simp [unordered] at passed

/-- The test for an interval is well formed. -/
theorem inside_wellFormed (field : String) (interval : Interval) :
    Ensures (inside field interval) Test.WellFormed := by
  intro test built
  obtain ⟨_, lowerPassed, remaining⟩ := (bind_eq_ok_iff _ _ _).mp built
  obtain ⟨_, upperPassed, last⟩ := (bind_eq_ok_iff _ _ _).mp remaining
  obtain rfl := (Check.pure_eq_ok_iff _ _).mp last
  exact List.forall_mem_append.mpr
    ⟨orderableEnd_wellFormed field _ lowerPassed, orderableEnd_wellFormed field _ upperPassed⟩

/-- An accepted operand of a bound may end a range. -/
theorem boundOperand_wellFormed (field : String) (op : Operator) (value : Value) :
    Ensures (boundOperand field op value) Scalar.CanEndRange := by
  unfold boundOperand
  split
  · split
    · exact .of_ok _ (Scalar.canEndRange_of_isOrderable _ ‹_›)
    · exact .of_error _
  · exact .of_error _

/-! ### Builders of tests on places -/

/-- An accepted part of a point is finite. -/
theorem coordinate_finite (field part : String) (value : Option Value) :
    Ensures (coordinate field part value) fun number => number.isFinite = true := by
  unfold coordinate
  split
  · split
    · exact .of_ok _ ‹_›
    · exact .of_error _
  · exact .of_error _

/-- An accepted point is on the globe. -/
theorem onGlobe_wellFormed (field : String) (lat lon : Binary64) (latFinite : lat.isFinite = true)
    (lonFinite : lon.isFinite = true) : Ensures (onGlobe field lat lon) GeoPoint.IsOnGlobe := by
  unfold onGlobe
  split
  · rename_i within
    obtain ⟨latWithin, lonWithin⟩ := Bool.and_eq_true_iff.mp within
    exact .of_ok _ ((GeoPoint.isOnGlobe_iff _).mpr
      ⟨⟨Binary64.isNaN_of_isFinite lat latFinite, of_decide_eq_true latWithin⟩,
        Binary64.isNaN_of_isFinite lon lonFinite, of_decide_eq_true lonWithin⟩)
  · exact .of_error _

/-- Two parts of a point, in the order in which they are read. -/
theorem parts_wellFormed (field latPart lonPart : String) (lat lon : Option Value) :
    Ensures (do onGlobe field (← coordinate field latPart lat) (← coordinate field lonPart lon))
      GeoPoint.IsOnGlobe :=
  .bind _ _ (coordinate_finite field latPart lat) fun _ latFinite =>
    .bind _ _ (coordinate_finite field lonPart lon) fun _ lonFinite =>
      onGlobe_wellFormed field _ _ latFinite lonFinite

/-- An accepted point in either form is on the globe. -/
theorem point_wellFormed (field : String) (value : Value) :
    Ensures (point field value) GeoPoint.IsOnGlobe := by
  unfold point
  split
  · exact parts_wellFormed field _ _ _ _
  · exact parts_wellFormed field _ _ _ _
  · exact .of_error _

/-- An accepted point of a shape is on the globe. -/
theorem shapePoint_wellFormed (field : String) (value : Value) :
    Ensures (shapePoint field value) GeoPoint.IsOnGlobe := by
  unfold shapePoint
  split
  · exact parts_wellFormed field _ _ _ _
  · exact point_wellFormed field _

/-- The points of nested coordinates are on the globe if those of each item are. -/
theorem pointsOfAll_wellFormed {items : List Value} {members : List Coordinates}
    {read : Value → Except CompileError Coordinates}
    (each : ∀ item, Ensures (read item) fun member => ∀ point ∈ member.points, point.IsOnGlobe)
    (accepted : items.mapM read = .ok members) :
    ∀ point ∈ Coordinates.pointsOfAll members, point.IsOnGlobe := by
  have pointwise := (Check.mapM_eq_ok_iff _ _ _).mp accepted
  clear accepted
  induction pointwise with
  | nil => exact fun _ member => absurd member List.not_mem_nil
  | cons first _ inductionHypothesis =>
    rw [Coordinates.pointsOfAll]
    exact List.forall_mem_append.mpr ⟨each _ _ first, inductionHypothesis⟩

/-- Coordinates are well formed however deep they nest. -/
theorem coordinatesOf_wellFormed (field : String) (levels : Nat) (value : Value) :
    Ensures (coordinatesOf field levels value) fun coordinates =>
      ∀ point ∈ coordinates.points, point.IsOnGlobe := by
  have single (check : Except CompileError GeoPoint)
      (placed : Ensures check GeoPoint.IsOnGlobe) :
      Ensures (check.map Coordinates.point) fun coordinates =>
        ∀ point ∈ coordinates.points, point.IsOnGlobe := by
    intro coordinates accepted
    obtain ⟨place, read, rfl⟩ := (Check.map_eq_ok_iff _ _ _).mp accepted
    exact List.forall_mem_singleton.mpr (placed place read)
  induction levels generalizing value with
  | zero => exact .of_error _
  | succ levels inductionHypothesis =>
    cases value with
    | map entries => exact single _ (shapePoint_wellFormed field _)
    | list items =>
      unfold coordinatesOf
      split
      · exact single _ (shapePoint_wellFormed field _)
      · intro coordinates accepted
        obtain ⟨members, read, rfl⟩ := (Check.map_eq_ok_iff _ _ _).mp accepted
        exact pointsOfAll_wellFormed inductionHypothesis read
    | _ => exact .of_error _

/-- The test around a point is well formed and has no literals: its radius has been read. -/
theorem aroundPoint_literalFree (field : String) (center : Value) (radius : Option Value) :
    Ensures (aroundPoint field center radius) Test.LiteralFree := by
  intro test accepted
  obtain ⟨place, read, known, rfl⟩ := (aroundPoint_eq_ok_iff _ _ _ _).mp accepted
  exact ⟨⟨point_wellFormed field center place read, known⟩, rfl⟩

/-- The test for a box is well formed: its corners stand the right way up. -/
theorem inBox_literalFree (field : String) (topLeft bottomRight : GeoPoint)
    (first : topLeft.IsOnGlobe) (second : bottomRight.IsOnGlobe) :
    Ensures (inBox field topLeft bottomRight) Test.LiteralFree := by
  unfold inBox
  split
  · exact .of_error _
  · rename_i upright
    have northNumber := (topLeft.isOnGlobe_iff.mp first).1.1
    have southNumber := (bottomRight.isOnGlobe_iff.mp second).1.1
    exact .of_ok _
      ⟨⟨first, second, Binary64.atMost_of_not_less _ _ northNumber southNumber upright⟩, rfl⟩

/-- The box of a falling diagonal is well formed. -/
theorem boxFromTopLeft_literalFree (field : String) (corner opposite : Value) :
    Ensures (boxFromTopLeft field corner opposite) Test.LiteralFree :=
  .bind _ _ (point_wellFormed field corner) fun _ first =>
    .bind _ _ (point_wellFormed field opposite) fun _ second =>
      inBox_literalFree field _ _ first second

/-- The corners that are not given have their parts from those that are. -/
theorem boxFromTopRight_literalFree (field : String) (corner opposite : Value) :
    Ensures (boxFromTopRight field corner opposite) Test.LiteralFree :=
  .bind _ _ (point_wellFormed field corner) fun _ first =>
    .bind _ _ (point_wellFormed field opposite) fun _ second =>
      inBox_literalFree field _ _ ⟨first.1, first.2.1, second.2.2⟩ ⟨second.1, second.2.1, first.2.2⟩

/-- The test for a polygon is well formed: it has at least three points. -/
theorem inPolygon_literalFree (capabilities : Capabilities) (field : String) (value : Value)
    (test : Test) (warnings : List Warning)
    (done : inPolygon capabilities field value = .done test warnings) : test.LiteralFree := by
  obtain ⟨corners, points, -, enough, read, rfl, -⟩ := (inPolygon_eq_done_iff _ _ _ _ _).mp done
  refine ⟨⟨?_, fun place member => ?_⟩, rfl⟩
  · rwa [← ((Check.mapM_eq_ok_iff _ _ _).mp read).length_eq]
  · obtain ⟨corner, -, placed⟩ := Check.exists_of_mem_of_mapM_eq_ok _ _ _ read place member
    exact point_wellFormed field corner place placed

/-- No character is an upper-case letter once it is brought into lower case. -/
theorem isUpper_toLower (c : Char) : c.toLower.isUpper = false := by
  unfold Char.toLower Char.isUpper
  split
  · rename_i upper
    have low := UInt32.le_iff_toNat_le.mp upper.1
    have high := UInt32.le_iff_toNat_le.mp upper.2
    simp only [ge_iff_le, decide_eq_false_iff_not, not_and, UInt32.le_iff_toNat_le, Char.reduceVal,
      UInt32.reduceToNat, Char.toNat_val, UInt32.reduceSub, UInt32.toNat_add, Nat.reducePow,
      Nat.not_le] at low high ⊢
    omega
  · rename_i noUpper
    exact decide_eq_false noUpper

/-- The test for a shape is well formed, and all of its points are on the globe. -/
theorem toShape_literalFree (field : String) (levels : Nat) (value : Value) :
    Ensures (toShape field levels value) Test.LiteralFree := by
  cases value with
  | map entries =>
    intro test accepted
    obtain ⟨-, kind, given, coordinates, relation, -, -, read, -, rfl⟩ :=
      (toShape_eq_ok_iff _ _ _ _).mp accepted
    have placed := coordinatesOf_wellFormed field levels given coordinates read
    refine ⟨⟨fun c member => ?_, placed⟩, rfl⟩
    rw [String.toList_ofList] at member
    obtain ⟨given, -, rfl⟩ := List.mem_map.mp member
    exact isUpper_toLower given
  | _ => exact .of_error _

end Resolve

end SearchFilter
