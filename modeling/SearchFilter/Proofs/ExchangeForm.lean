import SearchFilter.Query.Form
import SearchFilter.Proofs.Leaves
import SearchFilter.Proofs.Rendering
import SearchFilter.Proofs.WellFormedTests

/-!
# Reading the exchange form back

The exchange form names the variants of a tree, of a group and of a bound, but neither those of a
literal nor those of coordinates: these are told apart by trying one variant after the other. Here
every tree is found to be read back as itself. A literal is written with the mark of its kind, so
that a number is taken for an integer only if it was one; the members of a list of coordinates are
written as objects and arrays, never as numbers, so that a list of two is not taken for a point.
What has no spelling is kept out: a floating-point number that is infinite or not a number, and an
integer of more than sixty-four bits.
-/

namespace SearchFilter

/-- Whether a literal has a spelling of its own in the exchange form. -/
def Scalar.isSpellable : Scalar → Bool
  | .int value => Number.fitsSigned value
  | .float value => value.isFinite
  | .bool _ | .str _ => true

/-- A literal is read back as itself. The variants are tried in an order in which none takes what
belongs to a later one. -/
theorem Scalar.ofJson?_toJson (value : Scalar) (spellable : value.isSpellable = true) :
    Scalar.ofJson? value.toJson = some value := by
  cases value with
  | int value =>
    have signed : Number.fitsSigned value = true := spellable
    simp [toJson, ofJson?, Json.integer, Number.signed?, signed]
  | float value =>
    have finite : value.isFinite = true := spellable
    simp [toJson, ofJson?, Json.real, finite, Number.signed?, Number.toBinary64]
  | _ => rfl

/-- A bound is read back as itself if its literal is. -/
theorem Bound.ofJson?_toJson (bound : Bound)
    (spellable : ∀ value ∈ bound.scalar?, value.isSpellable = true) :
    Bound.ofJson? bound.toJson = some bound := by
  cases bound with
  | unbounded => rfl
  | included value =>
    simp [toJson, ofJson?, Json.variant?, Scalar.ofJson?_toJson value (spellable value rfl)]
  | excluded value =>
    simp [toJson, ofJson?, Json.variant?, Scalar.ofJson?_toJson value (spellable value rfl)]

/-- A point with finite coordinates is read back as itself. -/
theorem GeoPoint.ofJson?_toJson (point : GeoPoint)
    (finite : ∀ number ∈ point.floats, number.isFinite = true) :
    GeoPoint.ofJson? point.toJson = some point := by
  obtain ⟨lat, lon⟩ := point
  have latFinite : lat.isFinite = true := finite lat (by simp [floats])
  have lonFinite : lon.isFinite = true := finite lon (by simp [floats])
  simp [toJson, ofJson?, Json.record?, Entries.find?, Json.real, latFinite, lonFinite,
    Json.binary64?, Number.toBinary64]

/-- Coordinates are never written as a number, so no list of them is taken for a point. -/
theorem Coordinates.binary64?_toJson (coordinates : Coordinates) :
    coordinates.toJson.binary64? = none := by
  cases coordinates <;> rfl

/-- A list of coordinates is not read as a point. Points are written as objects, and in a list of
two none is a number. -/
theorem Coordinates.ofJson?_list (items : List Coordinates) :
    GeoPoint.ofJson? (.array (Coordinates.listToJson items)) = none := by
  match items with
  | [] => rfl
  | [_] => rfl
  | [first, second] =>
    simp [listToJson, GeoPoint.ofJson?, Json.record?, first.binary64?_toJson]
  | _ :: _ :: _ :: _ => simp [listToJson, GeoPoint.ofJson?, Json.record?]

mutual

/-- Coordinates are read back as themselves, at any depth. -/
theorem Coordinates.ofJson?_toJson : (coordinates : Coordinates) →
    (∀ number ∈ coordinates.floats, number.isFinite = true) →
      Coordinates.ofJson? coordinates.toJson = some coordinates
  | .point value, finite => by
    have read := GeoPoint.ofJson?_toJson value finite
    rw [Coordinates.toJson, Coordinates.ofJson?, read, Option.map_some]
    intro items same
    cases same
  | .list items, finite => by
    rw [Coordinates.toJson, Coordinates.ofJson?, Coordinates.ofJson?_list items]
    dsimp only
    rw [Coordinates.listOfJson?_listToJson items finite, Option.map_some]

/-- Nested coordinates are read back one by one. -/
theorem Coordinates.listOfJson?_listToJson : (items : List Coordinates) →
    (∀ number ∈ Coordinates.allFloats items, number.isFinite = true) →
      Coordinates.listOfJson? (Coordinates.listToJson items) = some items
  | [], _ => rfl
  | item :: rest, finite => by
    rw [Coordinates.allFloats] at finite
    obtain ⟨here, later⟩ := List.forall_mem_append.mp finite
    rw [Coordinates.listToJson, Coordinates.listOfJson?, Coordinates.ofJson?_toJson item here,
      Coordinates.listOfJson?_listToJson rest later]
    rfl

end

/-- A shape is read back as itself, without a radius too. -/
theorem GeoShape.ofJson?_toJson (shape : GeoShape)
    (finite : ∀ number ∈ shape.coordinates.floats, number.isFinite = true) :
    GeoShape.ofJson? shape.toJson = some shape := by
  obtain ⟨kind, coordinates, radius⟩ := shape
  have read := Coordinates.ofJson?_toJson coordinates finite
  cases radius <;> simp [toJson, ofJson?, Json.record?, Entries.find?, read]

/-- The values of entries with distinct keys are found under their keys. -/
theorem Entries.map_find?_keys {α : Type} (entries : List (String × α))
    (distinct : (keys entries).Nodup) :
    (keys entries).map (fun key => find? key entries) = entries.map fun entry => some entry.2 := by
  rw [keys, List.map_map]
  refine List.map_congr_left fun entry member => ?_
  exact (mem_iff_find?_eq_some entry.1 entry.2 entries distinct).mp member

namespace Test

/-- A test whose members have distinct names is read from their contents. -/
theorem ofJson?_typed (type : String) (members : List (String × Json))
    (named : memberNames type = Entries.keys members)
    (distinct : ("type" :: memberNames type).Nodup) :
    Test.ofJson? (.object (("type", .string type) :: members)) =
      ofMembers? type (members.map Prod.snd) := by
  obtain ⟨fresh, others⟩ := List.nodup_cons.mp (named ▸ distinct)
  have typed : type? (.object (("type", .string type) :: members)) =
      some (type, .object (("type", .string type) :: members)) := by
    simp [type?, Entries.find?]
  have found : (Entries.keys members).map
      (fun name => Entries.find? name (("type", .string type) :: members)) =
        members.map fun member => some member.2 := by
    rw [← Entries.map_find?_keys members others]
    exact List.map_congr_left fun name member => if_neg (ne_of_mem_of_not_mem member fresh).symm
  have contents := mapM_map_eq_some some id (members.map Prod.snd) fun _ _ => rfl
  rw [List.map_map] at contents
  rw [Test.ofJson?, typed]
  simp only [Option.bind_eq_bind, Option.bind_some, Json.record?, named, found]
  exact congrArg (Option.bind · (ofMembers? type)) contents

/-- A test is read back from its members. -/
theorem ofJson?_toEntries (test : Test)
    (finite : ∀ number ∈ test.floats, number.isFinite = true)
    (spellable : ∀ value ∈ test.literals, value.isSpellable = true) :
    Test.ofJson? (.object test.toEntries) = some test := by
  -- Reading goes by the type that stands first, so each case first picks its reader and then reads
  -- the members back one by one.
  cases test with
  | term value =>
    refine (ofJson?_typed "term" [("value", value.toJson)] rfl (by decide)).trans ?_
    simp [ofMembers?, Scalar.ofJson?_toJson value (spellable value (List.mem_singleton_self _))]
  | termSet mode values =>
    refine (ofJson?_typed "term_set" [("mode", _), ("values", _)] rfl (by decide)).trans ?_
    have read := mapM_map_eq_some Scalar.toJson Scalar.ofJson? values fun value member =>
      Scalar.ofJson?_toJson value (spellable value member)
    have named : (Json.string mode.name).memberName?.bind SetMode.ofName? = some mode := by
      cases mode <;> decide
    simp [ofMembers?, named, read]
  | range interval =>
    obtain ⟨lower, upper⟩ := interval
    refine (ofJson?_typed "range" [("lower", _), ("upper", _)] rfl (by decide)).trans ?_
    have lowerRead := Bound.ofJson?_toJson lower fun value isEnd =>
      spellable value (by simp [literals, Interval.ends, Option.mem_def.mp isEnd])
    have upperRead := Bound.ofJson?_toJson upper fun value isEnd =>
      spellable value (by simp [literals, Interval.ends, Option.mem_def.mp isEnd])
    simp [ofMembers?, lowerRead, upperRead]
  | present | startsWith _ | wildcard _ _ | regexp _ _ _ => rfl
  | geoDistance center distance =>
    refine (ofJson?_typed "geo_distance" [("center", _), ("distance", _)] rfl
      (by decide)).trans ?_
    simp [ofMembers?, GeoPoint.ofJson?_toJson center finite]
  | geoBoundingBox topLeft bottomRight =>
    refine (ofJson?_typed "geo_bounding_box" [("top_left", _), ("bottom_right", _)] rfl
      (by decide)).trans ?_
    obtain ⟨topLeftFinite, bottomRightFinite⟩ := List.forall_mem_append.mp finite
    simp [ofMembers?, GeoPoint.ofJson?_toJson topLeft topLeftFinite,
      GeoPoint.ofJson?_toJson bottomRight bottomRightFinite]
  | geoPolygon points =>
    refine (ofJson?_typed "geo_polygon" [("points", _)] rfl (by decide)).trans ?_
    have read := mapM_map_eq_some GeoPoint.toJson GeoPoint.ofJson? points fun point member =>
      GeoPoint.ofJson?_toJson point fun number given =>
        finite number (List.mem_flatMap.mpr ⟨point, member, given⟩)
    simp [ofMembers?, read]
  | geoShape shape relation =>
    refine (ofJson?_typed "geo_shape" [("shape", _), ("relation", _)] rfl
      (by decide)).trans ?_
    have named : (Json.string relation.name).memberName?.bind ShapeRelation.ofName? =
        some relation := by
      cases relation <;> decide
    simp [ofMembers?, GeoShape.ofJson?_toJson shape finite, named]

end Test

/-- Whether the numbers of a predicate have a spelling of their own. -/
def Predicate.IsSpellable (predicate : Predicate) : Prop :=
  (∀ number ∈ predicate.test.floats, number.isFinite = true) ∧
    ∀ value ∈ predicate.test.literals, value.isSpellable = true

/-- A predicate is read back as itself. -/
theorem Predicate.ofJson?_toJson (predicate : Predicate) (spellable : predicate.IsSpellable) :
    Predicate.ofJson? predicate.toJson = some predicate := by
  obtain ⟨field, negated, test⟩ := predicate
  have read := Test.ofJson?_toEntries test spellable.1 spellable.2
  simp [toJson, ofJson?, Json.record?, Entries.find?, read]

/-- The value of an integer, and nothing for any other literal. -/
def Scalar.integer? : Scalar → Option Int
  | .int value => some value
  | _ => none

/-- The integers in a test. -/
def Test.integers (test : Test) : List Int := test.literals.filterMap Scalar.integer?

/-- A literal that is a floating-point number is among those of its test. -/
theorem Test.mem_floats_of_mem_literals (test : Test) (number : Binary64)
    (member : .float number ∈ test.literals) : number ∈ test.floats := by
  have written (values : List Scalar) (listed : .float number ∈ values) :
      number ∈ values.flatMap Scalar.floats :=
    List.mem_flatMap.mpr ⟨.float number, listed, List.mem_singleton_self _⟩
  cases test with
  | term value => simpa [floats] using written [value] member
  | termSet mode values => exact written values member
  | range interval =>
    rw [floats, Bound.floats, Bound.floats, ← List.flatMap_append]
    exact written interval.ends member
  | _ => cases member

namespace Query

/-- A group is recognised by the form that is written for it. -/
theorem groupParts?_toJson (connective : Connective) (members : List Json) :
    groupParts? (.object [("op", .string connective.name), ("children", .array members)]) =
      some (connective, members) := by
  have named : (Json.string connective.name).name?.bind Connective.ofName? = some connective := by
    cases connective <;> decide
  simp [groupParts?, Json.record?, Entries.find?, named]

mutual

/-- A tree is read back as itself if all of its predicates can be spelled. The induction is on the
tree. -/
theorem ofJson?_toJson : (query : Query) → (∀ predicate ∈ query.leaves, predicate.IsSpellable) →
    Query.ofJson? query.toJson = some query
  | .matchAll, _ => by
    rw [toJson, ofJson?]
    rfl
  | .leaf predicate, spellable => by
    have read :=
      Predicate.ofJson?_toJson predicate (spellable predicate (List.mem_singleton_self _))
    rw [toJson, ofJson?, if_neg (by decide), if_pos rfl, read, Option.map_some]
    exact fun isNull => nomatch isNull
  | .group connective members, spellable => by
    have read := listOfJson?_listToJson members spellable
    rw [toJson, ofJson?, if_pos rfl]
    · split
      · rename_i found parts same
        rw [groupParts?_toJson] at same
        obtain ⟨rfl, rfl⟩ := Prod.mk.inj (Option.some.inj same)
        rw [read, Option.map_some]
      · rename_i none
        rw [groupParts?_toJson] at none
        cases none
    · exact fun isNull => nomatch isNull

/-- The members of a group are read back one by one. -/
theorem listOfJson?_listToJson : (queries : List Query) →
    (∀ predicate ∈ leavesOfAll queries, predicate.IsSpellable) →
      listOfJson? (listToJson queries) = some queries
  | [], _ => by
    rw [listToJson, listOfJson?]
  | query :: rest, spellable => by
    rw [leavesOfAll] at spellable
    obtain ⟨here, later⟩ := List.forall_mem_append.mp spellable
    rw [listToJson, listOfJson?, ofJson?_toJson query here, listOfJson?_listToJson rest later]
    rfl

end

end Query

/-- A tree of finite numbers and of integers of sixty-four bits is read back as itself. So the tree
that is read back has the same body and selects the same documents. -/
theorem Query.reread_of_finite (query : Query)
    (finite : ∀ predicate ∈ query.leaves, ∀ number ∈ predicate.test.floats, number.isFinite = true)
    (signed : ∀ predicate ∈ query.leaves, ∀ integer ∈ predicate.test.integers,
      Number.fitsSigned integer = true) :
    Query.ofJson? query.toJson = some query ∧
      ∀ reread, Query.ofJson? query.toJson = some reread → reread.body = query.body ∧
        ∀ document, reread.selects document = query.selects document := by
  have spellable : ∀ predicate ∈ query.leaves, predicate.IsSpellable := by
    refine fun predicate member => ⟨finite predicate member, fun value listed => ?_⟩
    cases value with
    | int value =>
      exact signed predicate member value (List.mem_filterMap.mpr ⟨.int value, listed, rfl⟩)
    | float number =>
      exact finite predicate member number (predicate.test.mem_floats_of_mem_literals number listed)
    | bool _ | str _ => rfl
  have same := Query.ofJson?_toJson query spellable
  refine ⟨same, fun reread read => ?_⟩
  obtain rfl := Option.some.inj (same.symm.trans read)
  exact ⟨rfl, fun _ => rfl⟩

/-- An integral floating-point number beside the integer, a list of two coordinates, an empty one
and a shape without a radius, in nested groups. -/
theorem Query.reread_of_finite_of_nested :
    let place : Coordinates := .point ⟨.ofInt 1, .ofInt 2⟩
    let pair : GeoShape := ⟨"linestring", .list [place, .list []], none⟩
    let tree : Query := .group .not [.group .or
      [.leaf ⟨"f", true, .termSet .all [.int 5, .float (.ofInt 5), .str "5", .bool true]⟩,
        .leaf ⟨"f", false, .range ⟨.included (.float (.ofInt 5)), .excluded (.int 5)⟩⟩,
        .leaf ⟨"g", false, .geoShape pair .within⟩, .matchAll, .group .and []]]
    Query.ofJson? tree.toJson = some tree := by
  intro place pair tree
  exact (Query.reread_of_finite tree (by decide +kernel) (by decide +kernel)).1

end SearchFilter
