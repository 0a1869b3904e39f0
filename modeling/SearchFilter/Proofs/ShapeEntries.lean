import SearchFilter.Proofs.OperatorOrder
import SearchFilter.Proofs.ShapeReturn

/-!
# The entries of a shape in its body

A condition on a shape is refused, or its body carries the entries of the operand one by one: the
type in lower case, the coordinates point for point with the longitude first, and the relation. The
one exception is a radius that is no text. It is not refused, and the body is left without a radius.
-/

namespace SearchFilter

open Check (bind_eq_ok_iff map_eq_ok_iff mapM_eq_ok_iff)

/-! ### Refused operands -/

namespace Check

variable {α β : Type}

/-- Whether a check fails only because an operand on this field is refused. -/
def Refuses (field : String) (check : Except CompileError α) : Prop :=
  ∀ error, check = .error error → ∃ defect, error = .invalidOperand field defect

namespace Refuses

variable {field : String}

/-- A check that passes does not fail at all. -/
theorem of_ok (value : α) : Refuses field (.ok value) := by
  intro error failed
  cases failed

/-- A defect of an operand is refused for its field. -/
theorem of_defect (defect : Defect) :
    Refuses field (.error (.invalidOperand field defect) : Except CompileError α) := by
  intro error failed
  exact ⟨defect, (Except.error.inj failed).symm⟩

/-- Checks in sequence refuse for the field if each of them does. -/
theorem bind {check : Except CompileError α} {next : α → Except CompileError β}
    (first : Refuses field check) (second : ∀ value, Refuses field (next value)) :
    Refuses field (check >>= next) := by
  cases check with
  | error error =>
    intro given failed
    cases failed
    exact first error rfl
  | ok value => exact second value

/-- Changing the result changes no error. -/
theorem map {check : Except CompileError α} (change : α → β) (first : Refuses field check) :
    Refuses field (check.map change) := by
  cases check with
  | error error =>
    intro given failed
    cases failed
    exact first error rfl
  | ok value => exact of_ok _

/-- A traversal refuses for the field if its check does. -/
theorem mapM {check : α → Except CompileError β} (each : ∀ item, Refuses field (check item))
    (items : List α) : Refuses field (items.mapM check) := by
  induction items with
  | nil => exact of_ok []
  | cons item rest inductionHypothesis =>
    rw [List.mapM_cons]
    exact .bind (each item) fun _ => .bind inductionHypothesis fun _ => of_ok _

end Refuses

end Check

namespace Resolve

open Check (Refuses)

section Refusing

variable (field : String)

/-- A field of another type is refused by its name. -/
theorem requireGeo_refuses (setting : Setting) (op : Operator) :
    Refuses field (requireGeo setting field op) := by
  unfold requireGeo
  split
  · split
    · exact .of_ok ()
    · exact .of_defect _
  · exact .of_ok ()

/-- A part that is no finite number is refused for the field. -/
theorem coordinate_refuses (part : String) (value : Option Value) :
    Refuses field (coordinate field part value) := by
  unfold coordinate
  split
  · split
    · exact .of_ok _
    · exact .of_defect _
  · exact .of_defect _

/-- A place outside the globe is refused for the field. -/
theorem onGlobe_refuses (lat lon : Binary64) : Refuses field (onGlobe field lat lon) := by
  unfold onGlobe
  split
  · exact .of_ok _
  · exact .of_defect _

/-- A point of neither form is refused for the field. -/
theorem point_refuses (value : Value) : Refuses field (point field value) := by
  have placed (latPart lonPart : String) (lat lon : Option Value) :
      Refuses field (coordinate field latPart lat >>= fun lat =>
        coordinate field lonPart lon >>= fun lon => onGlobe field lat lon) :=
    .bind (coordinate_refuses field _ _) fun _ => .bind (coordinate_refuses field _ _) fun _ =>
      onGlobe_refuses field _ _
  unfold point
  split
  · exact placed _ _ _ _
  · exact placed _ _ _ _
  · exact .of_defect _

/-- A point of a shape of neither form is refused for the field. -/
theorem shapePoint_refuses (value : Value) : Refuses field (shapePoint field value) := by
  unfold shapePoint
  split
  · exact .bind (coordinate_refuses field _ _) fun _ => .bind (coordinate_refuses field _ _)
      fun _ => onGlobe_refuses field _ _
  · exact point_refuses field _

/-- Coordinates that nest too deep or have no form are refused for the field. -/
theorem coordinatesOf_refuses (levels : Nat) (value : Value) :
    Refuses field (coordinatesOf field levels value) := by
  induction levels generalizing value with
  | zero => exact .of_defect _
  | succ levels inductionHypothesis =>
    cases value with
    | map entries => exact (shapePoint_refuses field _).map _
    | list items =>
      unfold coordinatesOf
      split
      · exact (shapePoint_refuses field _).map _
      · exact (Refuses.mapM inductionHypothesis items).map _
    | _ => exact .of_defect _

/-- An unknown relation is refused for the field. -/
theorem relationOf_refuses (value : Option Value) : Refuses field (relationOf field value) := by
  unfold relationOf
  split
  · exact .of_ok _
  · split
    · exact .of_ok _
    · exact .of_defect _

/-- Whatever is wrong with a shape is refused for the field. -/
theorem toShape_refuses (levels : Nat) (value : Value) :
    Refuses field (toShape field levels value) := by
  cases value with
  | map entries =>
    unfold toShape
    cases foreign : entries.find? fun entry => !isShapeKey entry.1 with
    | some entry =>
      simp only [foreign]
      exact .of_defect _
    | none =>
      cases typed : ((Value.map entries).named? "type").bind Value.string? with
      | none =>
        simp only [foreign, typed]
        exact .of_defect _
      | some kind =>
        cases placed : (Value.map entries).named? "coordinates" with
        | none =>
          simp only [foreign, typed, placed, pure_bind]
          exact .of_defect _
        | some given =>
          simp only [foreign, typed, placed, pure_bind]
          exact .bind (coordinatesOf_refuses field levels given) fun _ =>
            .bind (relationOf_refuses field _) fun _ => .of_ok _
  | _ => exact .of_defect _

end Refusing

end Resolve

/-! ### Coordinates in bodies -/

namespace Resolve

/-- A point in either form and its rendering, the longitude before the latitude. -/
inductive PointCarried : Value → Json → Prop
  | intro {lat lon value : Value} {place : GeoPoint} (form : PlaceForm [lon, lat] lat lon value)
      (latitude : IsAngle 90 lat place.lat) (longitude : IsAngle 180 lon place.lon) :
      PointCarried value
        (.array [.number (.real place.lon), .number (.real place.lat)])

/-- Coordinates that nest at most so many levels deep and their rendering, which nests in the same
way. -/
def Carried : (levels : Nat) → Value → Json → Prop
  | 0, _, _ => False
  | levels + 1, value, rendering =>
    PointCarried value rendering ∨
      ∃ items renderings, value = .list items ∧ rendering = .array renderings ∧
        List.Forall₂ (Carried levels) items renderings

/-- What is no point in either form is not accepted as one. -/
theorem exists_form_of_shapePoint (field : String) (value : Value) (place : GeoPoint)
    (accepted : shapePoint field value = .ok place) :
    ∃ lat lon, PlaceForm [lon, lat] lat lon value := by
  cases value with
  | list items =>
    match items with
    | [lon, lat] => exact ⟨lat, lon, .pair⟩
    | [] | [_] | _ :: _ :: _ :: _ => cases accepted
  | map entries =>
    obtain ⟨latitude, latitudeRead, remaining⟩ := (bind_eq_ok_iff _ _ _).mp accepted
    obtain ⟨longitude, longitudeRead, -⟩ := (bind_eq_ok_iff _ _ _).mp remaining
    obtain ⟨lat, latNamed, -⟩ :=
      Option.bind_eq_some_iff.mp (coordinate_eq_ok _ _ _ _ latitudeRead)
    obtain ⟨lon, lonNamed, -⟩ :=
      Option.bind_eq_some_iff.mp (coordinate_eq_ok _ _ _ _ longitudeRead)
    exact ⟨lat, lon, .map entries latNamed lonNamed⟩
  | _ => cases accepted

/-- The body of a point on the globe is a pair of numbers with the longitude first. -/
theorem body_point {place : GeoPoint} (latFinite : place.lat.isFinite = true)
    (lonFinite : place.lon.isFinite = true) :
    (Coordinates.point place).body =
      .array [.number (.real place.lon), .number (.real place.lat)] := by
  rw [Coordinates.body, Json.real, Json.real, if_pos latFinite, if_pos lonFinite]

section Coordinates

variable (field : String)

/-- A point of a shape is accepted with a rendering exactly if the rendering carries its two
parts. -/
theorem shapePoint_carried (value : Value) (rendering : Json) :
    (∃ place, shapePoint field value = .ok place ∧ (Coordinates.point place).body = rendering) ↔
      PointCarried value rendering := by
  constructor
  · rintro ⟨place, accepted, rfl⟩
    obtain ⟨lat, lon, form⟩ := exists_form_of_shapePoint field value place accepted
    obtain ⟨latitude, longitude⟩ := (shapePoint_eq_ok_iff field place form).mp accepted
    rw [body_point latitude.2.1 longitude.2.1]
    exact .intro form latitude longitude
  · rintro ⟨form, latitude, longitude⟩
    exact ⟨_, (shapePoint_eq_ok_iff field _ form).mpr ⟨latitude, longitude⟩,
      body_point latitude.2.1 longitude.2.1⟩

/-- Coordinates are no numbers. -/
theorem Carried.number?_eq_none {levels : Nat} {value : Value} {rendering : Json}
    (carried : Carried levels value rendering) : value.number? = none := by
  cases levels with
  | zero => cases carried
  | succ levels =>
    obtain ⟨form, -, -⟩ | ⟨items, renderings, rfl, -, -⟩ := carried
    · cases form <;> rfl
    · rfl

/-- A list whose items are all carried as coordinates does not begin with a number, so it is no
point. -/
theorem not_startsWithNumber_of_carried {levels : Nat} {items : List Value}
    {renderings : List Json} (carried : List.Forall₂ (Carried levels) items renderings) :
    startsWithNumber items = false := by
  cases carried with
  | nil => rfl
  | cons first _ => rw [startsWithNumber, first.number?_eq_none, Option.isSome_none]

/-- A list that is carried as a point begins with a number, so it does not nest. -/
theorem startsWithNumber_of_pointCarried {items : List Value} {rendering : Json}
    (carried : PointCarried (.list items) rendering) : startsWithNumber items = true := by
  obtain ⟨form, -, longitude⟩ := carried
  cases form with
  | pair => rw [startsWithNumber, longitude.1, Option.isSome_some]

/-- Items are related to the images of something one by one if they are related to images one by
one. -/
theorem exists_forall₂_map_iff {α β γ : Type} (related : α → β → Prop) (change : β → γ)
    (items : List α) (images : List γ) :
    (∃ values, List.Forall₂ related items values ∧ values.map change = images) ↔
      List.Forall₂ (fun item image => ∃ value, related item value ∧ change value = image) items
        images := by
  constructor
  · rintro ⟨values, pointwise, rfl⟩
    rw [List.forall₂_map_right_iff]
    exact pointwise.imp fun item value are => ⟨value, are, rfl⟩
  · intro pointwise
    induction pointwise with
    | nil => exact ⟨[], .nil, rfl⟩
    | cons first _ inductionHypothesis =>
      obtain ⟨value, are, rfl⟩ := first
      obtain ⟨values, others, rfl⟩ := inductionHypothesis
      exact ⟨value :: values, .cons are others, rfl⟩

/-- What is read as a point where a level is left is rendered as one. -/
theorem coordinatesOf_point_carried {levels : Nat} {value : Value} {rendering : Json}
    (isPoint : coordinatesOf field (levels + 1) value = (shapePoint field value).map .point) :
    (∃ coordinates, coordinatesOf field (levels + 1) value = .ok coordinates ∧
        coordinates.body = rendering) ↔
      PointCarried value rendering := by
  rw [isPoint, ← shapePoint_carried field value rendering]
  simp only [map_eq_ok_iff, exists_exists_and_eq_and]

/-- Exactly the coordinates that can be rendered as they nest are accepted, and this is how they are
rendered. The induction is on the levels that are left. -/
theorem coordinatesOf_carried (levels : Nat) (value : Value) (rendering : Json) :
    (∃ coordinates, coordinatesOf field levels value = .ok coordinates ∧
        coordinates.body = rendering) ↔
      Carried levels value rendering := by
  induction levels generalizing value rendering with
  | zero =>
    refine iff_of_false ?_ id
    rintro ⟨_, ⟨⟩, -⟩
  | succ levels inductionHypothesis =>
    cases value with
    | map entries =>
      refine (coordinatesOf_point_carried field rfl).trans ⟨.inl, ?_⟩
      rintro (carried | ⟨_, _, ⟨⟩, -⟩)
      exact carried
    | list items =>
      -- A list that starts with a number is read as a point, and coordinates that nest start with
      -- none.
      by_cases isPair : startsWithNumber items = true
      · have isPoint : coordinatesOf field (levels + 1) (.list items) =
            (shapePoint field (.list items)).map .point := if_pos isPair
        refine (coordinatesOf_point_carried field isPoint).trans ⟨.inl, ?_⟩
        rintro (carried | ⟨_, _, ⟨⟩, -, carried⟩)
        · exact carried
        · exact absurd isPair (by simp [not_startsWithNumber_of_carried carried])
      · have members : coordinatesOf field (levels + 1) (.list items) =
            (items.mapM (coordinatesOf field levels)).map .list := if_neg isPair
        have each (renderings : List Json) :
            (∃ members, items.mapM (coordinatesOf field levels) = .ok members ∧
                members.map Coordinates.body = renderings) ↔
              List.Forall₂ (Carried levels) items renderings := by
          simp only [mapM_eq_ok_iff, exists_forall₂_map_iff, inductionHypothesis]
        rw [members]
        simp only [map_eq_ok_iff, exists_exists_and_eq_and, Coordinates.body,
          Coordinates.bodies_eq_map]
        constructor
        · rintro ⟨given, accepted, rfl⟩
          exact .inr ⟨items, _, rfl, rfl, (each _).mp ⟨given, accepted, rfl⟩⟩
        · rintro (carried | ⟨_, renderings, ⟨⟩, rfl, carried⟩)
          · exact absurd (startsWithNumber_of_pointCarried carried) isPair
          · obtain ⟨given, accepted, rfl⟩ := (each renderings).mpr carried
            exact ⟨given, accepted, rfl⟩
    | _ =>
      constructor
      · rintro ⟨_, ⟨⟩, -⟩
      · rintro (⟨⟨⟩, -, -⟩ | ⟨_, _, ⟨⟩, -⟩)

end Coordinates

/-! ### Conditions on shapes -/

/-- The check for places passes unless the field is declared as something else. -/
theorem requireGeo_eq_ok_iff (setting : Setting) (field : String) (op : Operator) :
    requireGeo setting field op = .ok () ↔
      ∀ type, setting.fields.type? field = some type → type.isGeo = true := by
  unfold requireGeo
  cases setting.fields.type? field with
  | none => exact iff_of_true rfl nofun
  | some type =>
    by_cases isGeo : type.isGeo = true <;> simp [isGeo]

/-! ### Entries -/

/-- Whether the members of a rendered shape and its relation carry an entry of the operand. -/
inductive EntryCarried (levels : Nat) (members : List (String × Json)) (relation : ShapeRelation) :
    Key × Value → Prop
  | type (text : String)
      (rendered : Entries.find? "type" members =
        some (.string (String.ofList (text.toList.map Char.toLower)))) :
      EntryCarried levels members relation (.name "type", .scalar (.str text))
  | coordinates {value : Value} {rendering : Json} (carried : Carried levels value rendering)
      (rendered : Entries.find? "coordinates" members = some rendering) :
      EntryCarried levels members relation (.name "coordinates", value)
  | relation (text : String) (rendered : ShapeRelation.ofText? text = some relation) :
      EntryCarried levels members relation (.name "relation", .scalar (.str text))
  | radius (text : String) (rendered : Entries.find? "radius" members = some (.string text)) :
      EntryCarried levels members relation (.name "radius", .scalar (.str text))

/-- What it takes of an entry to be carried, name by name. -/
theorem entryCarried_iff {levels : Nat} {members : List (String × Json)} {relation : ShapeRelation}
    (name : String) (value : Value) :
    EntryCarried levels members relation (.name name, value) ↔
      (name = "type" ∧ ∃ text, value = .scalar (.str text) ∧ Entries.find? "type" members =
          some (.string (String.ofList (text.toList.map Char.toLower)))) ∨
        (name = "coordinates" ∧ ∃ rendering, Carried levels value rendering ∧
          Entries.find? "coordinates" members = some rendering) ∨
        (name = "relation" ∧ ∃ text, value = .scalar (.str text) ∧
          ShapeRelation.ofText? text = some relation) ∨
        (name = "radius" ∧ ∃ text, value = .scalar (.str text) ∧
          Entries.find? "radius" members = some (.string text)) := by
  constructor
  · intro carried
    cases carried with
    | type text rendered => exact .inl ⟨rfl, text, rfl, rendered⟩
    | coordinates carried rendered => exact .inr (.inl ⟨rfl, _, carried, rendered⟩)
    | relation text rendered => exact .inr (.inr (.inl ⟨rfl, text, rfl, rendered⟩))
    | radius text rendered => exact .inr (.inr (.inr ⟨rfl, text, rfl, rendered⟩))
  · rintro (⟨rfl, text, rfl, rendered⟩ | ⟨rfl, _, carried, rendered⟩ | ⟨rfl, text, rfl, rendered⟩ |
      ⟨rfl, text, rfl, rendered⟩)
    · exact .type text rendered
    · exact .coordinates carried rendered
    · exact .relation text rendered
    · exact .radius text rendered

/-- Only the four entries of a shape are carried. -/
theorem EntryCarried.isShapeKey {levels : Nat} {members : List (String × Json)}
    {relation : ShapeRelation} {entry : Key × Value}
    (carried : EntryCarried levels members relation entry) : isShapeKey entry.1 = true := by
  cases carried <;> simp [Resolve.isShapeKey, shapeKeys]

section Named

variable {levels : Nat} {members : List (String × Json)} {relation : ShapeRelation} {value : Value}

/-- Apart from the coordinates only texts are carried. -/
theorem EntryCarried.exists_text {name : String} (noPlaces : name ≠ "coordinates")
    (carried : EntryCarried levels members relation (.name name, value)) :
    ∃ text, value = .scalar (.str text) := by
  obtain ⟨-, text, isText, -⟩ | ⟨isPlaces, -⟩ | ⟨-, text, isText, -⟩ | ⟨-, text, isText, -⟩ :=
    (entryCarried_iff name value).mp carried
  · exact ⟨text, isText⟩
  · exact absurd isPlaces noPlaces
  · exact ⟨text, isText⟩
  · exact ⟨text, isText⟩

/-- Carried coordinates have a rendering. -/
theorem EntryCarried.exists_rendering
    (carried : EntryCarried levels members relation (.name "coordinates", value)) :
    ∃ rendering, Carried levels value rendering := by
  obtain ⟨rendering, places, -⟩ := by simpa [entryCarried_iff] using carried
  exact ⟨rendering, places⟩

/-- A carried relation is a text that names it in any case. -/
theorem EntryCarried.exists_relation
    (carried : EntryCarried levels members relation (.name "relation", value)) :
    ∃ text, value = .scalar (.str text) ∧ ShapeRelation.ofText? text = some relation := by
  simpa [entryCarried_iff] using carried

end Named

/-- The members of a shape in its body. -/
def membersOf (shape : GeoShape) : List (String × Json) :=
  ("type", .string shape.kind) :: ("coordinates", shape.coordinates.body) ::
    (shape.radius.map fun radius => ("radius", Json.string radius)).toList

/-- The body of a shape is the object of its members. -/
theorem body_eq_membersOf (shape : GeoShape) : shape.body = .object (membersOf shape) := by
  obtain ⟨kind, coordinates, radius⟩ := shape
  cases radius <;> rfl

/-- Among the members of a shape stands its radius, if it has one. -/
theorem find?_radius_membersOf (shape : GeoShape) :
    Entries.find? "radius" (membersOf shape) = shape.radius.map .string := by
  obtain ⟨kind, coordinates, radius⟩ := shape
  cases radius <;> rfl

/-- A value has a text exactly if it is a string. -/
theorem string?_eq_some_iff (value : Value) (text : String) :
    value.string? = some text ↔ value = .scalar (.str text) := by
  cases value with
  | scalar literal => cases literal <;> simp [Value.string?, Scalar.string?]
  | _ => simp [Value.string?]

section Entries

variable (field : String) (levels : Nat) {entries : List (Key × Value)}

/-- A name that shapes have. -/
theorem isShapeKey_iff (key : Key) :
    isShapeKey key = true ↔
      key = .name "type" ∨ key = .name "coordinates" ∨ key = .name "relation" ∨
        key = .name "radius" := by
  cases key with
  | op op => simp [isShapeKey]
  | name text => simp [isShapeKey, shapeKeys]

/-- No foreign key is found exactly if every key is one of a shape. -/
theorem foreign_eq_none_iff :
    (entries.find? fun entry => !isShapeKey entry.1) = none ↔
      ∀ entry ∈ entries, isShapeKey entry.1 = true := by
  simp

variable (distinct : (entries.map Prod.fst).Nodup)
include distinct

/-- The value under a name is that of the entry with the name, which is the only one. -/
theorem named?_eq_some_iff (name : String) (value : Value) :
    (Value.map entries).named? name = some value ↔ (Key.name name, value) ∈ entries :=
  found_eq_some_iff distinct (.name name) value

/-- There is no value under a name exactly if there is no entry with it. -/
theorem named?_eq_none_iff (name : String) :
    (Value.map entries).named? name = none ↔ ∀ value, (Key.name name, value) ∉ entries := by
  rw [Option.eq_none_iff_forall_ne_some]
  exact forall_congr' fun value => not_congr (named?_eq_some_iff distinct name value)

/-- What a shape was read from is in the members of its body, but for a radius that is no text. -/
theorem entryCarried_of_toShape {shape : GeoShape} {relation : ShapeRelation}
    (read : toShape field levels (.map entries) = .ok (.geoShape shape relation))
    {entry : Key × Value} (member : entry ∈ entries) :
    EntryCarried levels (membersOf shape) relation entry ∨
      entry.1 = .name "radius" ∧ entry.2.string? = none := by
  obtain ⟨own, type, given, coordinates, _, typed, placed, placesRead, relates, same⟩ :=
    (toShape_eq_ok_iff _ _ _ _).mp read
  obtain ⟨rfl, rfl⟩ := Test.geoShape.inj same
  obtain ⟨key, value⟩ := entry
  have found (name : String) (isKey : key = .name name) :
      (Value.map entries).named? name = some value :=
    (named?_eq_some_iff distinct name value).mpr (isKey ▸ member)
  obtain isKey | isKey | isKey | isKey := (isShapeKey_iff key).mp
    (foreign_eq_none_iff.mp own _ member)
  · rw [found "type" isKey] at typed
    obtain rfl := (string?_eq_some_iff value type).mp typed
    exact .inl (isKey ▸ .type type rfl)
  · rw [found "coordinates" isKey] at placed
    obtain rfl := Option.some.inj placed
    have carried := (coordinatesOf_carried field levels value _).mp ⟨coordinates, placesRead, rfl⟩
    exact .inl (isKey ▸ .coordinates carried rfl)
  · rw [found "relation" isKey] at relates
    obtain ⟨text, isText, rendered⟩ :=
      Option.bind_eq_some_iff.mp (relationOf_eq_ok field _ _ relates)
    obtain rfl := (string?_eq_some_iff value text).mp isText
    exact .inl (isKey ▸ .relation text rendered)
  · cases textual : value.string? with
    | none => exact .inr ⟨isKey, rfl⟩
    | some text =>
      obtain rfl := (string?_eq_some_iff value text).mp textual
      refine .inl (isKey ▸ .radius text ?_)
      rw [find?_radius_membersOf, found "radius" isKey]
      rfl

/-- A relation that is not given is that of having any place in common. -/
theorem relation_of_toShape {shape : GeoShape} {relation : ShapeRelation}
    (read : toShape field levels (.map entries) = .ok (.geoShape shape relation))
    (absent : ∀ value, (Key.name "relation", value) ∉ entries) : relation = .intersects := by
  obtain ⟨-, _, _, _, _, -, -, -, relates, same⟩ := (toShape_eq_ok_iff _ _ _ _).mp read
  obtain ⟨-, rfl⟩ := Test.geoShape.inj same
  rw [(named?_eq_none_iff distinct "relation").mpr absent] at relates
  exact (Except.ok.inj relates).symm

/-- The radius of a shape is the one of its operand, if that is a text. -/
theorem radius_of_toShape {shape : GeoShape} {relation : ShapeRelation}
    (read : toShape field levels (.map entries) = .ok (.geoShape shape relation)) (text : String) :
    shape.radius = some text ↔ (Key.name "radius", Value.scalar (.str text)) ∈ entries := by
  obtain ⟨-, _, _, _, _, -, -, -, -, same⟩ := (toShape_eq_ok_iff _ _ _ _).mp read
  obtain ⟨rfl, -⟩ := Test.geoShape.inj same
  simp only [Option.bind_eq_some_iff, string?_eq_some_iff, exists_eq_right,
    named?_eq_some_iff distinct]

/-- A shape is read exactly if it has a type and coordinates and each entry can be carried over. A
radius is never a reason to refuse it. -/
theorem exists_toShape_iff :
    (∃ test, toShape field levels (.map entries) = .ok test) ↔
      (∃ value, (.name "type", value) ∈ entries) ∧
        (∃ value, (.name "coordinates", value) ∈ entries) ∧
          ∀ entry ∈ entries, entry.1 = .name "radius" ∨
            ∃ members relation, EntryCarried levels members relation entry := by
  have named (name : String) (value : Value) := named?_eq_some_iff distinct name value
  constructor
  · rintro ⟨test, read⟩
    obtain ⟨-, type, given, coordinates, relation, typed, placed, -, -, rfl⟩ :=
      (toShape_eq_ok_iff _ _ _ _).mp read
    obtain ⟨typeValue, typeFound, -⟩ := Option.bind_eq_some_iff.mp typed
    refine ⟨⟨_, (named _ _).mp typeFound⟩, ⟨_, (named _ _).mp placed⟩, fun entry member => ?_⟩
    obtain carried | ⟨isRadius, -⟩ :=
      entryCarried_of_toShape field levels distinct read member
    · exact .inr ⟨_, _, carried⟩
    · exact .inl isRadius
  · rintro ⟨⟨typeValue, hasType⟩, ⟨given, hasCoordinates⟩, each⟩
    -- The members and the relation may differ from entry to entry here: what is read of each entry
    -- is what its own carrying says, and the body of the whole shape comes after.
    have carries (name : String) (value : Value) (member : (.name name, value) ∈ entries)
        (noRadius : name ≠ "radius") :
        ∃ members relation, EntryCarried levels members relation (.name name, value) :=
      (each _ member).resolve_left fun isRadius => noRadius (Key.name.inj isRadius)
    have own : ∀ entry ∈ entries, isShapeKey entry.1 = true := by
      intro entry member
      obtain isRadius | ⟨members, relation, carried⟩ := each entry member
      · rw [isRadius]
        decide
      · exact carried.isShapeKey
    obtain ⟨type, rfl⟩ : ∃ type, typeValue = .scalar (.str type) := by
      obtain ⟨_, _, carried⟩ := carries "type" typeValue hasType (by decide)
      exact carried.exists_text (by decide)
    obtain ⟨coordinates, placesRead⟩ :
        ∃ coordinates, coordinatesOf field levels given = .ok coordinates := by
      obtain ⟨_, _, carried⟩ := carries "coordinates" given hasCoordinates (by decide)
      obtain ⟨rendering, places⟩ := carried.exists_rendering
      obtain ⟨coordinates, read, -⟩ := (coordinatesOf_carried field levels given rendering).mpr places
      exact ⟨coordinates, read⟩
    obtain ⟨relation, relates⟩ :
        ∃ relation, relationOf field ((Value.map entries).named? "relation") = .ok relation := by
      cases found : (Value.map entries).named? "relation" with
      | none => exact ⟨_, rfl⟩
      | some value =>
        obtain ⟨_, relation, carried⟩ :=
          carries "relation" value ((named _ _).mp found) (by decide)
        obtain ⟨text, rfl, spelled⟩ := carried.exists_relation
        exact ⟨relation, by simp only [relationOf, Value.string?, Scalar.string?, Option.bind_some,
          spelled]⟩
    exact ⟨_, (toShape_eq_ok_iff _ _ _ _).mpr ⟨foreign_eq_none_iff.mpr own, type, given, coordinates,
      relation, by rw [(named _ _).mpr hasType]; rfl, (named _ _).mpr hasCoordinates, placesRead,
      relates, rfl⟩⟩

end Entries

end Resolve

/-! ### Conditions -/

namespace FilterSpec

/-- The condition on a shape with these entries. -/
def shapeCondition (entries : List (Key × Value)) : Value := .map [(.op .geoShape, .map entries)]

section Condition

variable (fields : FieldContext) (capabilities : Capabilities) (limit : Nat) {key : String}
  (isField : Combinator.ofKey? key = none) (entries : List (Key × Value))
include isField

/-- A condition on a shape compiles to the test that is read, with every refusal. -/
theorem compile_shapeCondition :
    compile (single key (shapeCondition entries)) fields capabilities limit =
      (Resolve.requireGeo ⟨fields, capabilities, limit⟩ (Where.pathOf key) .geoShape >>= fun _ =>
        (Resolve.toShape (Where.pathOf key) limit (.map entries)).map fun test =>
          ⟨.group .and [.test (Where.pathOf key) test], []⟩) := by
  have shaped : Operand.ofValue (Where.pathOf key) (shapeCondition entries) =
      .ok (.ops [(.geoShape, .map entries)]) := rfl
  rw [compile_single_eq _ _ isField fields capabilities limit shaped, Resolve.operand_shape_eq]
  cases Resolve.requireGeo ⟨fields, capabilities, limit⟩ (Where.pathOf key) .geoShape with
  | error error => rfl
  | ok permitted => cases Resolve.toShape (Where.pathOf key) limit (.map entries) <;> rfl

/-- A condition on a shape is refused as an invalid operand, or each entry is carried over into its
body, but for a radius that is no text: this is accepted and left out. So every entry is carried
over exactly if the radius, where there is one, is a text. The body has a relation in any case, and a
radius only from the operand. -/
theorem shape_carried_but_radius (distinct : (entries.map Prod.fst).Nodup) :
    (∀ error, compile (single key (shapeCondition entries)) fields capabilities limit =
        .error error → ∃ defect, error = .invalidOperand (Where.pathOf key) defect) ∧
    ((∃ query, compile (single key (shapeCondition entries)) fields capabilities limit =
        .ok query) ↔
      (∀ type, fields.type? (Where.pathOf key) = some type → type.isGeo = true) ∧
        (∃ value, (.name "type", value) ∈ entries) ∧
        (∃ value, (.name "coordinates", value) ∈ entries) ∧
        ∀ entry ∈ entries, entry.1 = .name "radius" ∨
          ∃ members relation, Resolve.EntryCarried limit members relation entry) ∧
    ∀ query, compile (single key (shapeCondition entries)) fields capabilities limit = .ok query →
      ∃ members relation,
        query.root.body = Query.groupBody .and [.entry "geo_shape" (.entry (Where.pathOf key)
          (.object [("shape", .object members),
            ("relation", .string (ShapeRelation.name relation))]))] ∧
        (∀ entry ∈ entries, entry.1 ≠ .name "radius" →
          Resolve.EntryCarried limit members relation entry) ∧
        ((∀ value, (.name "relation", value) ∉ entries) → relation = .intersects) ∧
        (∀ value, Entries.find? "radius" members = some value ↔
          ∃ text, value = .string text ∧ (.name "radius", .scalar (.str text)) ∈ entries) ∧
        ((∀ entry ∈ entries, Resolve.EntryCarried limit members relation entry) ↔
          ∀ value, (.name "radius", value) ∈ entries → ∃ text, value = .scalar (.str text)) := by
  rw [compile_shapeCondition fields capabilities limit isField entries]
  generalize Where.pathOf key = path
  refine ⟨?_, ?_, ?_⟩
  · have refuses : Check.Refuses path (Resolve.requireGeo ⟨fields, capabilities, limit⟩ path
        .geoShape >>= fun _ => (Resolve.toShape path limit (.map entries)).map fun test =>
          (⟨.group .and [.test path test], []⟩ : CompiledQuery)) :=
      .bind (Resolve.requireGeo_refuses path _ _) fun _ =>
        .map _ (Resolve.toShape_refuses path limit _)
    exact refuses
  · rw [← Resolve.exists_toShape_iff path limit distinct,
      ← Resolve.requireGeo_eq_ok_iff ⟨fields, capabilities, limit⟩ path .geoShape]
    simp only [bind_eq_ok_iff, map_eq_ok_iff]
    constructor
    · rintro ⟨_, _, permitted, test, read, -⟩
      exact ⟨permitted, test, read⟩
    · rintro ⟨permitted, test, read⟩
      exact ⟨_, (), permitted, test, read, rfl⟩
  · -- A query that compiles stands for one shape that was read, and `membersOf` are its members.
    intro query compiles
    obtain ⟨_, -, mapped⟩ := (bind_eq_ok_iff _ _ _).mp compiles
    obtain ⟨test, read, rfl⟩ := (map_eq_ok_iff _ _ _).mp mapped
    obtain ⟨shape, relation, rfl⟩ := Resolve.shape_of_toShape read
    have carries (entry : Key × Value) (member : entry ∈ entries) :=
      Resolve.entryCarried_of_toShape path limit distinct read member
    refine ⟨Resolve.membersOf shape, relation, ?_, ?_, ?_, ?_, ?_, ?_⟩
    · rw [← Resolve.body_eq_membersOf]
      rfl
    · intro entry member noRadius
      exact (carries entry member).resolve_right fun left => noRadius left.1
    · exact Resolve.relation_of_toShape path limit distinct read
    · intro value
      rw [Resolve.find?_radius_membersOf, Option.map_eq_some_iff]
      simp only [Resolve.radius_of_toShape path limit distinct read, and_comm, eq_comm]
    · intro all value member
      exact (all _ member).exists_text (by decide)
    · intro textual entry member
      refine (carries entry member).resolve_right ?_
      rintro ⟨isRadius, noText⟩
      obtain ⟨text, isText⟩ := textual entry.2 (isRadius ▸ member)
      rw [isText] at noText
      cases noText

end Condition

set_option maxRecDepth 4000 in
/-- A circle with all four entries, its type and relation in mixed case, its center in a list by the
names of its parts and its radius a text, on the identity of documents. -/
theorem shape_carried_but_radius_of_circle :
    let entries : List (Key × Value) :=
      [(.name "type", .scalar (.str "Circle")), (.name "radius", .scalar (.str "5km")),
        (.name "coordinates", .list [.map [(.name "lat", .scalar (.int 1)),
          (.name "lon", .scalar (.int 2))]]), (.name "relation", .scalar (.str "WITHIN"))]
    Combinator.ofKey? "id" = none ∧ (entries.map Prod.fst).Nodup ∧
      ∃ query members relation,
        compile (single "id" (shapeCondition entries)) .empty ⟨fun _ => true⟩ 2 = .ok query ∧
          ∀ entry ∈ entries, Resolve.EntryCarried 2 members relation entry := by
  intro entries
  have isField : Combinator.ofKey? "id" = none := by decide
  have distinct : (entries.map Prod.fst).Nodup := by decide
  obtain ⟨query, compiles⟩ : ∃ query,
      compile (single "id" (shapeCondition entries)) .empty ⟨fun _ => true⟩ 2 = .ok query :=
    ⟨_, rfl⟩
  obtain ⟨members, relation, -, -, -, -, carried⟩ :=
    (shape_carried_but_radius .empty ⟨fun _ => true⟩ 2 isField entries distinct).2.2 query compiles
  refine ⟨isField, distinct, query, members, relation, compiles, carried.mpr ?_⟩
  intro value member
  obtain rfl : value = .scalar (.str "5km") := by simpa [entries] using member
  exact ⟨"5km", rfl⟩

set_option maxRecDepth 4000 in
/-- A circle whose radius is a number compiles, and its body has no radius. -/
theorem numeric_radius_left_out :
    let entries : List (Key × Value) :=
      [(.name "type", .scalar (.str "circle")),
        (.name "coordinates", .list [.scalar (.int 1), .scalar (.int 2)]),
        (.name "radius", .scalar (.int 5))]
    let members : List (String × Json) := [("type", .string "circle"),
      ("coordinates", .array [.number (.real (.ofInt 1)), .number (.real (.ofInt 2))])]
    (entries.map Prod.fst).Nodup ∧ (∃ value, (.name "radius", value) ∈ entries) ∧
      (∃ query, compile (single "place" (shapeCondition entries)) .empty ⟨fun _ => true⟩ = .ok query ∧
        query.root.body = Query.groupBody .and [.entry "geo_shape" (.entry "place" (.object
          [("shape", .object members), ("relation", .string "intersects")]))]) ∧
      Entries.find? "radius" members = none := by
  intro entries members
  have distinct : (entries.map Prod.fst).Nodup := by decide
  have hasRadius : (Key.name "radius", Value.scalar (.int 5)) ∈ entries := by simp [entries]
  exact ⟨distinct, ⟨_, hasRadius⟩, ⟨_, rfl, rfl⟩, rfl⟩

end FilterSpec

end SearchFilter
