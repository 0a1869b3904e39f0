import SearchFilter.Proofs.Interchange
import SearchFilter.Proofs.PlaceTests
import Mathlib.Logic.Relation

/-!
# The forms of places

A point is a pair or a map that names both parts, and a polygon is a list of points or a map that
has such a list. In the coordinates of a shape, which are points in lists of any depth, a pair has
its longitude first. Which form is chosen has no influence on what is read. A form is accepted
exactly when both parts of each point are angles, the latitude up to ninety degrees and the
longitude up to one hundred and eighty, and the point that is read has these angles.
-/

namespace SearchFilter

/-- A point with these parts, as the given pair or as a map that names both. -/
inductive PlaceForm (pair : List Value) (lat lon : Value) : Value → Prop
  | pair : PlaceForm pair lat lon (.list pair)
  | map (entries : List (Key × Value)) (latNamed : (Value.map entries).named? "lat" = some lat)
      (lonNamed : (Value.map entries).named? "lon" = some lon) :
      PlaceForm pair lat lon (.map entries)

/-- One point in two forms. A pair has its latitude first. -/
inductive PointSpelling : Value → Value → Prop
  | intro {lat lon value other : Value} (form : PlaceForm [lat, lon] lat lon value)
      (otherForm : PlaceForm [lat, lon] lat lon other) : PointSpelling value other

/-- Coordinates with one of their points in two forms. A pair has its longitude first, and it takes
a number there to tell a pair from a list of coordinates. -/
inductive CoordinatesSpelling : Value → Value → Prop
  | point {lat lon value other : Value} (number : lon.number?.isSome = true)
      (form : PlaceForm [lon, lat] lat lon value)
      (otherForm : PlaceForm [lon, lat] lat lon other) : CoordinatesSpelling value other
  | listed {value other : Value} (before after : List Value)
      (spelling : CoordinatesSpelling value other) :
      CoordinatesSpelling (.list (before ++ value :: after)) (.list (before ++ other :: after))

/-- A polygon with these points, as a list or as a map that names it. -/
inductive PolygonForm (points : List Value) : Value → Prop
  | list : PolygonForm points (.list points)
  | map (entries : List (Key × Value))
      (named : (Value.map entries).named? "points" = some (.list points)) :
      PolygonForm points (.map entries)

/-- Two spellings of a point are spellings of each other. -/
theorem PointSpelling.symm {value other : Value} (spelling : PointSpelling value other) :
    PointSpelling other value := by
  obtain ⟨form, otherForm⟩ := spelling
  exact ⟨otherForm, form⟩

/-- Two spellings of coordinates are spellings of each other. -/
theorem CoordinatesSpelling.symm {value other : Value}
    (spelling : CoordinatesSpelling value other) : CoordinatesSpelling other value := by
  induction spelling with
  | point number form otherForm => exact .point number otherForm form
  | listed before after _ inductionHypothesis => exact .listed before after inductionHypothesis

/-- Neither form of coordinates is a number. -/
theorem CoordinatesSpelling.number?_eq_none {value other : Value}
    (spelling : CoordinatesSpelling value other) : value.number? = none := by
  cases spelling with
  | point _ form => cases form <;> rfl
  | listed => rfl

/-- Lists of entries with the same keys, and operands under each key that stay or are related. -/
def Spelled {κ : Type} (related : κ → Value → Value → Prop) (entries others : List (κ × Value)) :
    Prop :=
  List.Forall₂ (fun entry other =>
    entry.1 = other.1 ∧ Relation.ReflGen (related entry.1) entry.2 other.2) entries others

/-- Entries that differ in one value are spellings of each other if the two values are. -/
theorem spelled_of_replaced {κ : Type} {related : κ → Value → Value → Prop} {key : κ}
    {value other : Value} (are : related key value other) (before after : List (κ × Value)) :
    Spelled related (before ++ (key, value) :: after) (before ++ (key, other) :: after) :=
  forall₂_of_replaced (fun _ => ⟨rfl, .refl⟩) ⟨rfl, .single are⟩ before after

/-- What is found under a key stays or is related. -/
theorem Spelled.found {κ : Type} [DecidableEq κ] {related : κ → Value → Value → Prop}
    {entries others : List (κ × Value)} (spelled : Spelled related entries others) (wanted : κ) :
    Option.Rel (Relation.ReflGen (related wanted))
      ((entries.find? fun entry => entry.1 = wanted).map Prod.snd)
      ((others.find? fun entry => entry.1 = wanted).map Prod.snd) := by
  induction spelled with
  | nil => exact .none
  | @cons entry other rest otherRest are _ inductionHypothesis =>
    obtain ⟨key, value⟩ := entry
    obtain ⟨otherKey, otherValue⟩ := other
    obtain ⟨rfl, values⟩ : key = otherKey ∧ Relation.ReflGen (related key) value otherValue := are
    by_cases isWanted : key = wanted
    · subst isWanted
      simpa using Option.Rel.some values
    · simpa [isWanted] using inductionHypothesis

/-- What is found under a key in one spelling is found in the other one, the same or respelled. -/
theorem Spelled.found_of_some {κ : Type} [DecidableEq κ] {related : κ → Value → Value → Prop}
    {entries others : List (κ × Value)} (spelled : Spelled related entries others) {wanted : κ}
    {value : Value}
    (isFound : (entries.find? fun entry => entry.1 = wanted).map Prod.snd = some value) :
    ∃ other, (others.find? fun entry => entry.1 = wanted).map Prod.snd = some other ∧
      Relation.ReflGen (related wanted) value other := by
  have found := spelled.found wanted
  rw [isFound] at found
  revert found
  generalize (others.find? fun entry => entry.1 = wanted).map Prod.snd = second
  rintro (are | _)
  exact ⟨_, rfl, are⟩

/-- Under a key that has only one spelling the same is found. -/
theorem Spelled.found_eq {κ : Type} [DecidableEq κ] {related : κ → Value → Value → Prop}
    {entries others : List (κ × Value)} (spelled : Spelled related entries others) (wanted : κ)
    (unrelated : ∀ value other, ¬related wanted value other) :
    (entries.find? fun entry => entry.1 = wanted).map Prod.snd =
      (others.find? fun entry => entry.1 = wanted).map Prod.snd := by
  have found := spelled.found wanted
  revert found
  generalize (entries.find? fun entry => entry.1 = wanted).map Prod.snd = first
  generalize (others.find? fun entry => entry.1 = wanted).map Prod.snd = second
  rintro (⟨_ | are⟩ | _)
  · rfl
  · exact absurd are (unrelated _ _)
  · rfl

/-- Two spellings of entries have the same keys in the same order. -/
theorem Spelled.keys_eq {κ : Type} {related : κ → Value → Value → Prop}
    {entries others : List (κ × Value)} (spelled : Spelled related entries others) :
    entries.map Prod.fst = others.map Prod.fst := by
  rw [← List.forall₂_eq_eq_eq, List.forall₂_map_left_iff, List.forall₂_map_right_iff]
  exact spelled.imp fun _ _ => And.left

namespace Resolve

open Check (bind_eq_ok_iff map_eq_ok_iff)

/-! ### Points -/

/-- A number of degrees up to a limit. -/
def IsAngle (limit : Nat) (value : Value) (angle : Binary64) : Prop :=
  value.number? = some angle ∧ angle.isFinite = true ∧ withinDegrees limit angle = true

/-- A part of a point is accepted if it is a finite number. -/
theorem coordinate_eq_ok_iff (field part : String) (value : Value) (number : Binary64) :
    coordinate field part (some value) = .ok number ↔
      value.number? = some number ∧ number.isFinite = true := by
  rw [coordinate, Option.bind_some]
  cases value.number? with
  | none => exact iff_of_false nofun nofun
  | some given =>
    by_cases finite : given.isFinite = true
    · simp only [finite, if_true, Except.ok.injEq, Option.some.injEq]
      exact ⟨fun same => ⟨same, same ▸ finite⟩, And.left⟩
    · simp only [finite, if_false, reduceCtorEq, false_iff, Option.some.injEq]
      rintro ⟨rfl, isFinite⟩
      exact finite isFinite

/-- Two parts give a point exactly when they are its angles. -/
theorem parts_eq_ok_iff (field latPart lonPart : String) (lat lon : Value) (place : GeoPoint) :
    (do onGlobe field (← coordinate field latPart (some lat))
          (← coordinate field lonPart (some lon))) = .ok place ↔
      IsAngle 90 lat place.lat ∧ IsAngle 180 lon place.lon := by
  simp only [bind_eq_ok_iff, coordinate_eq_ok_iff]
  constructor
  · rintro ⟨latitude, ⟨latRead, latFinite⟩, longitude, ⟨lonRead, lonFinite⟩, placed⟩
    rw [onGlobe] at placed
    split at placed
    · rename_i within
      obtain ⟨latWithin, lonWithin⟩ := (Bool.and_eq_true _ _).mp within
      obtain rfl := Except.ok.inj placed
      exact ⟨⟨latRead, latFinite, latWithin⟩, lonRead, lonFinite, lonWithin⟩
    · cases placed
  · rintro ⟨⟨latRead, latFinite, latWithin⟩, lonRead, lonFinite, lonWithin⟩
    refine ⟨place.lat, ⟨latRead, latFinite⟩, place.lon, ⟨lonRead, lonFinite⟩, ?_⟩
    exact if_pos ((Bool.and_eq_true _ _).mpr ⟨latWithin, lonWithin⟩)

section Forms

variable {lat lon value : Value} (field : String) (place : GeoPoint)

/-- A point in either form is accepted if its parts are angles within their limits, and is the point
with these angles. -/
theorem point_eq_ok_iff (form : PlaceForm [lat, lon] lat lon value) :
    point field value = .ok place ↔ IsAngle 90 lat place.lat ∧ IsAngle 180 lon place.lon := by
  cases form with
  | pair => exact parts_eq_ok_iff field "latitude" "longitude" lat lon place
  | map entries latNamed lonNamed =>
    rw [point, latNamed, lonNamed]
    exact parts_eq_ok_iff field "lat" "lon" lat lon place

/-- A point of a shape is accepted in the same way. Only its pair has the parts the other way
round. -/
theorem shapePoint_eq_ok_iff (form : PlaceForm [lon, lat] lat lon value) :
    shapePoint field value = .ok place ↔ IsAngle 90 lat place.lat ∧ IsAngle 180 lon place.lon := by
  cases form with
  | pair => exact parts_eq_ok_iff field "latitude" "longitude" lat lon place
  | map entries latNamed lonNamed =>
    exact point_eq_ok_iff field place (.map entries latNamed lonNamed)

/-- Either form of a point stands for itself in coordinates, where a level is left. -/
theorem coordinatesOf_form (number : lon.number?.isSome = true)
    (form : PlaceForm [lon, lat] lat lon value) (levels : Nat) :
    coordinatesOf field (levels + 1) value = (shapePoint field value).map .point := by
  cases form with
  | pair => exact if_pos number
  | map => rfl

end Forms

/-! ### Two spellings -/

section Spellings

variable (field : String) {value other : Value}

/-- Two spellings of a point are read as one point, or neither is read. -/
theorem point_spelled (spelling : PointSpelling value other) :
    Check.Mirrored Eq (point field value) (point field other) := by
  obtain ⟨form, otherForm⟩ := spelling
  intro place accepted
  have angles := (point_eq_ok_iff field place form).mp accepted
  exact ⟨place, (point_eq_ok_iff field place otherForm).mpr angles, rfl⟩

/-- Points that are respelled one by one are read as the same points, or not at all. -/
theorem points_spelled {points others : List Value}
    (spellings : List.Forall₂ (Relation.ReflGen PointSpelling) points others) :
    Check.Mirrored Eq (points.mapM (point field)) (others.mapM (point field)) := by
  refine .mapM_eq (spellings.imp fun point given alike => ?_)
  cases alike with
  | refl => exact .refl Eq (fun _ => rfl) _
  | single spelling => exact point_spelled field spelling

/-- A list of coordinates is no pair if one of its items is no number. -/
theorem startsWithNumber_replaced (before after : List Value) (isItem : value.number? = none)
    (otherIsItem : other.number? = none) :
    startsWithNumber (before ++ value :: after) = startsWithNumber (before ++ other :: after) := by
  cases before with
  | nil => simp only [List.nil_append, startsWithNumber, isItem, otherIsItem]
  | cons => rfl

/-- Items that are no numbers are not accepted for parts of a point. -/
theorem not_shapePoint_of_item (items : List Value) (item : Value) (member : item ∈ items)
    (isItem : item.number? = none) (place : GeoPoint) :
    shapePoint field (.list items) ≠ .ok place := by
  intro accepted
  have paired := shapePoint_eq_ok field items place accepted
  unfold Meaning.pair? at paired
  split at paired
  · rename_i lon lat
    obtain rfl | rfl : item = lon ∨ item = lat := by simpa using member
    · simp [isItem] at paired
    · simp [isItem] at paired
  · cases paired

/-- Coordinates are read alike whatever form their points have. The induction is on the lists around
the point that is spelled differently, each of which takes a level. -/
theorem coordinatesOf_spelled (spelling : CoordinatesSpelling value other) (levels : Nat) :
    Check.Mirrored Eq (coordinatesOf field levels value) (coordinatesOf field levels other) := by
  induction spelling generalizing levels with
  | point number form otherForm =>
    cases levels with
    | zero => exact .of_error _ _
    | succ levels =>
      rw [coordinatesOf_form field number form, coordinatesOf_form field number otherForm]
      refine .map _ _ ?_ fun _ _ => congrArg Coordinates.point
      intro place accepted
      have angles := (shapePoint_eq_ok_iff field place form).mp accepted
      exact ⟨place, (shapePoint_eq_ok_iff field place otherForm).mpr angles, rfl⟩
  | @listed value other before after spelling inductionHypothesis =>
    cases levels with
    | zero => exact .of_error _ _
    | succ levels =>
      have isItem := spelling.number?_eq_none
      rw [coordinatesOf, coordinatesOf,
        startsWithNumber_replaced before after isItem spelling.symm.number?_eq_none]
      split
      · intro coordinates accepted
        obtain ⟨place, read, -⟩ := (map_eq_ok_iff _ _ _).mp accepted
        exact absurd read (not_shapePoint_of_item field _ value (by simp) isItem place)
      · refine (Check.Mirrored.mapM_eq ?_).map _ _ fun _ _ => congrArg Coordinates.list
        apply forall₂_of_replaced
        · exact fun item => .refl Eq (fun _ => rfl) _
        · exact inductionHypothesis levels

/-- A polygon in either form has the same points. -/
theorem polygonPoints_form {points : List Value} (form : PolygonForm points value) :
    polygonPoints field value = .ok points := by
  cases form with
  | list => rfl
  | map entries named => simp only [polygonPoints, named]

/-- A polygon is read alike from either form, whatever form its points have. -/
theorem inPolygon_spelled (capabilities : Capabilities) {points others : List Value}
    (form : PolygonForm points value) (otherForm : PolygonForm others other)
    (vertices : List.Forall₂ (Relation.ReflGen PointSpelling) points others) :
    Diagnosed.Paired Eq Eq (inPolygon capabilities field value)
      (inPolygon capabilities field other) := by
  have listed : Check.Mirrored (List.Forall₂ (Relation.ReflGen PointSpelling))
      (polygonPoints field value) (polygonPoints field other) := by
    rw [polygonPoints_form field form, polygonPoints_form field otherForm]
    exact .ok vertices
  unfold inPolygon
  refine (Diagnosed.Paired.lift (listed.bind fun points others vertices => ?_)).bind
    fun places given (same : places = given) => ?_
  · dsimp only
    rw [vertices.length_eq]
    split
    · exact .of_error _ _
    · exact points_spelled field vertices
  · subst same
    exact .rfl

/-- Coordinates in two spellings under their name in the map of a shape. -/
def ShapeMember (key : Key) (value other : Value) : Prop :=
  key = .name "coordinates" ∧ CoordinatesSpelling value other

/-- A shape is read alike however its coordinates are spelled. -/
theorem toShape_spelled (levels : Nat) {entries others : List (Key × Value)}
    (spelled : Spelled ShapeMember entries others) :
    Check.Mirrored Eq (toShape field levels (.map entries))
      (toShape field levels (.map others)) := by
  have same (name : String) (different : name ≠ "coordinates") :
      (Value.map entries).named? name = (Value.map others).named? name :=
    spelled.found_eq (.name name) fun _ _ member => different (Key.name.inj member.1)
  intro test accepted
  obtain ⟨own, kind, given, coordinates, relation, typed, placed, read, relates, rfl⟩ :=
    (toShape_eq_ok_iff _ _ _ _).mp accepted
  obtain ⟨otherGiven, otherPlaced, are⟩ := spelled.found_of_some placed
  have otherRead : coordinatesOf field levels otherGiven = .ok coordinates := by
    cases are with
    | refl => exact read
    | single member =>
      obtain ⟨_, again, rfl⟩ := coordinatesOf_spelled field member.2 levels coordinates read
      exact again
  refine ⟨_, (toShape_eq_ok_iff _ _ _ _).mpr ⟨?_, kind, otherGiven, coordinates, relation,
    (same "type" (by decide)) ▸ typed, otherPlaced, otherRead,
    (same "relation" (by decide)) ▸ relates, rfl⟩, ?_⟩
  · rw [List.find?_eq_none] at own ⊢
    have ownKeys : ∀ key ∈ entries.map Prod.fst, isShapeKey key = true := by
      simpa using own
    rw [spelled.keys_eq] at ownKeys
    simpa using ownKeys
  · rw [same "radius" (by decide)]

end Spellings

end Resolve

end SearchFilter
