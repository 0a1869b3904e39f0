import SearchFilter.Proofs.OperatorOrder
import SearchFilter.Proofs.Interchange
import SearchFilter.Proofs.Rendering
import SearchFilter.Proofs.WellFormedTests

/-!
# Circles in bodies

The body of a test around a point is an object with two members, the center under the name of the
field and the text of the distance. It tells the field, the center and the distance of a condition,
unless the field is itself called `distance`: the two members then have one name, and only the
distance is left.
-/

namespace SearchFilter

/-- A check that passes has a result. -/
theorem Check.exists_of_isOk {ε α : Type} {check : Except ε α} (passes : check.isOk = true) :
    ∃ value, check = .ok value := by
  cases check with
  | error error => cases passes
  | ok value => exact ⟨value, rfl⟩

/-- The operators of a condition on a circle, in either order. -/
inductive CircleForm (center : Value) : Option Value → List (Operator × Value) → Prop
  | alone : CircleForm center none [(.near, center)]
  | within (radius : Value) :
      CircleForm center (some radius) [(.near, center), (.within, radius)]
  | withinFirst (radius : Value) :
      CircleForm center (some radius) [(.within, radius), (.near, center)]

namespace Resolve

section Circles

variable {setting : Setting} {enter : Operand → Diagnosed (List Query)} {field : String}
  {entries : List (Operator × Value)}

/-- A center contributes the test around it. -/
theorem contribution_near {center : Value} {contributed : Contribution} {warnings : List Warning}
    (done : contribution setting enter field entries (.near, center) =
      .done contributed warnings) :
    ∃ test, aroundPoint field center (partner? .within entries) = .ok test ∧
      contributed = .queries [Query.test field test] ∧ warnings = [] := by
  cases (contribution_form done).2 with
  | bound bounding _ => cases bounding
  | simple form =>
    cases form with
    | near built => exact ⟨_, built, rfl, rfl⟩

/-- A distance by itself contributes nothing. -/
theorem contribution_within {radius : Value} {contributed : Contribution}
    {warnings : List Warning}
    (done : contribution setting enter field entries (.within, radius) =
      .done contributed warnings) :
    contributed = .queries [] ∧ warnings = [] := by
  cases (contribution_form done).2 with
  | bound bounding _ => cases bounding
  | simple form =>
    cases form with
    | within _ => exact ⟨rfl, rfl⟩

/-- A condition on a circle is resolved to the one test around its center. -/
theorem operand_aroundPoint {center : Value} {radius : Option Value}
    (form : CircleForm center radius entries) {levels : Nat} {queries : List Query}
    {warnings : List Warning}
    (done : operand setting field levels (.ops entries) = .done queries warnings) :
    ∃ test, aroundPoint field center radius = .ok test ∧ queries = [Query.test field test] := by
  rw [operand_ops_eq] at done
  obtain ⟨contributions, collected, rfl⟩ := (Diagnosed.map_eq_done_iff _ _ _ _).mp done
  have each := Diagnosed.forall₂_of_mapM_eq_done _ _ _ _ collected
  cases form with
  | alone =>
    obtain _ | ⟨⟨_, first⟩, _ | _⟩ := each
    obtain ⟨test, read, rfl, -⟩ := contribution_near first
    exact ⟨test, read, rfl⟩
  | within given =>
    obtain _ | ⟨⟨_, first⟩, _ | ⟨⟨_, second⟩, _ | _⟩⟩ := each
    obtain ⟨test, read, rfl, -⟩ := contribution_near first
    obtain ⟨rfl, -⟩ := contribution_within second
    exact ⟨test, read, rfl⟩
  | withinFirst given =>
    obtain _ | ⟨⟨_, first⟩, _ | ⟨⟨_, second⟩, _ | _⟩⟩ := each
    obtain ⟨rfl, -⟩ := contribution_within first
    obtain ⟨test, read, rfl, -⟩ := contribution_near second
    exact ⟨test, read, rfl⟩

/-- Every way of writing a circle resolves to one test, around the point and with the text of the
distance. -/
theorem operand_circle {center : Value} {radius : Option Value}
    (form : CircleForm center radius entries) {levels : Nat} {queries : List Query}
    {warnings : List Warning}
    (done : operand setting field levels (.ops entries) = .done queries warnings) :
    ∃ place, point field center = .ok place ∧
      queries = [Query.test field (.geoDistance place (distanceText radius))] := by
  obtain ⟨test, read, rfl⟩ := operand_aroundPoint form done
  obtain ⟨place, placed, -, rfl⟩ := (aroundPoint_eq_ok_iff _ _ _ _).mp read
  exact ⟨place, placed, rfl⟩

end Circles

end Resolve

/-! ### Bodies -/

/-- Points on the globe have different bodies if they are different. Coordinates that are no finite
numbers would all be written as nulls. -/
theorem GeoPoint.body_injective {place other : GeoPoint} (onGlobe : place.IsOnGlobe)
    (otherOnGlobe : other.IsOnGlobe) (same : place.body = other.body) : place = other := by
  have read {place : GeoPoint} (onGlobe : place.IsOnGlobe) :
      Dsl.point? place.body = some place := by
    obtain ⟨latFinite, lonFinite⟩ := onGlobe.isFinite
    exact Dsl.point?_body place (by simp [floats, latFinite, lonFinite])
  exact Option.some.inj (by rw [← read onGlobe, same, read otherOnGlobe])

/-- The members of the body of a circle. -/
def circleMembers (path : String) (place : GeoPoint) (text : String) : List (String × Json) :=
  Entries.ofPairs [(path, place.body), ("distance", .string text)]

/-- The distance is found first. -/
theorem find?_circleMembers (path : String) (place : GeoPoint) (text name : String) :
    Entries.find? name (circleMembers path place text) =
      if "distance" = name then some (.string text)
      else if path = name then some place.body else none := by
  have members : circleMembers path place text =
      Entries.put "distance" (.string text) (Entries.put path place.body []) := rfl
  rw [members, Entries.find?_put, Entries.find?_put]
  rfl

/-- The center is in the body exactly if the field has a name of its own. -/
theorem find?_center_iff (path : String) (place : GeoPoint) (text : String) :
    Entries.find? path (circleMembers path place text) = some place.body ↔ path ≠ "distance" := by
  rw [find?_circleMembers]
  by_cases isDistance : "distance" = path
  · rw [if_pos isDistance]
    exact iff_of_false (fun same => by cases Option.some.inj same) fun named => named isDistance.symm
  · rw [if_neg isDistance, if_pos rfl]
    exact iff_of_true rfl fun named => isDistance named.symm

/-- Bodies of circles say the same exactly if the fields, the distances and the centers are the same,
or a common field is called `distance` and the distances are the same. -/
theorem circleMembers_alike_iff {path otherPath : String} {place otherPlace : GeoPoint}
    {text otherText : String} (onGlobe : place.IsOnGlobe) (otherOnGlobe : otherPlace.IsOnGlobe) :
    (∀ name, Entries.find? name (circleMembers path place text) =
        Entries.find? name (circleMembers otherPath otherPlace otherText)) ↔
      path = otherPath ∧ text = otherText ∧ (path = "distance" ∨ place = otherPlace) := by
  simp only [find?_circleMembers]
  constructor
  · intro alike
    have sameText : text = otherText := by simpa using alike "distance"
    by_cases isDistance : "distance" = path
    · subst isDistance
      have otherIsDistance : "distance" = otherPath := by
        by_contra different
        have there := alike otherPath
        rw [if_neg different, if_neg different, if_neg different, if_pos rfl] at there
        cases there
      exact ⟨otherIsDistance, sameText, .inl rfl⟩
    · have here := alike path
      rw [if_neg isDistance, if_pos rfl, if_neg isDistance] at here
      split at here
      · rename_i samePath
        have sameBody := Option.some.inj here
        exact ⟨samePath.symm, sameText,
          .inr (GeoPoint.body_injective onGlobe otherOnGlobe sameBody)⟩
      · cases here
  · rintro ⟨rfl, rfl, isDistance | rfl⟩ name
    · by_cases isName : "distance" = name
      · rw [if_pos isName, if_pos isName]
      · have different : path ≠ name := fun same => isName (isDistance.symm.trans same)
        simp only [if_neg isName, if_neg different]
    · rfl

namespace FilterSpec

/-- What the body of a compiled circle says: always the distance, and the center unless the field is
called `distance`. -/
structure CircleBody (path : String) (center : Value) (radius : Option Value) (place : GeoPoint)
    (members : List (String × Json)) (query : Query) : Prop where
  isCenter : Meaning.place? center = some place
  body : query.body = Query.groupBody .and [.entry "geo_distance" (.object members)]
  distance : Entries.find? "distance" members = some (.string (Resolve.distanceText radius))
  point : Entries.find? path members = some place.body ↔ path ≠ "distance"

section Condition

variable {key : String} (isField : Combinator.ofKey? key = none) {center : Value}
  {radius : Option Value} {entries : List (Operator × Value)}
  (form : CircleForm center radius entries) {fields : FieldContext} {capabilities : Capabilities}
  {limit : Nat} {compiled : CompiledQuery}
  (compiles : compile (single key (.ofOperators entries)) fields capabilities limit = .ok compiled)
include isField form compiles

/-- A condition on a circle compiles to the test around its center. -/
theorem circleBody_of_compile :
    ∃ place : GeoPoint, place.IsOnGlobe ∧
      CircleBody (Where.pathOf key) center radius place
        (circleMembers (Where.pathOf key) place (Resolve.distanceText radius)) compiled.root := by
  obtain ⟨operand, queries, shaped, resolved, root⟩ :=
    (compile_single_eq_ok_iff key _ isField fields capabilities limit compiled).mp compiles
  have isOps : Operand.ofValue (Where.pathOf key) (.ofOperators entries) = .ok (.ops entries) := by
    cases form <;> rfl
  rw [isOps] at shaped
  obtain rfl := Except.ok.inj shaped
  obtain ⟨place, read, rfl⟩ := Resolve.operand_circle form resolved
  refine ⟨place, Resolve.point_wellFormed _ _ place read, ?_⟩
  constructor
  · exact Resolve.point_eq_ok _ _ place read
  · rw [root]
    rfl
  · rw [find?_circleMembers, if_pos rfl]
  · exact find?_center_iff _ place _

end Condition

/-- Two conditions on circles that compile have the same body, whatever the order of its members,
exactly if they have the same field, the same distance and the same center, or the same distance and
a common field that is called `distance`. -/
theorem circles_lossless_but_distance {key otherKey : String}
    (isField : Combinator.ofKey? key = none) (otherIsField : Combinator.ofKey? otherKey = none)
    {center otherCenter : Value} {radius otherRadius : Option Value}
    {entries others : List (Operator × Value)} (form : CircleForm center radius entries)
    (otherForm : CircleForm otherCenter otherRadius others) (fields otherFields : FieldContext)
    (capabilities otherCapabilities : Capabilities) (limit otherLimit : Nat)
    (compiled other : CompiledQuery)
    (compiles : compile (single key (.ofOperators entries)) fields capabilities limit =
      .ok compiled)
    (otherCompiles : compile (single otherKey (.ofOperators others)) otherFields otherCapabilities
      otherLimit = .ok other) :
    ∃ place otherPlace members otherMembers,
      CircleBody (Where.pathOf key) center radius place members compiled.root ∧
      CircleBody (Where.pathOf otherKey) otherCenter otherRadius otherPlace otherMembers other.root ∧
      ((∀ name, Entries.find? name members = Entries.find? name otherMembers) ↔
        Where.pathOf key = Where.pathOf otherKey ∧
          Resolve.distanceText radius = Resolve.distanceText otherRadius ∧
            (Where.pathOf key = "distance" ∨ place = otherPlace)) := by
  obtain ⟨place, onGlobe, body⟩ := circleBody_of_compile isField form compiles
  obtain ⟨otherPlace, otherOnGlobe, otherBody⟩ :=
    circleBody_of_compile otherIsField otherForm otherCompiles
  exact ⟨place, otherPlace, _, _, body, otherBody, circleMembers_alike_iff onGlobe otherOnGlobe⟩

set_option maxRecDepth 4000 in
/-- A pair and a map for one center, with distances that are written as a number and as a text. -/
theorem circles_lossless_but_distance_of_spellings :
    let number (value : Int) : Value := .scalar (.int value)
    let first : List (Operator × Value) :=
      [(.near, .list [number 1, number 2]), (.within, number 5)]
    let second : List (Operator × Value) :=
      [(.within, .scalar (.str "5")),
        (.near, .map [(.name "lat", number 1), (.name "lon", number 2)])]
    ∃ compiled other,
      compile (single "pin.place" (.ofOperators first)) .empty ⟨fun _ => true⟩ 0 = .ok compiled ∧
        compile (single "pin.place" (.ofOperators second)) .empty ⟨fun _ => false⟩ 3 = .ok other ∧
          ∃ members otherMembers,
            compiled.root.body = Query.groupBody .and [.entry "geo_distance" (.object members)] ∧
            other.root.body = Query.groupBody .and [.entry "geo_distance" (.object otherMembers)] ∧
            ∀ name, Entries.find? name members = Entries.find? name otherMembers := by
  intro number first second
  have isField : Combinator.ofKey? "pin.place" = none := by decide
  obtain ⟨compiled, compiles⟩ : ∃ compiled,
      compile (single "pin.place" (.ofOperators first)) .empty ⟨fun _ => true⟩ 0 = .ok compiled :=
    Check.exists_of_isOk (by decide +kernel)
  obtain ⟨other, otherCompiles⟩ : ∃ other,
      compile (single "pin.place" (.ofOperators second)) .empty ⟨fun _ => false⟩ 3 = .ok other :=
    Check.exists_of_isOk (by decide +kernel)
  obtain ⟨place, otherPlace, members, otherMembers, body, otherBody, alike⟩ :=
    circles_lossless_but_distance isField isField (.within _) (.withinFirst _) .empty .empty
      ⟨fun _ => true⟩ ⟨fun _ => false⟩ 0 3 compiled other compiles otherCompiles
  have samePlace : place = otherPlace :=
    Option.some.inj (body.isCenter.symm.trans otherBody.isCenter)
  have sameText : Resolve.distanceText (some (number 5)) =
      Resolve.distanceText (some (.scalar (.str "5"))) := rfl
  exact ⟨compiled, other, compiles, otherCompiles, members, otherMembers, body.body, otherBody.body,
    alike.mpr ⟨rfl, sameText, .inr samePlace⟩⟩

set_option maxRecDepth 4000 in
/-- Two circles around different centers on a field that is called `distance` have the same body. -/
theorem centers_merged :
    let number (value : Int) : Value := .scalar (.int value)
    let condition (lat : Int) : Value := .ofOperators [(.near, .list [number lat, number 2])]
    ∃ compiled other,
      compile (single "distance" (condition 1)) .empty ⟨fun _ => true⟩ = .ok compiled ∧
        compile (single "distance" (condition 3)) .empty ⟨fun _ => true⟩ = .ok other ∧
          compiled.root.body = other.root.body ∧
            Meaning.place? (.list [number 1, number 2]) ≠
              Meaning.place? (.list [number 3, number 2]) := by
  intro number condition
  exact ⟨_, _, rfl, rfl, rfl, by decide⟩

end FilterSpec

end SearchFilter
