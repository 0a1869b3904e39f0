import SearchFilter.Proofs.PlaceForms

/-!
# Spellings of conditions on places

Points, polygons and the coordinates of shapes have two forms each, and a box is given by either
pair of opposite corners. A condition on a field can be spelled in any of these ways, at any number
of places under negations and in sub-specifications, and compiles to the same query with the same
warnings, or not at all.
-/

namespace SearchFilter

/-! ### Spellings -/

/-- The operators that give a corner of a box. -/
def Operator.isCorner : Operator → Bool
  | .topLeft | .bottomRight | .topRight | .bottomLeft => true
  | _ => false

/-- The operand of an operator on places in two spellings. -/
inductive OperandSpelling : Operator → Value → Value → Prop
  | point {value other : Value} (op : Operator) (onPoint : op = .near ∨ op.isCorner = true)
      (spelling : PointSpelling value other) : OperandSpelling op value other
  | polygon {points others : List Value} {value other : Value} (form : PolygonForm points value)
      (otherForm : PolygonForm others other)
      (vertices : List.Forall₂ (Relation.ReflGen PointSpelling) points others) :
      OperandSpelling .geoPolygon value other
  | shape {value other : Value} (before after : List (Key × Value))
      (spelling : CoordinatesSpelling value other) :
      OperandSpelling .geoShape (.map (before ++ (.name "coordinates", value) :: after))
        (.map (before ++ (.name "coordinates", other) :: after))

/-- The diagonals of a box, each of which goes down from a corner at the top. -/
inductive Diagonal
  | falling
  | rising

/-- The latitudes and longitudes that bound a box. -/
structure BoxSides where
  north : Value
  west : Value
  south : Value
  east : Value

namespace BoxSides

/-- The top and the bottom corner on a diagonal, each under its operator. -/
def top (sides : BoxSides) : Diagonal → Operator × Value
  | .falling => (.topLeft, .list [sides.north, sides.west])
  | .rising => (.topRight, .list [sides.north, sides.east])

/-- The lower corner of a diagonal with its operator. -/
def bottom (sides : BoxSides) : Diagonal → Operator × Value
  | .falling => (.bottomRight, .list [sides.south, sides.east])
  | .rising => (.bottomLeft, .list [sides.south, sides.west])

/-- Entries with the corners on a diagonal in two places among others. -/
def placed (sides : BoxSides) (diagonal : Diagonal) (topFirst : Bool) {α : Type}
    (spelled : Operator × Value → α) (before between after : List α) : List α :=
  if topFirst then
    before ++ spelled (sides.top diagonal) :: between ++ spelled (sides.bottom diagonal) :: after
  else before ++ spelled (sides.bottom diagonal) :: between ++ spelled (sides.top diagonal) :: after

end BoxSides

/-- A condition with one of its places in two spellings. -/
inductive PlaceSpelling : Value → Value → Prop
  | operand {value other : Value} (op : Operator) (before after : List (Key × Value))
      (spelling : OperandSpelling op value other) :
      PlaceSpelling (.map (before ++ (.op op, value) :: after))
        (.map (before ++ (.op op, other) :: after))
  | box (sides : BoxSides) (diagonal other : Diagonal) (topFirst : Bool)
      (before between after : List (Key × Value))
      (cornerless : ∀ entry ∈ before ++ between ++ after, ∀ op, entry.1 = .op op →
        op.isCorner = false) :
      PlaceSpelling (.map (sides.placed diagonal topFirst Resolve.keyed before between after))
        (.map (sides.placed other topFirst Resolve.keyed before between after))

/-- Two spellings of an operand are spellings of each other. -/
theorem OperandSpelling.symm {op : Operator} {value other : Value}
    (spelling : OperandSpelling op value other) : OperandSpelling op other value := by
  cases spelling with
  | point _ onPoint spelling => exact .point op onPoint spelling.symm
  | polygon form otherForm vertices =>
    refine .polygon otherForm form (vertices.flip.imp fun vertex given alike => ?_)
    cases alike with
    | refl => exact .refl
    | single spelling => exact .single spelling.symm
  | shape before after spelling => exact .shape before after spelling.symm

/-- Two spellings of a condition on places are spellings of each other. -/
theorem PlaceSpelling.symm {value other : Value} (spelling : PlaceSpelling value other) :
    PlaceSpelling other value := by
  cases spelling with
  | operand op before after spelling => exact .operand op before after spelling.symm
  | box sides diagonal other topFirst before between after cornerless =>
    exact .box sides other diagonal topFirst before between after cornerless

/-- Only operators on places have operands with two spellings, and a distance has just one. -/
theorem OperandSpelling.onPlaces {op : Operator} {value other : Value}
    (spelling : OperandSpelling op value other) : op.isGeo = true ∧ op ≠ .within := by
  cases spelling with
  | point _ onPoint =>
    obtain rfl | isCorner := onPoint
    · decide
    · cases op <;> first | exact ⟨rfl, by decide⟩ | cases isCorner
  | polygon | shape => exact ⟨rfl, by decide⟩

namespace Resolve

open Check (bind_eq_ok_iff map_eq_ok_iff)
open Diagnosed (Paired)

/-! ### Operands -/

section Operands

variable (setting : Setting) (field : String)

/-- The operand of an operator that takes a point is read as the same point in both spellings. -/
theorem point_operand_spelled {op : Operator} (onPoint : op = .near ∨ op.isCorner = true)
    {value other : Value} (spelled : Relation.ReflGen (OperandSpelling op) value other) :
    Check.Mirrored Eq (point field value) (point field other) := by
  cases spelled with
  | refl => exact .refl Eq (fun _ => rfl) _
  | single spelling =>
    cases spelling with
    | point _ _ spelling => exact point_spelled field spelling
    | polygon | shape => simp [Operator.isCorner] at onPoint

/-- Whatever is made of a point is the same if the point is. -/
theorem point_bind_spelled {value other : Value}
    (points : Check.Mirrored Eq (point field value) (point field other))
    {next otherNext : GeoPoint → Except CompileError Test}
    (following : ∀ place, Check.Mirrored Eq (next place) (otherNext place)) :
    Check.Mirrored Eq (point field value >>= next) (point field other >>= otherNext) := by
  refine points.bind fun place given same => ?_
  subst same
  exact following place

variable {entries others : List (Operator × Value)}
  (spelled : Spelled OperandSpelling entries others)
include spelled

/-- A partner is there in both spellings or in neither, and is then the same or respelled. -/
theorem requirePartner_spelled (op wanted : Operator) :
    Check.Mirrored (Relation.ReflGen (OperandSpelling wanted))
      (requirePartner field entries op wanted) (requirePartner field others op wanted) := by
  intro value required
  have found : partner? wanted entries = some value := by
    unfold requirePartner at required
    split at required
    · rename_i isFound
      rw [isFound, Except.ok.inj required]
    · cases required
  obtain ⟨other, otherFound, are⟩ := spelled.found_of_some found
  have otherPartner : partner? wanted others = some other := otherFound
  exact ⟨other, by rw [requirePartner, otherPartner], are⟩

/-- An entry gives the same queries however its operand and those of its partners are spelled. -/
theorem simpleEntry_spelled {op : Operator} {value other : Value}
    (operands : Relation.ReflGen (OperandSpelling op) value other) :
    Paired Eq Eq (simpleEntry setting field entries op value)
      (simpleEntry setting field others op other) := by
  -- The operands that are read at another entry are those of the partners, which are spelled alike.
  have opposite (op wanted : Operator) := requirePartner_spelled field spelled op wanted
  have unchanged (check : Except CompileError Test) : Check.Mirrored Eq check check :=
    .refl Eq (fun _ => rfl) check
  have asQuery (test given : Test) (same : test = given) :
      Check.Mirrored Eq (pure [Query.test field test] : Except CompileError (List Query))
        (pure [Query.test field given]) := .ok (by rw [same])
  cases op with
  | near =>
    have radius : partner? .within entries = partner? .within others :=
      spelled.found_eq .within fun _ _ spelling => spelling.onPlaces.2 rfl
    have center := point_operand_spelled field (.inl rfl) operands
    rw [simpleEntry, simpleEntry, radius]
    exact .lift ((point_bind_spelled field center fun _ => unchanged _).bind asQuery)
  | topLeft | topRight =>
    have corner := point_operand_spelled field (.inr rfl) operands
    refine .lift ((opposite _ _).bind fun first second are => ?_)
    have completed := point_operand_spelled field (.inr rfl) are
    exact (point_bind_spelled field corner fun _ =>
      point_bind_spelled field completed fun _ => unchanged _).bind asQuery
  | within | bottomRight | bottomLeft =>
    exact .lift ((opposite _ _).bind fun _ _ _ => .ok rfl)
  | geoPolygon =>
    cases operands with
    | refl => exact .rfl
    | single spelling =>
      cases spelling with
      | point _ onPoint => simp [Operator.isCorner] at onPoint
      | polygon form otherForm vertices =>
        exact (inPolygon_spelled field setting.capabilities form otherForm vertices).bind
          fun _ _ same => same ▸ .rfl
  | geoShape =>
    cases operands with
    | refl => exact .rfl
    | single spelling =>
      cases spelling with
      | point _ onPoint => simp [Operator.isCorner] at onPoint
      | shape before after spelling =>
        exact .lift ((toShape_spelled field setting.limit
          (spelled_of_replaced ⟨rfl, spelling⟩ before after)).bind asQuery)
  | _ =>
    cases operands with
    | refl => exact .rfl
    | single spelling => cases spelling.onPlaces.1

/-- What an entry contributes does not depend on the spelling of its operand or of those around
it. -/
theorem contribution_spelled (enter : Operand → Diagnosed (List Query)) {op : Operator}
    {value other : Value} (operands : Relation.ReflGen (OperandSpelling op) value other) :
    Paired Eq (Contribution.Related Eq) (contribution setting enter field entries (op, value))
      (contribution setting enter field others (op, other)) := by
  refine Paired.rfl.bind fun _ _ _ => ?_
  cases op with
  | equal | negation | greater | greaterOrEqual | less | lessOrEqual =>
    cases operands with
    | refl => exact .refl .same _
    | single spelling => cases spelling.onPlaces.1
  | _ =>
    exact (simpleEntry_spelled setting field spelled operands).bind fun _ _ same =>
      .pure (.queries same)

/-- An operator map resolves to the same queries in both spellings, with the same warnings. -/
theorem operandWith_spelled (enter : Operand → Diagnosed (List Query)) :
    Paired Eq Eq (operandWith setting enter field (.ops entries))
      (operandWith setting enter field (.ops others)) := by
  refine operandWith_paired .eq field (spelled.imp fun entry other are => ?_)
  obtain ⟨op, value⟩ := entry
  obtain ⟨otherOp, otherValue⟩ := other
  obtain ⟨rfl, operands⟩ :
    op = otherOp ∧ Relation.ReflGen (OperandSpelling op) value otherValue := are
  exact contribution_spelled setting field spelled enter operands

end Operands

/-! ### Boxes -/

section Boxes

variable (setting : Setting) (field : String) (sides : BoxSides)

/-- The test for the box, read from the corners on a diagonal. -/
def boxTest : Diagonal → Except CompileError Test
  | .falling => boxFromTopLeft field (sides.top .falling).2 (sides.bottom .falling).2
  | .rising => boxFromTopRight field (sides.top .rising).2 (sides.bottom .rising).2

/-- On either diagonal, the corners are accepted exactly when the sides of the box are angles, the
northern one not below the southern one, and they give the box with these sides. -/
theorem boxTest_eq_ok_iff (diagonal : Diagonal) (test : Test) :
    boxTest field sides diagonal = .ok test ↔
      ∃ north west south east, IsAngle 90 sides.north north ∧ IsAngle 180 sides.west west ∧
        IsAngle 90 sides.south south ∧ IsAngle 180 sides.east east ∧
          inBox field ⟨north, west⟩ ⟨south, east⟩ = .ok test := by
  have corner (lat lon : Value) (place : GeoPoint) :=
    point_eq_ok_iff field place (.pair : PlaceForm [lat, lon] lat lon _)
  cases diagonal with
  | falling =>
    simp only [boxTest, boxFromTopLeft, BoxSides.top, BoxSides.bottom, bind_eq_ok_iff, corner]
    constructor
    · rintro ⟨⟨north, west⟩, ⟨isNorth, isWest⟩, ⟨south, east⟩, ⟨isSouth, isEast⟩, boxed⟩
      exact ⟨north, west, south, east, isNorth, isWest, isSouth, isEast, boxed⟩
    · rintro ⟨north, west, south, east, isNorth, isWest, isSouth, isEast, boxed⟩
      exact ⟨⟨north, west⟩, ⟨isNorth, isWest⟩, ⟨south, east⟩, ⟨isSouth, isEast⟩, boxed⟩
  | rising =>
    simp only [boxTest, boxFromTopRight, BoxSides.top, BoxSides.bottom, bind_eq_ok_iff, corner]
    constructor
    · rintro ⟨⟨north, east⟩, ⟨isNorth, isEast⟩, ⟨south, west⟩, ⟨isSouth, isWest⟩, boxed⟩
      exact ⟨north, west, south, east, isNorth, isWest, isSouth, isEast, boxed⟩
    · rintro ⟨north, west, south, east, isNorth, isWest, isSouth, isEast, boxed⟩
      exact ⟨⟨north, east⟩, ⟨isNorth, isEast⟩, ⟨south, west⟩, ⟨isSouth, isWest⟩, boxed⟩

/-- What is required of the declared type of a field is the same for every operator on places. -/
theorem requireGeo_mirrored (op other : Operator) :
    Check.Mirrored Eq (requireGeo setting field op) (requireGeo setting field other) := by
  unfold requireGeo
  cases setting.fields.type? field with
  | none => exact .ok rfl
  | some type =>
    dsimp only
    split
    · exact .ok rfl
    · exact .of_error _ _

/-- A partner that is there is what is required. -/
theorem requirePartner_of_found {entries : List (Operator × Value)} {wanted : Operator}
    {value : Value} (found : partner? wanted entries = some value) (op : Operator) :
    requirePartner field entries op wanted = .ok value := by
  rw [requirePartner, found]

variable {entries others : List (Operator × Value)}

/-- The corner at the top gives the test for the box, if the opposite corner is there. -/
theorem simpleEntry_top (diagonal : Diagonal)
    (completed : partner? (sides.bottom diagonal).1 entries = some (sides.bottom diagonal).2) :
    simpleEntry setting field entries (sides.top diagonal).1 (sides.top diagonal).2 =
      .lift (boxTest field sides diagonal >>= fun test => pure [Query.test field test]) := by
  cases diagonal with
  | falling =>
    change Diagnosed.lift (requirePartner field entries _ (sides.bottom .falling).1 >>= _) = _
    rw [requirePartner_of_found field completed]
    rfl
  | rising =>
    change Diagnosed.lift (requirePartner field entries _ (sides.bottom .rising).1 >>= _) = _
    rw [requirePartner_of_found field completed]
    rfl

/-- The corner at the bottom gives no query of its own. -/
theorem simpleEntry_bottom (diagonal : Diagonal)
    (started : partner? (sides.top diagonal).1 entries = some (sides.top diagonal).2) :
    simpleEntry setting field entries (sides.bottom diagonal).1 (sides.bottom diagonal).2 =
      .done [] [] := by
  cases diagonal with
  | falling =>
    change Diagnosed.lift (requirePartner field entries _ (sides.top .falling).1 >>= _) = _
    rw [requirePartner_of_found field started]
    rfl
  | rising =>
    change Diagnosed.lift (requirePartner field entries _ (sides.top .rising).1 >>= _) = _
    rw [requirePartner_of_found field started]
    rfl

/-- Corners contribute the same if they give the same queries. -/
theorem contribution_corner (enter : Operand → Diagnosed (List Query)) {op other : Operator}
    (isCorner : op.isCorner = true) (otherIsCorner : other.isCorner = true) {value given : Value}
    (queries : Paired Eq Eq (simpleEntry setting field entries op value)
      (simpleEntry setting field others other given)) :
    Paired Eq (Contribution.Related Eq) (contribution setting enter field entries (op, value))
      (contribution setting enter field others (other, given)) := by
  have unfolded (op : Operator) (isCorner : op.isCorner = true) (value : Value)
      (entries : List (Operator × Value)) :
      contribution setting enter field entries (op, value) = (do
        Diagnosed.lift (requireGeo setting field op)
        return .queries (← simpleEntry setting field entries op value)) := by
    cases op <;> first | rfl | cases isCorner
  rw [unfolded op isCorner, unfolded other otherIsCorner]
  exact (Paired.lift (requireGeo_mirrored setting field op other)).bind fun _ _ _ =>
    queries.bind fun _ _ same => .pure (.queries same)

/-- Operators that are no corners are resolved without the corners in the map. -/
theorem contribution_cornerless (enter : Operand → Diagnosed (List Query))
    (same : ∀ wanted, wanted.isCorner = false → partner? wanted entries = partner? wanted others)
    (entry : Operator × Value) (cornerless : entry.1.isCorner = false) :
    contribution setting enter field entries entry =
      contribution setting enter field others entry := by
  obtain ⟨op, value⟩ := entry
  cases op with
  | topLeft | bottomRight | topRight | bottomLeft => cases cornerless
  | _ =>
    simp only [contribution, contributed, simpleEntry, requirePartner, same .within rfl,
      same .near rfl]

/-- A box is given by two corners, whichever diagonal they are on. -/
theorem isCorner_of_diagonal (diagonal : Diagonal) :
    (sides.top diagonal).1.isCorner = true ∧ (sides.bottom diagonal).1.isCorner = true := by
  cases diagonal <;> exact ⟨rfl, rfl⟩

section Placed

variable (diagonal : Diagonal) (topFirst : Bool) {before between after : List (Operator × Value)}

/-- The corners on a diagonal are found if there are no others. -/
theorem partner?_placed
    (cornerless : ∀ entry ∈ before ++ between ++ after, entry.1.isCorner = false) :
    let entries := sides.placed diagonal topFirst id before between after
    partner? (sides.top diagonal).1 entries = some (sides.top diagonal).2 ∧
      partner? (sides.bottom diagonal).1 entries = some (sides.bottom diagonal).2 := by
  have absent (op : Operator) (isCorner : op.isCorner = true) :
      before.find? (fun entry => entry.1 = op) = none ∧
        between.find? (fun entry => entry.1 = op) = none := by
    have different (entry : Operator × Value) (member : entry ∈ before ++ between ++ after) :
        ¬decide (entry.1 = op) = true := by
      intro same
      rw [← of_decide_eq_true same, cornerless entry member] at isCorner
      cases isCorner
    constructor
    · exact List.find?_eq_none.mpr fun entry member => different entry (by simp [member])
    · exact List.find?_eq_none.mpr fun entry member => different entry (by simp [member])
  obtain ⟨top, bottom⟩ := isCorner_of_diagonal sides diagonal
  have distinct : (sides.top diagonal).1 ≠ (sides.bottom diagonal).1 := by
    intro same
    cases diagonal <;> cases same
  cases topFirst <;>
    simp [BoxSides.placed, partner?, List.find?_append, absent _ top, absent _ bottom, distinct,
      distinct.symm]

/-- An operator that is no corner is found where it would be without the box. -/
theorem partner?_placed_cornerless (wanted : Operator) (cornerless : wanted.isCorner = false) :
    partner? wanted (sides.placed diagonal topFirst id before between after) =
      partner? wanted (before ++ between ++ after) := by
  have different (op : Operator) (isCorner : op.isCorner = true) : op ≠ wanted := by
    rintro rfl
    rw [isCorner] at cornerless
    cases cornerless
  obtain ⟨top, bottom⟩ := isCorner_of_diagonal sides diagonal
  cases topFirst <;>
    simp [BoxSides.placed, partner?, List.find?_append, different _ top, different _ bottom]

end Placed

/-- A box resolves to the same queries from either diagonal, since the entries around it are no
corners. -/
theorem operandWith_box (enter : Operand → Diagnosed (List Query)) (diagonal other : Diagonal)
    (topFirst : Bool) {before between after : List (Operator × Value)}
    (cornerless : ∀ entry ∈ before ++ between ++ after, entry.1.isCorner = false) :
    Paired Eq Eq (operandWith setting enter field
        (.ops (sides.placed diagonal topFirst id before between after)))
      (operandWith setting enter field
        (.ops (sides.placed other topFirst id before between after))) := by
  obtain ⟨started, completed⟩ := partner?_placed sides diagonal topFirst cornerless
  obtain ⟨otherStarted, otherCompleted⟩ := partner?_placed sides other topFirst cornerless
  obtain ⟨isTop, isBottom⟩ := isCorner_of_diagonal sides diagonal
  obtain ⟨otherIsTop, otherIsBottom⟩ := isCorner_of_diagonal sides other
  apply operandWith_paired .eq field
  -- Both diagonals give one box, which stands at the top corner. The bottom corner gives nothing,
  -- and the entries around them look for no corner, so that each of the three is compared by
  -- itself.
  have boxes : Check.Mirrored Eq (boxTest field sides diagonal) (boxTest field sides other) :=
    fun test accepted => ⟨test, (boxTest_eq_ok_iff field sides other test).mpr
      ((boxTest_eq_ok_iff field sides diagonal test).mp accepted), rfl⟩
  have top := contribution_corner setting field enter isTop otherIsTop <| by
    rw [simpleEntry_top setting field sides diagonal completed,
      simpleEntry_top setting field sides other otherCompleted]
    exact .lift (boxes.bind fun _ _ same => .ok (by rw [same]))
  have bottom := contribution_corner setting field enter isBottom otherIsBottom <| by
    rw [simpleEntry_bottom setting field sides diagonal started,
      simpleEntry_bottom setting field sides other otherStarted]
    exact .rfl
  have unchanged (entries : List (Operator × Value))
      (each : ∀ entry ∈ entries, entry.1.isCorner = false) :
      List.Forall₂ (fun entry given => Paired Eq (Contribution.Related Eq)
        (contribution setting enter field (sides.placed diagonal topFirst id before between after)
          entry)
        (contribution setting enter field (sides.placed other topFirst id before between after)
          given)) entries entries := by
    refine List.forall₂_same.mpr fun entry member => ?_
    rw [contribution_cornerless setting field enter (fun wanted free => ?_) entry
      (each entry member)]
    · exact .refl .same _
    · rw [partner?_placed_cornerless sides diagonal topFirst wanted free,
        partner?_placed_cornerless sides other topFirst wanted free]
  simp only [List.forall_mem_append] at cornerless
  obtain ⟨⟨freeBefore, freeBetween⟩, freeAfter⟩ := cornerless
  -- The entries are compared in their order, which is that of the corners.
  cases topFirst with
  | false =>
    exact List.rel_append (List.rel_append (unchanged before freeBefore)
      (.cons bottom (unchanged between freeBetween))) (.cons top (unchanged after freeAfter))
  | true =>
    exact List.rel_append (List.rel_append (unchanged before freeBefore)
      (.cons top (unchanged between freeBetween))) (.cons bottom (unchanged after freeAfter))

end Boxes

end Resolve

/-! ### Conditions and specifications -/

/-- Two entries are read among others as they stand. -/
theorem Operand.mapM_entry_eq_ok_iff (first second : Operator × Value)
    (before between after : List (Key × Value)) (entries : List (Operator × Value)) :
    (before ++ Resolve.keyed first :: between ++ Resolve.keyed second :: after).mapM
        Operand.entry = .ok entries ↔
      ∃ earlier middle later, before.mapM Operand.entry = .ok earlier ∧
        between.mapM Operand.entry = .ok middle ∧ after.mapM Operand.entry = .ok later ∧
          entries = earlier ++ first :: middle ++ second :: later := by
  have read (entry given : Operator × Value) :
      Operand.entry (Resolve.keyed entry) = .ok given ↔ entry = given :=
    ⟨Except.ok.inj, congrArg Except.ok⟩
  simp only [List.mapM_append, List.mapM_cons, Check.bind_eq_ok_iff, Check.pure_eq_ok_iff, read]
  constructor
  · rintro ⟨_, ⟨earlier, beforeRead, _, ⟨_, rfl, middle, betweenRead, rfl⟩, rfl⟩, _,
      ⟨_, rfl, later, afterRead, rfl⟩, rfl⟩
    exact ⟨earlier, middle, later, beforeRead, betweenRead, afterRead, rfl⟩
  · rintro ⟨earlier, middle, later, beforeRead, betweenRead, afterRead, rfl⟩
    exact ⟨_, ⟨earlier, beforeRead, _, ⟨_, rfl, middle, betweenRead, rfl⟩, rfl⟩, _,
      ⟨_, rfl, later, afterRead, rfl⟩, rfl⟩

/-- Entries around the corners of a box are read as entries around the same corners. -/
theorem BoxSides.mapM_placed_eq_ok_iff (sides : BoxSides) (diagonal : Diagonal) (topFirst : Bool)
    (before between after : List (Key × Value)) (entries : List (Operator × Value)) :
    (sides.placed diagonal topFirst Resolve.keyed before between after).mapM Operand.entry =
        .ok entries ↔
      ∃ earlier middle later, before.mapM Operand.entry = .ok earlier ∧
        between.mapM Operand.entry = .ok middle ∧ after.mapM Operand.entry = .ok later ∧
          entries = sides.placed diagonal topFirst id earlier middle later := by
  cases topFirst with
  | false => exact Operand.mapM_entry_eq_ok_iff _ _ before between after entries
  | true => exact Operand.mapM_entry_eq_ok_iff _ _ before between after entries

/-- In the place of a condition its other spelling is resolved to the same queries. -/
theorem PlaceSpelling.exchanged {value other : Value} (spelling : PlaceSpelling value other) :
    value.Exchanged Eq other := by
  cases spelling with
  | @operand value other op before after spelling =>
    refine ⟨rfl, rfl, fun field shape shaped => ?_⟩
    obtain ⟨entries, read, rfl⟩ := (Check.map_eq_ok_iff _ _ _).mp shaped
    obtain ⟨earlier, later, rfl, again⟩ := Check.mapM_replaced Operand.entry Resolve.keyed
      Operand.entry_eq_ok_iff before after (op, value) entries read
    refine ⟨_, (Check.map_eq_ok_iff _ _ _).mpr ⟨_, again (op, other), rfl⟩, ?_⟩
    intro setting field levels
    rw [Resolve.operand_eq_operandWith]
    exact Resolve.operandWith_spelled setting field (spelled_of_replaced spelling earlier later) _
  | box sides diagonal other topFirst before between after cornerless =>
    refine ⟨rfl, rfl, fun field shape shaped => ?_⟩
    obtain ⟨entries, read, rfl⟩ := (Check.map_eq_ok_iff _ _ _).mp shaped
    obtain ⟨earlier, middle, later, beforeRead, betweenRead, afterRead, rfl⟩ :=
      (sides.mapM_placed_eq_ok_iff _ _ _ _ _ _).mp read
    have otherRead := (sides.mapM_placed_eq_ok_iff other topFirst before between after _).mpr
      ⟨earlier, middle, later, beforeRead, betweenRead, afterRead, rfl⟩
    refine ⟨_, (Check.map_eq_ok_iff _ _ _).mpr ⟨_, otherRead, rfl⟩, ?_⟩
    intro setting field levels
    rw [Resolve.operand_eq_operandWith]
    refine Resolve.operandWith_box setting field sides _ diagonal other topFirst ?_
    have spelled (entries : List (Operator × Value)) (given : List (Key × Value))
        (read : given.mapM Operand.entry = .ok entries) : given = entries.map Resolve.keyed :=
      Check.eq_map_of_mapM_eq_ok Operand.entry Resolve.keyed
        (fun item result => (Operand.entry_eq_ok_iff item result).mp) given entries read
    rw [spelled earlier before beforeRead, spelled middle between betweenRead,
      spelled later after afterRead, ← List.map_append, ← List.map_append] at cornerless
    intro entry member
    exact cornerless _ (List.mem_map_of_mem member) entry.1 rfl

/-- A condition with two spellings is an operator map. -/
theorem PlaceSpelling.map {value other : Value} (spelling : PlaceSpelling value other) :
    ∃ entries, value = .map entries := by
  cases spelling <;> exact ⟨_, rfl⟩

/-- The rule that spells a place differently, in the condition on a field or in an operator map
inside of it. -/
def Value.PlacesRespelled : Value → Value → Prop :=
  Value.Applied (fun op => op.isGeo = false) PlaceSpelling

/-- Respelled conditions may be put into the place of each other in both directions. -/
theorem Value.PlacesRespelled.exchanged {value other : Value}
    (respelled : value.PlacesRespelled other) :
    value.Exchanged Eq other ∧ other.Exchanged Eq value := by
  constructor
  · exact Value.Applied.exchanged .eq (fun _ _ spelling => spelling.exchanged)
      (fun _ => id) (fun _ _ _ _ _ spelling => spelling.map) respelled
  · exact Value.Applied.exchanged .eq
      (fun _ _ spelling => PlaceSpelling.exchanged (PlaceSpelling.symm spelling))
      (fun _ => id) (fun _ _ _ _ _ spelling => PlaceSpelling.map (PlaceSpelling.symm spelling))
      respelled.reverse

namespace FilterSpec

/-- Whether two specifications differ only in how places are spelled, in any number of conditions at
any depth. The specifications in between need not have distinct keys. -/
def PlacedAlike (spec other : FilterSpec) : Prop :=
  Relation.EqvGen (Where.RewrittenAmong (Where.AtField Value.PlacesRespelled)) spec.entries
    other.entries

/-- The induction is on the spellings one after the other, each of which can be taken back. -/
theorem query_placedAlike (setting : Resolve.Setting) (limit levels depth : Nat)
    {entries others : List (String × Value)}
    (alike : Relation.EqvGen (Where.RewrittenAmong (Where.AtField Value.PlacesRespelled)) entries
      others) (root : Query) (warnings : List Warning) :
    (∃ clauses, Where.ofEntries limit levels entries = .ok clauses ∧
        Where.query setting depth clauses = .done root warnings) ↔
      ∃ clauses, Where.ofEntries limit levels others = .ok clauses ∧
        Where.query setting depth clauses = .done root warnings := by
  induction alike with
  | rel entries others rewritten =>
    constructor
    · intro built
      obtain ⟨_, otherBuilt, same⟩ := Where.query_exchanged .eq
        (Where.ofEntries_exchanged .eq (fun _ _ respelled => respelled.exchanged.1) limit levels
          rewritten) built
      cases same
      exact otherBuilt
    · intro built
      obtain ⟨_, otherBuilt, same⟩ := Where.query_exchanged .eq
        (Where.ofEntries_exchanged_reverse .eq limit
          (fun _ _ respelled => Value.PlacesRespelled.exchanged respelled |>.2) levels rewritten)
        built
      cases same
      exact otherBuilt
  | refl entries => exact Iff.rfl
  | symm _ _ _ inductionHypothesis => exact inductionHypothesis.symm
  | trans _ _ _ _ _ firstHypothesis secondHypothesis =>
    exact firstHypothesis.trans secondHypothesis

/-- However places are spelled, a specification compiles to the same query with the same warnings,
or does not compile. -/
theorem placedAlike_compile_alike (spec other : FilterSpec) (alike : spec.PlacedAlike other) :
    ∀ fields capabilities limit compiled,
      compile spec fields capabilities limit = .ok compiled ↔
        compile other fields capabilities limit = .ok compiled := by
  intro fields capabilities limit compiled
  rw [compile_eq_ok_iff, compile_eq_ok_iff]
  exact query_placedAlike ⟨fields, capabilities, limit⟩ limit limit 0 alike compiled.root
    compiled.warnings

set_option maxRecDepth 4000 in
/-- A negated circle in a disjunction, a box, a polygon and a shape, each spelled differently. -/
theorem placedAlike_compile_alike_of_each :
    let number (value : Int) : Value := .scalar (.int value)
    let pair (lat lon : Int) : Value := .list [number lat, number lon]
    let parts (lat lon : Int) : Value :=
      .map [(.name "lon", number lon), (.name "lat", number lat)]
    let around (center : Value) : String × Value :=
      ("_or", .list [.map [(.name "a", .map [(.op .negation, .map [(.op .near, center)])])]])
    let shape (place : Value) : Value := .map [(.op .geoShape,
      .map [(.name "type", .scalar (.str "MultiPoint")), (.name "coordinates", .list [place])])]
    let corners := [pair 0 0, pair 0 4, pair 4 0]
    let spec := ofPairs [around (pair 1 2),
      ("b", .map [(.op .topLeft, pair 3 1), (.op .bottomRight, pair 1 4)]),
      ("c", .map [(.op .geoPolygon, .list corners)]), ("d", shape (pair 2 1))]
    let other := ofPairs [around (parts 1 2),
      ("b", .map [(.op .topRight, pair 3 4), (.op .bottomLeft, pair 1 1)]),
      ("c", .map [(.op .geoPolygon, .map [(.name "points", .list corners)])]),
      ("d", shape (parts 1 2))]
    spec.PlacedAlike other ∧
      ∃ compiled, compile spec .empty ⟨fun _ => true⟩ 2 = .ok compiled ∧
        compile other .empty ⟨fun _ => true⟩ 2 = .ok compiled := by
  intro number pair parts around shape corners spec other
  have atField (key : String) (isField : Combinator.ofKey? key = none) (value given : Value)
      (spelling : PlaceSpelling value given) :
      Where.AtField Value.PlacesRespelled (key, value) (key, given) :=
    .intro key isField (.here spelling)
  have center : PlaceSpelling (.map [(.op .near, pair 1 2)]) (.map [(.op .near, parts 1 2)]) :=
    .operand .near [] [] (.point .near (.inl rfl) ⟨.pair, .map _ rfl rfl⟩)
  have negated : Value.PlacesRespelled (.map [(.op .negation, .map [(.op .near, pair 1 2)])])
      (.map [(.op .negation, .map [(.op .near, parts 1 2)])]) :=
    .operand .negation (by rfl) [] [] (.here center)
  -- One respelling for each field, the first of them two levels deep.
  have inDisjunction : Where.RewrittenAmong (Where.AtField Value.PlacesRespelled) _ _ :=
    .intro [] spec.entries.tail (.inside "_or" .flatOr rfl _ (.listed .flatOr rfl [] []) [] []
      (.here (.intro "a" rfl negated)))
  have box := atField "b" rfl _ _
    (.box ⟨number 3, number 1, number 1, number 4⟩ .falling .rising true [] [] [] (by simp))
  have polygon := atField "c" rfl _ _
    (.operand .geoPolygon [] [] (.polygon (.list : PolygonForm corners _)
      (.map [(.name "points", .list corners)] rfl) (List.forall₂_same.mpr fun _ _ => .refl)))
  have coordinates := atField "d" rfl _ _
    (.operand .geoShape [] [] (.shape [(.name "type", .scalar (.str "MultiPoint"))] []
      (.listed [] [] (.point rfl .pair (.map [(.name "lon", number 2), (.name "lat", number 1)]
        rfl rfl)))))
  have alike : spec.PlacedAlike other :=
    .trans _ _ _ (.rel _ _ inDisjunction) <|
      .trans _ _ _ (.rel _ _ (.intro [_] [_, _] (.here box))) <|
      .trans _ _ _ (.rel _ _ (.intro [_, _] [_] (.here polygon)))
        (.rel _ _ (.intro [_, _, _] [] (.here coordinates)))
  have compiles : ∃ compiled, compile spec .empty ⟨fun _ => true⟩ 2 = .ok compiled := ⟨_, rfl⟩
  obtain ⟨compiled, specCompiles⟩ := compiles
  exact ⟨alike, compiled, specCompiles,
    (placedAlike_compile_alike spec other alike .empty ⟨fun _ => true⟩ 2 compiled).mp
      specCompiles⟩

end FilterSpec

end SearchFilter
