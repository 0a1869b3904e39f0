import SearchFilter.Proofs.Checks
import SearchFilter.Proofs.Easing
import SearchFilter.Proofs.Gates

/-!
# The nesting limit is exact

How many levels a specification needs can be read off it. Combinators, equalities and negations of
what has no negation of its own are entered, each one level below what it stands in; the coordinates
of shapes are counted by themselves. A specification that compiles at some limit compiles at another
one exactly if that limit is enough for both, always to the same query with the same warnings.
-/

namespace SearchFilter

open Check (Gated)

/-! ### The levels that are needed -/

namespace Value

mutual

/-- The levels of operands that a condition on a field enters. -/
def need : Value → Nat
  | .map entries => operatorsNeed entries
  | _ => 0

/-- The most levels that the entries of an operator map enter: one for an equality, and for a
negation one more than what is negated enters unless it has a negation of its own. -/
def operatorsNeed : List (Key × Value) → Nat
  | [] => 0
  | (.op .equal, _) :: rest => max 1 (operatorsNeed rest)
  | (.op .negation, value) :: rest =>
    max (if value.hasOwnNegation then 0 else 1 + value.need) (operatorsNeed rest)
  | _ :: rest => operatorsNeed rest

end

mutual

/-- The most levels that the entries of a specification enter. -/
def entriesNeed : List (Key × Value) → Nat
  | [] => 0
  | (key, value) :: rest =>
    max (match Combinator.ofKey? key.text with
      | some _ => value.membersNeed
      | none => value.need) (entriesNeed rest)

/-- The most levels that the sub-specifications under the key of a combinator enter, each of them
one by itself. -/
def membersNeed : Value → Nat
  | .map entries => 1 + entriesNeed entries
  | .list items => itemsNeed items
  | _ => 0

/-- The levels that the items of a list of sub-specifications need, which is what the neediest of
them does. -/
def itemsNeed : List Value → Nat
  | [] => 0
  | item :: rest => max item.membersNeed (itemsNeed rest)

end

end Value

namespace FilterSpec

/-- The number of levels that a specification enters. -/
def need (spec : FilterSpec) : Nat := Value.entriesNeed (spec.entries.map Where.named)

end FilterSpec

namespace Demand

/-- The level that a demand enters. -/
def depth : Demand → Nat
  | .spec depth | .operand depth => depth
  | .plain _ _ | .operator _ _ _ _ => 0

/-- The coordinates of the shape that is demanded, if one is. -/
def coordinates? : Demand → Option Value
  | .operator _ _ .geoShape value => value.named? "coordinates"
  | _ => none

/-- Whether no demand enters a level below the bound. -/
def Reaches (bound : Nat) (demands : List Demand) : Prop := ∀ demand ∈ demands, demand.depth ≤ bound

variable (bound : Nat)

/-- Where nothing is demanded every bound is kept. -/
@[simp] theorem reaches_nil : Reaches bound [] := fun _ member => absurd member List.not_mem_nil

/-- Demands keep a bound if each of them does. -/
@[simp] theorem reaches_cons (demand : Demand) (rest : List Demand) :
    Reaches bound (demand :: rest) ↔ demand.depth ≤ bound ∧ Reaches bound rest :=
  List.forall_mem_cons

/-- Demands put together keep a bound if both parts do. -/
@[simp] theorem reaches_append (demands others : List Demand) :
    Reaches bound (demands ++ others) ↔ Reaches bound demands ∧ Reaches bound others :=
  List.forall_mem_append

mutual

/-- From a level within the bound a condition stays within it exactly if the levels that are left
are as many as it needs. -/
theorem reaches_ofCondition_iff (field : String) (depth : Nat) (enough : depth ≤ bound) :
    (value : Value) →
      (Reaches bound (ofCondition field depth value) ↔ depth + value.need ≤ bound)
  | .map entries => by
    rw [ofCondition, Value.need]
    exact reaches_ofOperators_iff field depth enough _ entries
  | .null | .scalar _ | .list _ | .interval _ | .pattern _ => by
    simpa [ofCondition, Value.need, Demand.depth] using enough

/-- The demands of an operator map keep a bound if the levels that the map needs do, counted from
its depth. -/
theorem reaches_ofOperators_iff (field : String) (depth : Nat) (enough : depth ≤ bound)
    (entries : List (Operator × Value)) :
    (rest : List (Key × Value)) →
      (Reaches bound (ofOperators field depth entries rest) ↔
        depth + Value.operatorsNeed rest ≤ bound)
  | [] => by simpa [ofOperators, Value.operatorsNeed] using enough
  | (.name _, _) :: rest => by
    simpa [ofOperators, Value.operatorsNeed] using
      reaches_ofOperators_iff field depth enough entries rest
  | (.op op, value) :: rest => by
    have others := reaches_ofOperators_iff field depth enough entries rest
    cases op with
    | equal =>
      simp only [ofOperators, Value.operatorsNeed, reaches_cons, Demand.depth, others]
      omega
    | negation =>
      cases own : value.hasOwnNegation with
      | true =>
        simpa [ofOperators, Value.operatorsNeed, own, Demand.depth] using others
      | false =>
        by_cases allowed : depth + 1 ≤ bound
        · have inner := reaches_ofCondition_iff field (depth + 1) allowed value
          simp only [ofOperators, Value.operatorsNeed, own, reaches_cons, reaches_append,
            Bool.false_eq_true, if_false, Demand.depth, inner, others]
          omega
        · simp only [ofOperators, Value.operatorsNeed, own, reaches_cons, reaches_append,
            Bool.false_eq_true, if_false, Demand.depth, allowed, false_and, and_false, false_iff]
          omega
    | _ => simpa [ofOperators, Value.operatorsNeed, Demand.depth] using others

end

mutual

/-- The same for the entries of a specification. -/
theorem reaches_ofEntries_iff (depth : Nat) (enough : depth ≤ bound) :
    (entries : List (Key × Value)) →
      (Reaches bound (ofEntries depth entries) ↔ depth + Value.entriesNeed entries ≤ bound)
  | [] => by simpa [ofEntries, Value.entriesNeed] using enough
  | (key, value) :: rest => by
    have others := reaches_ofEntries_iff depth enough rest
    have condition := reaches_ofCondition_iff bound (Where.pathOf key.text) depth enough value
    have members := reaches_ofMembers_iff depth enough value
    rw [ofEntries, Value.entriesNeed, reaches_append, others]
    cases Combinator.ofKey? key.text with
    | some combinator =>
      simp only [members]
      omega
    | none =>
      simp only [condition]
      omega

/-- The demands under a combinator keep a bound if the levels that its value needs do. -/
theorem reaches_ofMembers_iff (depth : Nat) (enough : depth ≤ bound) :
    (value : Value) →
      (Reaches bound (ofMembers depth value) ↔ depth + value.membersNeed ≤ bound)
  | .map entries => by
    rw [ofMembers, Value.membersNeed, reaches_cons, Demand.depth]
    by_cases allowed : depth + 1 ≤ bound
    · rw [reaches_ofEntries_iff (depth + 1) allowed entries]
      omega
    · simp only [allowed, false_and, false_iff]
      omega
  | .list items => by
    rw [ofMembers, Value.membersNeed]
    exact reaches_ofItems_iff depth enough items
  | .null | .scalar _ | .interval _ | .pattern _ => by
    simpa [ofMembers, Value.membersNeed] using enough

/-- The demands of the items of a list keep a bound if the levels that they need do. -/
theorem reaches_ofItems_iff (depth : Nat) (enough : depth ≤ bound) :
    (items : List Value) →
      (Reaches bound (ofItems depth items) ↔ depth + Value.itemsNeed items ≤ bound)
  | [] => by simpa [ofItems, Value.itemsNeed] using enough
  | item :: rest => by
    rw [ofItems, Value.itemsNeed, reaches_append, reaches_ofMembers_iff depth enough item,
      reaches_ofItems_iff depth enough rest]
    omega

end

end Demand

/-- A bound is enough for a specification if none of its demands enters a level below it. -/
theorem FilterSpec.need_le_iff (spec : FilterSpec) (bound : Nat) :
    spec.need ≤ bound ↔ Demand.Reaches bound spec.demands := by
  rw [demands, Demand.reaches_ofEntries_iff bound 0 (Nat.zero_le bound), Nat.zero_add, need]

/-- Whether the coordinates of all shapes in a specification nest at most this deep. -/
def FilterSpec.ShapesWithin (spec : FilterSpec) (bound : Nat) : Prop :=
  ∀ coordinates ∈ spec.demands.filterMap Demand.coordinates?, coordinates.nesting ≤ bound

/-! ### Checks at two limits -/

/-- A shape that is accepted at some limit is accepted at another one if its coordinates nest no
deeper. -/
theorem Resolve.toShape_passes_iff (field : String) (enough limit : Nat) (value : Value)
    (passed : ∃ test, toShape field enough value = .ok test) :
    (∃ test, toShape field limit value = .ok test) ↔
      ∀ coordinates, value.named? "coordinates" = some coordinates →
        coordinates.nesting ≤ limit := by
  obtain ⟨test, accepted⟩ := passed
  cases value with
  | map entries =>
    obtain ⟨noForeign, kind, given, coordinates, relation, typed, found, read, related, -⟩ :=
      (toShape_eq_ok_iff _ _ _ _).mp accepted
    have gated := coordinatesOf_gated field enough limit given
    rw [found]
    constructor
    · rintro ⟨other, again⟩ _ same
      obtain rfl := Option.some.inj same
      obtain ⟨-, _, _, others, _, -, foundAgain, readAgain, -, -⟩ :=
        (toShape_eq_ok_iff _ _ _ _).mp again
      obtain rfl := Option.some.inj (found.symm.trans foundAgain)
      exact (gated.passes_iff read).mp ⟨others, readAgain⟩
    · intro within
      have readAgain := (gated coordinates read).1 (within given rfl)
      exact ⟨_, (toShape_eq_ok_iff _ _ _ _).mpr
        ⟨noForeign, kind, given, coordinates, relation, typed, found, readAgain, related, rfl⟩⟩
  | _ => cases accepted

namespace Demand

/-- Whether a demand is within a limit, sub-specifications apart. -/
structure Allowed (limit : Nat) (demand : Demand) : Prop where
  operand : ∀ depth, demand = .operand depth → depth ≤ limit
  shape : ∀ coordinates, demand.coordinates? = some coordinates → coordinates.nesting ≤ limit

/-- Entering an operand is allowed as far as the limit reaches. -/
theorem allowed_operand_iff (limit depth : Nat) : (operand depth).Allowed limit ↔ depth ≤ limit :=
  ⟨fun allowed => allowed.operand depth rfl, fun within =>
    ⟨fun _ same => Demand.operand.inj same ▸ within, fun _ found => by cases found⟩⟩

/-- A demand that enters no operand and has no coordinates is allowed at every limit. -/
theorem Allowed.of_unlimited {limit : Nat} {demand : Demand}
    (noOperand : ∀ depth, demand ≠ .operand depth) (noShape : demand.coordinates? = none) :
    demand.Allowed limit :=
  ⟨fun depth same => absurd same (noOperand depth), fun _ found => by
    rw [noShape] at found
    cases found⟩

variable (fields : FieldContext) (capabilities : Capabilities) (enough limit : Nat)

/-- The check of a shape passes if the field may have places and the shape is accepted at the
limit. -/
theorem check_shape_succeeds_iff (field : String) (entries : List (Operator × Value))
    (value : Value) :
    ((operator field entries .geoShape value).check ⟨fields, capabilities, limit⟩).Succeeds ↔
      Resolve.requireGeo ⟨fields, capabilities, 0⟩ field .geoShape = .ok () ∧
        ∃ test, Resolve.toShape field limit value = .ok test := by
  have built : Resolve.contributed ⟨fields, capabilities, limit⟩ (fun _ => .done [] []) field
      entries .geoShape value = Resolve.Contribution.queries <$> Diagnosed.lift do
        return [Query.test field (← Resolve.toShape field limit value)] := rfl
  rw [check, Diagnosed.succeeds_map_iff, Resolve.contribution, Diagnosed.succeeds_lift_bind_iff,
    built, Diagnosed.succeeds_map_iff, Diagnosed.succeeds_lift_iff]
  refine and_congr_right fun _ => ?_
  simp only [Check.bind_eq_ok_iff, Check.pure_eq_ok_iff]
  constructor
  · rintro ⟨_, test, accepted, -⟩
    exact ⟨test, accepted⟩
  · rintro ⟨test, accepted⟩
    exact ⟨_, test, accepted, rfl⟩

/-- A demand that passes its check at some limit passes it at another one exactly if it is within
that limit. -/
theorem check_succeeds_at_iff (demand : Demand)
    (done : (demand.check ⟨fields, capabilities, enough⟩).Succeeds) :
    (demand.check ⟨fields, capabilities, limit⟩).Succeeds ↔ demand.Allowed limit := by
  cases demand with
  | spec depth => exact iff_of_true done (.of_unlimited (fun _ same => by cases same) rfl)
  | operand depth =>
    rw [check, allowed_operand_iff]
    split <;> simp [Diagnosed.Succeeds, *]
  | plain field value =>
    rw [check_plain_congr ⟨fields, capabilities, limit⟩ ⟨fields, capabilities, enough⟩ rfl]
    exact iff_of_true done (.of_unlimited (fun _ same => by cases same) rfl)
  | operator field entries op value =>
    cases op with
    | geoShape =>
      rw [check_shape_succeeds_iff] at done ⊢
      rw [Resolve.toShape_passes_iff field enough limit value done.2]
      exact ⟨fun passed => ⟨(fun _ same => by cases same), passed.2⟩,
        fun allowed => ⟨done.1, allowed.shape⟩⟩
    | _ => exact iff_of_true done (.of_unlimited (fun _ same => by cases same) rfl)

/-- If the shape that it may ask for is within a limit, a demand that passes its check at another
limit fails there only for an operand that is too deep. -/
theorem check_eq_failed_at (demand : Demand)
    (done : (demand.check ⟨fields, capabilities, enough⟩).Succeeds)
    (within : ∀ coordinates, demand.coordinates? = some coordinates → coordinates.nesting ≤ limit)
    (error : CompileError)
    (failed : demand.check ⟨fields, capabilities, limit⟩ = .failed error) :
    error = .depthLimitExceeded limit := by
  by_cases entered : ∃ depth, demand = .operand depth
  · obtain ⟨depth, rfl⟩ := entered
    rw [check] at failed
    split at failed
    · cases failed
    · exact (Diagnosed.failed.inj failed).symm
  · have allowed : demand.Allowed limit :=
      ⟨fun depth same => absurd ⟨depth, same⟩ entered, within⟩
    obtain ⟨_, _, passes⟩ :=
      (check_succeeds_at_iff fields capabilities enough limit demand done).mpr allowed
    rw [failed] at passes
    cases passes

/-- A bound is reached within if no sub-specification is below it and every other demand is within
it. -/
theorem reaches_iff (demands : List Demand) (bound : Nat) :
    Reaches bound demands ↔
      Within bound demands ∧ ∀ depth, .operand depth ∈ demands → depth ≤ bound := by
  constructor
  · exact fun reaches => ⟨fun _ member => reaches _ member, fun _ member => reaches _ member⟩
  · rintro ⟨within, operands⟩ demand member
    cases demand with
    | spec depth => exact within depth member
    | operand depth => exact operands depth member
    | _ => exact Nat.zero_le bound

end Demand

namespace FilterSpec

variable (spec : FilterSpec) (fields : FieldContext) (capabilities : Capabilities) (enough : Nat)
  (compiled : CompiledQuery) (compiles : compile spec fields capabilities enough = .ok compiled)
  (limit : Nat)

/-- All demands are allowed if no operand is entered below the limit and no shape nests deeper than
it. -/
theorem allowed_iff :
    (∀ demand ∈ spec.demands, demand.Allowed limit) ↔
      (∀ depth, .operand depth ∈ spec.demands → depth ≤ limit) ∧ spec.ShapesWithin limit := by
  simp only [ShapesWithin, List.mem_filterMap]
  constructor
  · intro allowed
    refine ⟨fun depth member => (allowed _ member).operand depth rfl, ?_⟩
    rintro coordinates ⟨demand, member, found⟩
    exact (allowed demand member).shape coordinates found
  · rintro ⟨operands, shapes⟩ demand member
    exact ⟨fun depth same => operands depth (same ▸ member),
      fun coordinates found => shapes coordinates ⟨demand, member, found⟩⟩

include compiles

/-- A specification that compiles at some limit compiles at another one exactly if that is enough
for the levels that it enters and for its shapes. -/
theorem compiles_at_iff :
    (∃ other, compile spec fields capabilities limit = .ok other) ↔
      spec.need ≤ limit ∧ spec.ShapesWithin limit := by
  obtain ⟨⟨clauses, read⟩, each⟩ :=
    (compiles_iff spec fields capabilities enough).mp ⟨compiled, compiles⟩
  have readable := (spec.normalize_gated enough limit).passes_iff read
  have checked : (∀ demand ∈ spec.demands,
      (demand.check ⟨fields, capabilities, limit⟩).Succeeds) ↔
        ∀ demand ∈ spec.demands, demand.Allowed limit :=
    forall₂_congr fun demand member =>
      Demand.check_succeeds_at_iff fields capabilities enough limit demand (each demand member)
  rw [compiles_iff, readable, checked, allowed_iff, need_le_iff, Demand.reaches_iff, and_assoc]

/-- If only the levels are too many, the first thing that is refused is a sub-specification when it
is read, or else an operand that is entered. -/
theorem compile_eq_error_at (shapes : spec.ShapesWithin limit) (tooFew : limit < spec.need) :
    compile spec fields capabilities limit = .error (.depthLimitExceeded limit) := by
  obtain ⟨⟨clauses, read⟩, each⟩ :=
    (compiles_iff spec fields capabilities enough).mp ⟨compiled, compiles⟩
  obtain ⟨kept, refused⟩ := spec.normalize_gated enough limit clauses read
  by_cases within : Demand.Within limit spec.demands
  · have fails (other : CompiledQuery) :
        compile spec fields capabilities limit ≠ .ok other := fun passes =>
      absurd ((compiles_at_iff spec fields capabilities enough compiled compiles limit).mp
        ⟨other, passes⟩).1 (Nat.not_le.mpr tooFew)
    cases failed : compile spec fields capabilities limit with
    | ok other => exact absurd failed (fails other)
    | error error =>
      obtain ⟨demand, member, found⟩ := List.exists_of_findSome?_eq_some
        ((compile_eq_error_iff_of_read spec fields capabilities limit clauses (kept within)
          error).mp failed)
      rw [Demand.check_eq_failed_at fields capabilities enough limit demand (each demand member)
        (fun coordinates asked =>
          shapes coordinates (List.mem_filterMap.mpr ⟨demand, member, asked⟩))
        error ((Diagnosed.error?_eq_some_iff _ _).mp found)]
  · rw [compile, refused within]

/-- The limit is exact. A specification that compiles at some limit compiles at another one exactly
if that is enough for the levels that it enters and for its shapes, to the same query with the same
warnings. If only the levels are too many, it is refused for the limit. -/
theorem compile_at_eq_ok_iff :
    (∀ other, compile spec fields capabilities limit = .ok other ↔
      other = compiled ∧ spec.need ≤ limit ∧ spec.ShapesWithin limit) ∧
    (spec.ShapesWithin limit → limit < spec.need →
      compile spec fields capabilities limit = .error (.depthLimitExceeded limit)) := by
  have passes := compiles_at_iff spec fields capabilities enough compiled compiles limit
  have same (other : CompiledQuery) (again : compile spec fields capabilities limit = .ok other) :
      other = compiled := by
    have first := compile_persists_of_limit spec fields capabilities enough (max enough limit)
      (Nat.le_max_left enough limit) compiled compiles
    have second := compile_persists_of_limit spec fields capabilities limit (max enough limit)
      (Nat.le_max_right enough limit) other again
    exact Except.ok.inj (second.symm.trans first)
  refine ⟨fun other => ⟨fun again => ⟨same other again, passes.mp ⟨other, again⟩⟩, ?_⟩, ?_⟩
  · rintro ⟨rfl, within⟩
    obtain ⟨other, again⟩ := passes.mpr within
    exact same other again ▸ again
  · intro shapes tooFew
    exact compile_eq_error_at spec fields capabilities enough compiled compiles limit shapes tooFew

omit compiles

set_option maxRecDepth 2000 in
/-- A negated equality in a member of a disjunction enters three levels, and a line of points nests
to two. -/
theorem compile_at_eq_ok_iff_of_negated :
    let point (lon lat : Int) : Value := .list [.scalar (.int lon), .scalar (.int lat)]
    let spec := ofPairs
      [("_or", .list [.map [(.name "a", .map [(.op .negation, .map [(.op .equal, .null)])])]]),
      ("s", .map [(.op .geoShape, .map [(.name "type", .scalar (.str "linestring")),
        (.name "coordinates", .list [point 0 0, point 1 1])])])]
    (∃ compiled, compile spec .empty ⟨fun _ => true⟩ 5 = .ok compiled ∧
      compile spec .empty ⟨fun _ => true⟩ 3 = .ok compiled) ∧
    compile spec .empty ⟨fun _ => true⟩ 2 = .error (.depthLimitExceeded 2) ∧
      ∀ compiled, compile spec .empty ⟨fun _ => true⟩ 1 ≠ .ok compiled := by
  intro point spec
  have exactly (limit : Nat) :=
    compile_at_eq_ok_iff spec .empty ⟨fun _ => true⟩ 5 _ rfl limit
  have needed : spec.need = 3 := rfl
  have shapes (bound : Nat) : spec.ShapesWithin bound ↔ 2 ≤ bound :=
    List.forall_mem_singleton
  refine ⟨⟨_, rfl, ((exactly 3).1 _).mpr ⟨rfl, Nat.le_of_eq needed, (shapes 3).mpr (by decide)⟩⟩,
    (exactly 2).2 ((shapes 2).mpr (by decide)) (needed ▸ by decide), fun compiled compiles => ?_⟩
  have within := (((exactly 1).1 compiled).mp compiles).2.2
  exact absurd ((shapes 1).mp within) (by decide)

end FilterSpec

end SearchFilter
