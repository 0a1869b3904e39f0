import SearchFilter.Proofs.ChangedConditions
import SearchFilter.Proofs.Checks

/-!
# Names among operators

The keys of an operator map have to be operators. A plain name among them is a stray, even when it
spells an operator or a combinator. Operator maps are the conditions on fields that are maps and, in
turn, the maps that are negated inside of them; the names in other operands, such as the parts of a
point, are no strays.

A stray is never passed over. Nothing with a stray compiles, and if what is left without the strays
compiles, they are all that is wrong: the error then names one of them.
-/

namespace SearchFilter

/-- The text of a key that is a plain name. -/
def Key.name? : Key → Option String
  | .name text => some text
  | .op _ => none

namespace Value

/-- The plain names among the keys of a map. -/
def names : Value → List String
  | .map entries => entries.filterMap fun entry => entry.1.name?
  | _ => []

/-- An operator adds no name. -/
@[simp] theorem names_cons_op (op : Operator) (value : Value) (rest : List (Key × Value)) :
    (Value.map ((.op op, value) :: rest)).names = (Value.map rest).names := rfl

/-- A name is listed before those after it, whatever it spells. -/
@[simp] theorem names_cons_name (text : String) (value : Value) (rest : List (Key × Value)) :
    (Value.map ((.name text, value) :: rest)).names = text :: (Value.map rest).names := rfl

mutual

/-- The strays in a condition on a field. -/
def strays : Value → List String
  | .map entries => operatorStrays entries
  | _ => []

/-- The strays among the entries of an operator map and inside its negations. -/
def operatorStrays : List (Key × Value) → List String
  | [] => []
  | (.name text, _) :: rest => text :: operatorStrays rest
  | (.op .negation, value) :: rest => value.strays ++ operatorStrays rest
  | (.op _, _) :: rest => operatorStrays rest

end

mutual

/-- A condition on a field without the entries of its strays. -/
def withoutStrays : Value → Value
  | .map entries => .map (operatorsOnly entries)
  | value => value

/-- The entries of an operator map that are no strays, with no strays inside its negations. -/
def operatorsOnly : List (Key × Value) → List (Key × Value)
  | [] => []
  | (.name _, _) :: rest => operatorsOnly rest
  | (.op .negation, value) :: rest => (.op .negation, value.withoutStrays) :: operatorsOnly rest
  | (.op op, value) :: rest => (.op op, value) :: operatorsOnly rest

end

end Value

namespace FilterSpec

/-- The strays in the conditions of a specification, one for each entry. -/
def strays (spec : FilterSpec) : List String :=
  spec.conditions.flatMap fun condition => condition.2.strays

/-- The specification without the entries of its strays. -/
def withoutStrays (spec : FilterSpec) : FilterSpec := spec.mapConditions Value.withoutStrays

end FilterSpec

/-! ### The shape of a map with names -/

namespace Operand

/-- An operator is listed with its operand. -/
@[simp] theorem operatorsOf_cons_op (op : Operator) (value : Value) (rest : List (Key × Value)) :
    operatorsOf ((.op op, value) :: rest) = (op, value) :: operatorsOf rest := rfl

/-- The first plain name among the keys of an operator map decides its error. -/
theorem mapM_entry (entries : List (Key × Value)) :
    entries.mapM entry =
      match (Value.map entries).names with
      | [] => .ok (operatorsOf entries)
      | name :: _ => .error (.unknownOperator name) := by
  induction entries with
  | nil => rfl
  | cons given rest inductionHypothesis =>
    obtain ⟨key, value⟩ := given
    rw [List.mapM_cons, inductionHypothesis]
    cases key with
    | name text => rfl
    | op op =>
      rw [Value.names_cons_op, operatorsOf_cons_op]
      cases (Value.map rest).names <;> rfl

/-- A map has a shape unless it has a name, and then a name is reported. -/
theorem shaped_or_named (field : String) (entries : List (Key × Value)) :
    ((Value.map entries).names = [] ∧
        ofValue field (.map entries) = .ok (.ops (operatorsOf entries))) ∨
      ∃ name ∈ (Value.map entries).names,
        ofValue field (.map entries) = .error (.unknownOperator name) := by
  rw [ofValue, mapM_entry]
  cases (Value.map entries).names with
  | nil => exact .inl ⟨rfl, rfl⟩
  | cons name rest => exact .inr ⟨name, List.mem_cons_self, rfl⟩

/-- What has a shape has no name among its keys. -/
theorem names_of_ofValue (field : String) (value : Value) (shape : Operand)
    (shaped : ofValue field value = .ok shape) : value.names = [] := by
  cases value with
  | map entries =>
    obtain ⟨none, -⟩ | ⟨name, -, refused⟩ := shaped_or_named field entries
    · exact none
    · rw [refused] at shaped
      cases shaped
  | _ => rfl

/-- Only for its names can a value lack the shape that it has without strays. -/
theorem ofValue_blames (field : String) (value : Value) :
    Check.Blames (fun error => ∃ name ∈ value.names, error = .unknownOperator name)
      (ofValue field value.withoutStrays) (ofValue field value) := by
  intro shape shaped
  cases value with
  | map entries =>
    obtain ⟨-, shaped⟩ | ⟨name, listed, refused⟩ := shaped_or_named field entries
    · exact .inl ⟨_, shaped⟩
    · exact .inr ⟨_, ⟨name, listed, rfl⟩, refused⟩
  | _ => exact .inl ⟨shape, shaped⟩

end Operand

/-! ### The demands of a condition with strays -/

namespace Demand

/-- The names in the operand of a negation. No other operand has to be an operator map. -/
def names : Demand → List String
  | .operator _ _ .negation value => value.names
  | _ => []

/-- An entry of an operator map without the strays inside of it. -/
def cleared : Operator × Value → Operator × Value
  | (.negation, value) => (.negation, value.withoutStrays)
  | entry => entry

/-- Only negations have operands with strays. -/
theorem cleared_of_ne (op : Operator) (value : Value) (other : op ≠ .negation) :
    cleared (op, value) = (op, value) := by
  cases op <;> first | rfl | exact absurd rfl other

/-- The demand that stands in the place of this one when the strays are left out. -/
def withoutStrays : Demand → Demand
  | .operator field entries op value =>
    .operator field (entries.map cleared) op (cleared (op, value)).2
  | demand => demand

/-- Entering an operand has no names of its own. -/
@[simp] theorem names_operand (depth : Nat) : (Demand.operand depth).names = [] := rfl

/-- A condition without operators has no operator map and no names. -/
@[simp] theorem names_plain (field : String) (value : Value) :
    (Demand.plain field value).names = [] := rfl

/-- A negation has the names of its operand, which is an operator map if it is a map at all. -/
@[simp] theorem names_negation (field : String) (entries : List (Operator × Value))
    (value : Value) : (Demand.operator field entries .negation value).names = value.names := rfl

/-- Operators other than negation have no operator map inside. -/
theorem names_operator_of_ne (field : String) (entries : List (Operator × Value)) (op : Operator)
    (value : Value) (other : op ≠ .negation) :
    (Demand.operator field entries op value).names = [] := by
  cases op <;> first | rfl | exact absurd rfl other

mutual

/-- A stray in a condition is a name among its own keys or in an operand that is demanded to have
none. -/
theorem mem_strays_iff (name field : String) (depth : Nat) :
    (value : Value) →
      (name ∈ value.strays ↔
        name ∈ value.names ∨ name ∈ (ofCondition field depth value).flatMap names)
  | .map entries => by
    rw [Value.strays, ofCondition]
    exact mem_operatorStrays_iff name field depth _ entries
  | .null | .scalar _ | .list _ | .interval _ | .pattern _ => by
    simp [Value.strays, Value.names, ofCondition]

/-- The strays of an operator map are its own names and those of its demands. -/
theorem mem_operatorStrays_iff (name field : String) (depth : Nat)
    (entries : List (Operator × Value)) :
    (rest : List (Key × Value)) →
      (name ∈ Value.operatorStrays rest ↔
        name ∈ (Value.map rest).names ∨
          name ∈ (ofOperators field depth entries rest).flatMap names)
  | [] => by simp [Value.operatorStrays, Value.names, ofOperators]
  | (.name text, value) :: rest => by
    have others := mem_operatorStrays_iff name field depth entries rest
    simp only [Value.operatorStrays, Value.names_cons_name, ofOperators, List.mem_cons, others,
      or_assoc]
  | (.op op, value) :: rest => by
    have others := mem_operatorStrays_iff name field depth entries rest
    cases op with
    | equal => simp [Value.operatorStrays, ofOperators, names_operator_of_ne, others]
    | negation =>
      simp only [Value.operatorStrays, Value.names_cons_op, ofOperators, List.flatMap_cons,
        List.flatMap_append, names_negation, List.mem_append, others]
      cases own : value.hasOwnNegation with
      | true =>
        have none : value.strays = [] ∧ value.names = [] := by
          cases value <;> first | exact ⟨rfl, rfl⟩ | cases own
        simp only [none, if_true, List.flatMap_nil, List.not_mem_nil, false_or]
      | false =>
        have inner := mem_strays_iff name field (depth + 1) value
        simp only [inner, Bool.false_eq_true, if_false, List.flatMap_cons, names_operand,
          List.nil_append, or_assoc, or_left_comm]
    | _ => simp [Value.operatorStrays, ofOperators, names_operator_of_ne, others]

end

/-- The strays of a condition are left out of its operators. -/
theorem operatorsOf_operatorsOnly (entries : List (Key × Value)) :
    Operand.operatorsOf (Value.operatorsOnly entries) =
      (Operand.operatorsOf entries).map cleared := by
  induction entries with
  | nil => rfl
  | cons entry rest inductionHypothesis =>
    obtain ⟨key, value⟩ := entry
    cases key with
    | name text => exact inductionHypothesis
    | op op => cases op <;> simp [Value.operatorsOnly, cleared, inductionHypothesis]

/-- Taking strays away does not change how a value is negated. -/
theorem hasOwnNegation_withoutStrays (value : Value) :
    value.withoutStrays.hasOwnNegation = value.hasOwnNegation := by
  cases value <;> rfl

mutual

/-- Without its strays a condition makes its demands without their strays. -/
theorem ofCondition_withoutStrays (field : String) (depth : Nat) :
    (value : Value) →
      ofCondition field depth value.withoutStrays =
        (ofCondition field depth value).map withoutStrays
  | .map entries => by
    rw [Value.withoutStrays, ofCondition, ofCondition, operatorsOf_operatorsOnly]
    exact ofOperators_operatorsOnly field depth _ entries
  | .null | .scalar _ | .list _ | .interval _ | .pattern _ => rfl

/-- Taking strays away leaves the demands of an operator map in place, with the strays inside them
taken away. -/
theorem ofOperators_operatorsOnly (field : String) (depth : Nat)
    (entries : List (Operator × Value)) :
    (rest : List (Key × Value)) →
      ofOperators field depth (entries.map cleared) (Value.operatorsOnly rest) =
        (ofOperators field depth entries rest).map withoutStrays
  | [] => rfl
  | (.name _, _) :: rest => by
    rw [Value.operatorsOnly, ofOperators]
    exact ofOperators_operatorsOnly field depth entries rest
  | (.op op, value) :: rest => by
    have others := ofOperators_operatorsOnly field depth entries rest
    cases op with
    | negation =>
      have inner := ofCondition_withoutStrays field (depth + 1) value
      rw [Value.operatorsOnly, ofOperators, ofOperators, hasOwnNegation_withoutStrays, inner,
        others]
      cases value.hasOwnNegation <;> simp [withoutStrays, cleared]
    | _ => simp [Value.operatorsOnly, ofOperators, withoutStrays, cleared, others]

end

/-! ### Checking the demands -/

/-- The partners that operators on places look for are not touched. -/
theorem partner?_cleared (op : Operator) (place : op.isGeo = true)
    (entries : List (Operator × Value)) :
    Resolve.partner? op (entries.map cleared) = Resolve.partner? op entries := by
  induction entries with
  | nil => rfl
  | cons entry rest inductionHypothesis =>
    obtain ⟨other, value⟩ := entry
    have kept : (cleared (other, value)).1 = other := by cases other <;> rfl
    simp only [Resolve.partner?, List.map_cons, List.find?_cons, kept] at inductionHypothesis ⊢
    by_cases found : other = op
    · subst found
      have notNegated : other ≠ .negation := by
        rintro rfl
        cases place
      simp [cleared_of_ne other value notNegated]
    · simpa [found] using inductionHypothesis

/-- An operand that passes its check has no name where an operator map is demanded. -/
theorem names_of_check (setting : Resolve.Setting) (demand : Demand)
    (passes : (demand.check setting).Succeeds) : demand.names = [] := by
  cases demand with
  | operator field entries op value =>
    by_cases negated : op = .negation
    · subst negated
      rw [check, Diagnosed.succeeds_map_iff, Resolve.contribution_negation,
        Diagnosed.succeeds_map_iff] at passes
      obtain ⟨query, warnings, resolved⟩ := passes
      obtain ⟨error, refused⟩ | ⟨shape, rfl⟩ := Operand.refused_or_shaped field value
      · rw [Resolve.negation_of_error _ field value error refused] at resolved
        cases resolved
      · exact Operand.names_of_ofValue field _ shape (Operand.ofValue_toValue field shape)
    · exact names_operator_of_ne field entries op value negated
  | _ => rfl

/-- A negation by itself is refused only for a name in its operand if it is not refused without
strays. -/
theorem check_negation (setting : Resolve.Setting) (field : String)
    (entries : List (Operator × Value)) (value : Value)
    (passes : ((Demand.operator field entries .negation value).withoutStrays.check
      setting).Succeeds) :
    ((Demand.operator field entries .negation value).check setting).Succeeds ∨
      ∃ name ∈ value.names, (Demand.operator field entries .negation value).check setting =
        .failed (.unknownOperator name) := by
  have alone (entries : List (Operator × Value)) (value : Value) :
      (Demand.operator field entries .negation value).check setting =
        (fun query => Query.matchers [query]) <$>
          Resolve.negation (fun _ => .done [] []) field value := by
    rw [check, Resolve.contribution_negation, Functor.map_map]
    rfl
  rw [alone]
  cases value with
  | map inner =>
    obtain ⟨-, shaped⟩ | ⟨name, listed, refused⟩ := Operand.shaped_or_named field inner
    · refine .inl ((Diagnosed.succeeds_map_iff _ _).mpr ?_)
      rw [← Operand.toValue_of_ofValue field _ _ shaped, Resolve.negation_toValue]
      exact ⟨_, _, rfl⟩
    · refine .inr ⟨name, listed, ?_⟩
      rw [Resolve.negation_of_error _ field _ _ refused]
      rfl
  | _ => exact .inl (alone _ _ ▸ passes)

/-- A demand is refused only for one of its names if it is not refused without strays. -/
theorem check_of_withoutStrays (setting : Resolve.Setting) (demand : Demand)
    (passes : (demand.withoutStrays.check setting).Succeeds) :
    (demand.check setting).Succeeds ∨
      ∃ name ∈ demand.names, demand.check setting = .failed (.unknownOperator name) := by
  cases demand with
  | operator field entries op value =>
    by_cases negated : op = .negation
    · subst negated
      exact check_negation setting field entries value passes
    · rw [withoutStrays, cleared_of_ne op value negated, check, Resolve.contribution_congr setting
        _ field _ entries fun op place => partner?_cleared op place entries] at passes
      exact .inl passes
  | _ => exact .inl passes

end Demand

/-! ### Compiling -/

namespace FilterSpec

/-- Without its strays a specification makes its demands without their strays. -/
theorem demands_withoutStrays (spec : FilterSpec) :
    spec.withoutStrays.demands = spec.demands.map Demand.withoutStrays := by
  rw [demands_eq_flatMap, demands_eq_flatMap, withoutStrays, outline_mapConditions,
    List.flatMap_map, List.map_flatMap]
  refine List.flatMap_congr fun item _ => ?_
  cases item with
  | spec depth => rfl
  | condition depth field value => exact Demand.ofCondition_withoutStrays field depth value

/-- A stray of a specification is a name among the keys of a condition or in an operand that is
demanded to have none. -/
theorem mem_strays_iff (spec : FilterSpec) (name : String) :
    name ∈ spec.strays ↔
      (∃ depth field value, Outline.Item.condition depth field value ∈ spec.outline ∧
        name ∈ value.names) ∨ ∃ demand ∈ spec.demands, name ∈ demand.names := by
  have ofCondition : name ∈ spec.strays ↔
      ∃ depth field value, Outline.Item.condition depth field value ∈ spec.outline ∧
        name ∈ value.strays := by
    simp only [strays, conditions, List.mem_flatMap, List.mem_filterMap]
    constructor
    · rintro ⟨condition, ⟨item, member, found⟩, stray⟩
      cases item with
      | spec depth => cases found
      | condition depth field value =>
        cases found
        exact ⟨depth, field, value, member, stray⟩
    · rintro ⟨depth, field, value, member, stray⟩
      exact ⟨(field, value), ⟨_, member, rfl⟩, stray⟩
  rw [ofCondition, demands_eq_flatMap]
  constructor
  · rintro ⟨depth, field, value, member, stray⟩
    obtain named | demanded := (Demand.mem_strays_iff name field depth value).mp stray
    · exact .inl ⟨depth, field, value, member, named⟩
    · obtain ⟨demand, among, named⟩ := List.mem_flatMap.mp demanded
      exact .inr ⟨demand, List.mem_flatMap.mpr ⟨_, member, among⟩, named⟩
  · rintro (⟨depth, field, value, member, named⟩ | ⟨demand, made, named⟩)
    · exact ⟨depth, field, value, member, (Demand.mem_strays_iff name field depth value).mpr
        (.inl named)⟩
    · obtain ⟨item, member, among⟩ := List.mem_flatMap.mp made
      cases item with
      | spec depth =>
        obtain rfl := List.mem_singleton.mp among
        cases named
      | condition depth field value =>
        exact ⟨depth, field, value, member, (Demand.mem_strays_iff name field depth value).mpr
          (.inr (List.mem_flatMap.mpr ⟨demand, among, named⟩))⟩

end FilterSpec

section Compiling

variable (spec : FilterSpec) (fields : FieldContext) (capabilities : Capabilities) (limit : Nat)

/-- What compiles has no strays. -/
theorem strays_of_compile (compiled : CompiledQuery)
    (compiles : compile spec fields capabilities limit = .ok compiled) : spec.strays = [] := by
  refine List.eq_nil_iff_forall_not_mem.mpr fun name listed => ?_
  obtain ⟨depth, field, value, member, named⟩ | ⟨demand, made, named⟩ :=
    (spec.mem_strays_iff name).mp listed
  · obtain ⟨shape, shaped⟩ := shaped_of_compile spec fields capabilities limit compiled compiles
      depth field value member
    rw [Operand.names_of_ofValue field value shape shaped] at named
    cases named
  · have passes := ((compiles_iff spec fields capabilities limit).mp ⟨compiled, compiles⟩).2
    rw [Demand.names_of_check _ demand (passes demand made)] at named
    cases named

/-- A specification that compiles without its strays is refused only for one of them. -/
theorem unknown_of_withoutStrays (kept : CompiledQuery)
    (compiles : compile spec.withoutStrays fields capabilities limit = .ok kept)
    (error : CompileError) (refused : compile spec fields capabilities limit = .error error) :
    ∃ name ∈ spec.strays, error = .unknownOperator name := by
  obtain ⟨⟨keptClauses, keptRead⟩, passes⟩ :=
    (compiles_iff spec.withoutStrays fields capabilities limit).mp ⟨kept, compiles⟩
  obtain ⟨clauses, read⟩ | ⟨first, ⟨depth, field, value, member, name, named, rfl⟩, unread⟩ :=
    spec.normalize_blames Value.withoutStrays _ Operand.ofValue_blames limit keptClauses keptRead
  · -- Once the specification is read, the first demand that fails decides the error.
    have found := (compile_eq_error_iff_of_read spec fields capabilities limit clauses read
      error).mp refused
    obtain ⟨demand, made, fails⟩ := List.exists_of_findSome?_eq_some found
    have keptPasses := passes demand.withoutStrays
      (spec.demands_withoutStrays ▸ List.mem_map_of_mem made)
    obtain succeeds | ⟨name, named, reported⟩ :=
      Demand.check_of_withoutStrays _ demand keptPasses
    · rw [(Diagnosed.error?_eq_none_iff _).mpr succeeds] at fails
      cases fails
    · rw [reported, Diagnosed.error?_failed] at fails
      exact ⟨name, (spec.mem_strays_iff name).mpr (.inr ⟨demand, made, named⟩),
        (Option.some.inj fails).symm⟩
  · rw [compile, unread] at refused
    exact ⟨name, (spec.mem_strays_iff name).mpr (.inl ⟨depth, field, value, member, named⟩),
      (Except.error.inj refused).symm⟩

/-- A specification with a stray does not compile. If one entry is all that is stray and the rest
compiles at the same limit, the error is that its name is no operator. -/
theorem compile_refuses_strays (strayed : spec.strays ≠ []) :
    (∃ error, compile spec fields capabilities limit = .error error) ∧
      ∀ name, spec.strays = [name] →
        (∃ kept, compile spec.withoutStrays fields capabilities limit = .ok kept) →
          compile spec fields capabilities limit = .error (.unknownOperator name) := by
  cases outcome : compile spec fields capabilities limit with
  | ok compiled =>
    exact absurd (strays_of_compile spec fields capabilities limit compiled outcome) strayed
  | error error =>
    refine ⟨⟨error, rfl⟩, fun name only ⟨kept, compiles⟩ => ?_⟩
    obtain ⟨stray, listed, rfl⟩ :=
      unknown_of_withoutStrays spec fields capabilities limit kept compiles error outcome
    rw [only, List.mem_singleton] at listed
    rw [listed]

end Compiling

set_option maxRecDepth 2000 in
/-- A name that spells an operator, two negations deep under a negated combinator. -/
theorem compile_refuses_strays_of_nested :
    let spec := FilterSpec.ofPairs
      [("not", .map [(.name "f", .map [(.op .negation, .map [(.op .greater, .scalar (.int 1)),
        (.op .negation, .map [(.name "lt", .scalar (.int 5))])])])])]
    compile spec .empty ⟨fun _ => true⟩ 3 = .error (.unknownOperator "lt") := by
  intro spec
  exact (compile_refuses_strays spec .empty ⟨fun _ => true⟩ 3 (by decide)).2 "lt" rfl ⟨_, rfl⟩

end SearchFilter
