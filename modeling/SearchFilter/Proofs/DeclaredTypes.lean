import SearchFilter.Proofs.Checks
import SearchFilter.Proofs.Easing

/-!
# Declared types only refuse

The declared type of a field is looked at for the operator that asks for all members, which needs an
array, and for the operators on places, which need a field of places. Every such operator is
checked, also one that only completes another one and builds no query of its own, and nothing else
depends on a declaration. A specification therefore compiles as it does without any declaration, or
is refused.
-/

namespace SearchFilter

/-- Whether the declared type of a field, if it has one, allows an operator. -/
def FieldContext.Allows (fields : FieldContext) (field : String) (op : Operator) : Prop :=
  ∀ type, fields.type? field = some type →
    (op = .allOf → type.isArray = true) ∧ (op.isGeo = true → type.isGeo = true)

/-- Whether every operator of a specification is allowed on its field. -/
def FilterSpec.Permitted (spec : FilterSpec) (fields : FieldContext) : Prop :=
  ∀ field entries op value, .operator field entries op value ∈ spec.demands →
    fields.Allows field op

namespace Resolve

variable (fields : FieldContext) (capabilities : Capabilities) (limit : Nat) (field : String)

/-- The check of an operator passes unless the operator is one on places and the field is declared
as something else. -/
theorem placeCheck_eq_ok_iff (op : Operator) :
    placeCheck ⟨fields, capabilities, limit⟩ field op = .ok () ↔
      ∀ type, fields.type? field = some type → op.isGeo = true → type.isGeo = true := by
  unfold placeCheck requireGeo
  dsimp only
  cases fields.type? field <;> cases op.isGeo <;> simp

/-- A field counts as an array unless it is declared as something else. -/
theorem requireArray_eq_ok_iff :
    requireArray ⟨fields, capabilities, limit⟩ field = .ok () ↔
      ∀ type, fields.type? field = some type → type.isArray = true := by
  unfold requireArray
  dsimp only
  cases fields.type? field <;> simp

/-- With fewer declarations no field fails a check of its declared type that it passed before. -/
theorem Setting.Eased.of_fewer (fewer : FieldContext)
    (declared : ∀ path type, fewer.type? path = some type → fields.type? path = some type) :
    Setting.Eased ⟨fields, capabilities, limit⟩ ⟨fewer, capabilities, limit⟩ := by
  refine ⟨rfl, fun field op => ?_, fun field => ?_⟩
  · unfold requireGeo
    dsimp only
    cases found : fewer.type? field with
    | none => exact fun _ _ => rfl
    | some type =>
      rw [declared field type found]
      exact Check.Persists.refl _
  · unfold requireArray
    dsimp only
    cases found : fewer.type? field with
    | none => exact fun _ _ => rfl
    | some type =>
      rw [declared field type found]
      exact Check.Persists.refl _

variable (enter : Operand → Diagnosed (List Query)) (entries : List (Operator × Value))

/-- The operator for all members first looks at the declared type. -/
theorem contributed_allOf (value : Value) :
    contributed ⟨fields, capabilities, limit⟩ enter field entries .allOf value =
      Diagnosed.lift (requireArray ⟨fields, capabilities, limit⟩ field) >>= fun _ =>
        contributed ⟨.empty, capabilities, limit⟩ enter field entries .allOf value := by
  have first (fields : FieldContext) :
      contributed ⟨fields, capabilities, limit⟩ enter field entries .allOf value =
        Contribution.queries <$> Diagnosed.lift do
          requireArray ⟨fields, capabilities, limit⟩ field
          return [Query.test field (← containsAll field
            (← sequenceOperand field .allOf value))] := (map_eq_pure_bind _ _).symm
  rw [first, first]
  cases requireArray ⟨fields, capabilities, limit⟩ field with
  | error error => rfl
  | ok passed => exact (Diagnosed.lift_ok_bind _ _).symm

/-- No other operator depends on it once its check has passed. -/
theorem contributed_of_ne_allOf (op : Operator) (other : op ≠ .allOf) (value : Value) :
    contributed ⟨fields, capabilities, limit⟩ enter field entries op value =
      contributed ⟨.empty, capabilities, limit⟩ enter field entries op value := by
  cases op <;> first | rfl | exact absurd rfl other

/-- An operator that is allowed on its field is done exactly when it is without any declaration. -/
theorem contribution_succeeds_iff (op : Operator) (value : Value) :
    (contribution ⟨fields, capabilities, limit⟩ enter field entries (op, value)).Succeeds ↔
      (contribution ⟨.empty, capabilities, limit⟩ enter field entries (op, value)).Succeeds ∧
        fields.Allows field op := by
  have undeclared : placeCheck ⟨.empty, capabilities, limit⟩ field op = .ok () :=
    (placeCheck_eq_ok_iff .empty capabilities limit field op).mpr fun _ found => by cases found
  rw [contribution, contribution, Diagnosed.succeeds_lift_bind_iff,
    Diagnosed.succeeds_lift_bind_iff, placeCheck_eq_ok_iff]
  by_cases all : op = .allOf
  · subst all
    rw [contributed_allOf, Diagnosed.succeeds_lift_bind_iff, requireArray_eq_ok_iff]
    simp [undeclared, FieldContext.Allows, Operator.isGeo, and_comm]
  · rw [contributed_of_ne_allOf fields capabilities limit field enter entries op all]
    simp [undeclared, FieldContext.Allows, all, and_comm]

end Resolve

/-- A demand is checked as it is without any declaration, but for operators that are not allowed. -/
theorem Demand.check_succeeds_iff (fields : FieldContext) (capabilities : Capabilities)
    (limit : Nat) (demand : Demand) :
    (demand.check ⟨fields, capabilities, limit⟩).Succeeds ↔
      (demand.check ⟨.empty, capabilities, limit⟩).Succeeds ∧
        ∀ field entries op value, .operator field entries op value = demand →
          fields.Allows field op := by
  cases demand with
  | spec _ | operand _ => simp [check]
  | plain field value =>
    rw [check_plain_congr ⟨fields, capabilities, limit⟩ ⟨.empty, capabilities, limit⟩ rfl]
    simp
  | operator field entries op value =>
    rw [check, check, Diagnosed.succeeds_map_iff, Diagnosed.succeeds_map_iff,
      Resolve.contribution_succeeds_iff]
    refine and_congr_right fun _ => ⟨fun allowed _ _ _ _ same => ?_, fun each => each _ _ _ _ rfl⟩
    cases same
    exact allowed

namespace FilterSpec

variable (spec : FilterSpec) (fields : FieldContext) (capabilities : Capabilities) (limit : Nat)

/-- A specification compiles with declarations exactly when it compiles without any and its
operators are permitted by them. -/
theorem compiles_iff_permitted :
    (∃ compiled, compile spec fields capabilities limit = .ok compiled) ↔
      (∃ compiled, compile spec .empty capabilities limit = .ok compiled) ∧
        spec.Permitted fields := by
  rw [compiles_iff, compiles_iff, and_assoc]
  refine and_congr_right fun _ => ?_
  simp only [Demand.check_succeeds_iff fields, Permitted]
  constructor
  · intro each
    exact ⟨fun demand member => (each demand member).1,
      fun field entries op value member => (each _ member).2 field entries op value rfl⟩
  · rintro ⟨each, permitted⟩ demand member
    exact ⟨each demand member, fun field entries op value same =>
      permitted field entries op value (same ▸ member)⟩

/-- A specification compiles under declarations exactly when it compiles without any, to the same
query with the same warnings, and every operator in it is allowed on its field. Taking declarations
away keeps every compiled query as it is. -/
theorem compile_eq_ok_iff_permitted :
    (∀ compiled, compile spec fields capabilities limit = .ok compiled ↔
      compile spec .empty capabilities limit = .ok compiled ∧ spec.Permitted fields) ∧
    ∀ fewer : FieldContext,
      (∀ path type, fewer.type? path = some type → fields.type? path = some type) →
        ∀ compiled, compile spec fields capabilities limit = .ok compiled →
          compile spec fewer capabilities limit = .ok compiled := by
  have taken (fewer : FieldContext)
      (declared : ∀ path type, fewer.type? path = some type → fields.type? path = some type) :
      Check.Persists (compile spec fields capabilities limit)
        (compile spec fewer capabilities limit) :=
    compile_persists spec fields fewer capabilities limit limit
      (.of_fewer fields capabilities limit fewer declared) (Nat.le_refl limit)
  have without := taken .empty fun _ _ found => by cases found
  refine ⟨fun compiled => ⟨fun compiles => ?_, ?_⟩, taken⟩
  · exact ⟨without compiled compiles,
      ((compiles_iff_permitted spec fields capabilities limit).mp ⟨compiled, compiles⟩).2⟩
  · rintro ⟨compiles, permitted⟩
    obtain ⟨other, otherCompiles⟩ := (compiles_iff_permitted spec fields capabilities limit).mpr
      ⟨⟨compiled, compiles⟩, permitted⟩
    obtain rfl := Except.ok.inj ((without other otherCompiles).symm.trans compiles)
    exact otherCompiles

/-- A test for all members inside two negations: it compiles on a declared array, also when nothing
is declared any more, and not on a declared number. -/
theorem compile_eq_ok_iff_permitted_of_negated :
    let spec := ofPairs [("id", .map [(.op .negation, .map [(.op .negation, .map
      [(.op .allOf, .list [.scalar (.str "x")])])])])]
    let arrays : FieldContext := ⟨[("_id", .array .text), ("n", .number)]⟩
    let numbers : FieldContext := ⟨[("_id", .number)]⟩
    (∃ compiled, compile spec arrays ⟨fun _ => true⟩ 2 = .ok compiled ∧
      compile spec ⟨[("n", .number)]⟩ ⟨fun _ => true⟩ 2 = .ok compiled ∧ spec.Permitted arrays) ∧
    ¬spec.Permitted numbers ∧
      ∀ compiled, compile spec numbers ⟨fun _ => true⟩ 2 ≠ .ok compiled := by
  intro spec arrays numbers
  have refused : ¬spec.Permitted numbers := by
    intro permitted
    cases (permitted "_id" _ .allOf (.list [.scalar (.str "x")])
      (.tail _ (.tail _ (.tail _ (.tail _ (.head _))))) .number rfl).1 rfl
  have fewer (path : String) (type : FieldType)
      (found : (⟨[("n", .number)]⟩ : FieldContext).type? path = some type) :
      arrays.type? path = some type := by
    by_cases named : "n" = path
    · subst named
      exact found
    · simp [FieldContext.type?, Entries.find?, named] at found
  obtain ⟨declared, taken⟩ := compile_eq_ok_iff_permitted spec arrays ⟨fun _ => true⟩ 2
  refine ⟨⟨_, rfl, taken _ fewer _ rfl, ((declared _).mp rfl).2⟩, refused,
    fun compiled compiles => ?_⟩
  exact refused
    (((compile_eq_ok_iff_permitted spec numbers ⟨fun _ => true⟩ 2).1 compiled).mp compiles).2

end FilterSpec

end SearchFilter
