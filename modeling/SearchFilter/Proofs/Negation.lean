import SearchFilter.Proofs.FieldCondition
import SearchFilter.Proofs.Listing

/-!
# Negation is complement

A condition is negated inside its operator map, and a whole specification under the key of a
combinator. The first has a form of its own for nulls, literals and sequences and flips or wraps the
queries of everything else; the second always wraps. Either way the negation compiles only where
what it negates does, raises the same warnings and selects the complement, and one more level is
enough for it.
-/

namespace SearchFilter

open Check (bind_eq_ok_iff map_eq_ok_iff mapM_eq_ok_iff)

/-- The condition that another one does not hold. -/
def Value.negated (value : Value) : Value := .map [(.op .negation, value)]

namespace FilterSpec

/-- The specification that another one does not hold. -/
def negated (spec : FilterSpec) : FilterSpec := .ofPairs [("not", spec.toValue)]

/-- The specification that none of a list does, with one specification in the list. -/
def negatedInList (spec : FilterSpec) : FilterSpec := .ofPairs [("not", .list [spec.toValue])]

/-- Whether one specification answers as `change` makes of the answers of another one. It compiles
only where the other one does, and at whatever limits both compile they raise the same warnings. -/
structure Follows (fields : FieldContext) (capabilities : Capabilities) (change : Bool → Bool)
    (spec given : FilterSpec) : Prop where
  compiles : ∀ limit compiled, compile spec fields capabilities limit = .ok compiled →
    ∃ other, compile given fields capabilities limit = .ok other
  warnings : ∀ limit more compiled other, compile spec fields capabilities limit = .ok compiled →
    compile given fields capabilities more = .ok other → compiled.warnings = other.warnings
  selects : ∀ limit more compiled other, compile spec fields capabilities limit = .ok compiled →
    compile given fields capabilities more = .ok other → ∀ document,
      compiled.root.selects document = change (other.root.selects document)

section Following

variable (fields : FieldContext) (capabilities : Capabilities)

/-- It is enough to look at one limit, because a greater one changes nothing. -/
theorem Follows.of_same_limit (change : Bool → Bool) (spec given : FilterSpec)
    (follows : ∀ limit compiled, compile spec fields capabilities limit = .ok compiled →
      ∃ other, compile given fields capabilities limit = .ok other ∧
        compiled.warnings = other.warnings ∧ ∀ document,
          compiled.root.selects document = change (other.root.selects document)) :
    Follows fields capabilities change spec given := by
  have same (limit more : Nat) (compiled other : CompiledQuery)
      (compiles : compile spec fields capabilities limit = .ok compiled)
      (otherCompiles : compile given fields capabilities more = .ok other) :
      compiled.warnings = other.warnings ∧ ∀ document,
        compiled.root.selects document = change (other.root.selects document) := by
    obtain ⟨beside, besideCompiles, answers⟩ := follows limit compiled compiles
    have atMost := compile_persists_of_limit given fields capabilities limit (max limit more)
      (Nat.le_max_left limit more) beside besideCompiles
    have otherAtMost := compile_persists_of_limit given fields capabilities more (max limit more)
      (Nat.le_max_right limit more) other otherCompiles
    obtain rfl : beside = other := Except.ok.inj (atMost.symm.trans otherAtMost)
    exact answers
  refine ⟨fun limit compiled compiles => ?_, fun limit more compiled other first second => ?_,
    fun limit more compiled other first second => ?_⟩
  · obtain ⟨other, otherCompiles, -⟩ := follows limit compiled compiles
    exact ⟨other, otherCompiles⟩
  · exact (same limit more compiled other first second).1
  · exact (same limit more compiled other first second).2

/-- What follows a specification that follows another one follows the other one, with the changes
composed. -/
theorem Follows.trans (change changeBefore : Bool → Bool) (spec between given : FilterSpec)
    (first : Follows fields capabilities change spec between)
    (second : Follows fields capabilities changeBefore between given) :
    Follows fields capabilities (change ∘ changeBefore) spec given := by
  refine Follows.of_same_limit fields capabilities _ spec given fun limit compiled compiles => ?_
  obtain ⟨middle, middleCompiles⟩ := first.compiles limit compiled compiles
  obtain ⟨other, otherCompiles⟩ := second.compiles limit middle middleCompiles
  refine ⟨other, otherCompiles, ?_, fun document => ?_⟩
  · rw [first.warnings limit limit compiled middle compiles middleCompiles,
      second.warnings limit limit middle other middleCompiles otherCompiles]
  · rw [first.selects limit limit compiled middle compiles middleCompiles document,
      second.selects limit limit middle other middleCompiles otherCompiles document,
      Function.comp_apply]

end Following

end FilterSpec

/-! ### Negated conditions -/

namespace Resolve

variable (setting : Setting) (field : String) (value : Value)

/-- How operands inside an operand are resolved when `levels` more levels may be entered. -/
def entering : (levels : Nat) → Operand → Diagnosed (List Query)
  | 0 => fun _ => .failed (.depthLimitExceeded setting.limit)
  | levels + 1 => operand setting field levels

/-- An operand is resolved at every number of levels in the same way, and the levels that are left
matter only for what it enters. -/
theorem operand_eq_operandWith (levels : Nat) :
    operand setting field levels = operandWith setting (entering setting field levels) field := by
  cases levels <;> rfl

/-- What can be resolved one level further down can be resolved here. -/
theorem entering_persists (levels : Nat) (shape : Operand) :
    (entering setting field levels shape).Persists (operand setting field levels shape) := by
  cases levels with
  | zero => exact Diagnosed.Persists.of_failed _ _
  | succ levels =>
    exact operand_persists setting setting field (.of_limit _ _ _ _) levels (levels + 1)
      (Nat.le_succ levels) shape fun _ => Nat.le_refl _

/-- A negation alone in its map resolves to the one query that is built for it. -/
theorem operandWith_negated (enter : Operand → Diagnosed (List Query)) :
    operandWith setting enter field (.ops [(.negation, value)]) =
      (fun query => [query]) <$> negation enter field value := by
  simp only [operandWith, takeUpAll, takeUp, sideOf?, Operator.isGeo, Bool.false_eq_true, if_false,
    map_eq_pure_bind, bind_assoc, pure_bind]
  rfl

/-- Sequences are accepted for their literals alone, asked for some member or for none. -/
theorem equalsNone_passes_iff (items : List (Option Scalar)) :
    (∃ query, equalsNone field items = .ok query) ↔ ∃ query, equalsAny field items = .ok query := by
  simp only [equalsNone, equalsAny, bind_eq_ok_iff, Check.pure_eq_ok_iff]
  constructor
  · rintro ⟨query, values, read, -⟩
    exact ⟨_, values, read, rfl⟩
  · rintro ⟨query, values, read, -⟩
    exact ⟨_, values, read, rfl⟩

/-- What is negated can be resolved by itself at the level of its negation, with the same
warnings. -/
theorem resolved_of_negation (levels : Nat) (query : Query) (warnings : List Warning)
    (done : negation (entering setting field levels) field value = .done query warnings) :
    ∃ shape queries, Operand.ofValue field value = .ok shape ∧
      operand setting field levels shape = .done queries warnings := by
  obtain ⟨shape, earlier, later, lifted, negated, rfl⟩ :=
    (Diagnosed.bind_eq_done_iff _ _ _ _).mp done
  obtain ⟨shaped, rfl⟩ := (Diagnosed.lift_eq_done_iff _ _ _).mp lifted
  -- What has operands inside was resolved one level deeper, and more levels change nothing.
  have deeper (queries : List Query) (raised after : List Warning)
      (resolved : entering setting field levels shape = .done queries raised)
      (last : (pure (Query.allOf queries).negate : Diagnosed Query) = .done query after) :
      ∃ queries, operand setting field levels shape = .done queries ([] ++ (raised ++ after)) := by
    obtain ⟨-, rfl⟩ := (Diagnosed.pure_eq_done_iff _ _ _).mp last
    refine ⟨queries, ?_⟩
    rw [List.nil_append, List.append_nil]
    exact entering_persists setting field levels shape queries raised resolved
  cases shape with
  | null =>
    obtain ⟨-, rfl⟩ := (Diagnosed.pure_eq_done_iff _ _ _).mp negated
    refine ⟨.null, [Query.testNot field .present], shaped, ?_⟩
    rw [operand_eq_operandWith]
    rfl
  | scalar literal =>
    obtain ⟨test, built, -, rfl⟩ := (Diagnosed.lift_bind_pure_eq_done_iff _ _ _ _).mp negated
    refine ⟨.scalar literal, [Query.test field test], shaped, ?_⟩
    rw [operand_eq_operandWith]
    exact (Diagnosed.lift_bind_pure_eq_done_iff _ _ _ _).mpr ⟨test, built, rfl, rfl⟩
  | list items =>
    obtain ⟨built, rfl⟩ := (Diagnosed.lift_eq_done_iff _ _ _).mp negated
    obtain ⟨some, positive⟩ := (equalsNone_passes_iff field items).mp ⟨query, built⟩
    refine ⟨.list items, [some], shaped, ?_⟩
    rw [operand_eq_operandWith]
    exact (Diagnosed.lift_bind_pure_eq_done_iff _ _ _ _).mpr ⟨some, positive, rfl, rfl⟩
  | interval _ | pattern _ | ops _ =>
    obtain ⟨queries, raised, after, resolved, last, rfl⟩ :=
      (Diagnosed.bind_eq_done_iff _ _ _ _).mp negated
    obtain ⟨queries, again⟩ := deeper queries raised after resolved last
    exact ⟨_, queries, shaped, again⟩

/-- What can be resolved at some level can be negated one level above it, with the same warnings. -/
theorem negation_of_resolved (levels : Nat) (shape : Operand) (queries : List Query)
    (warnings : List Warning) (shaped : Operand.ofValue field value = .ok shape)
    (resolved : operand setting field levels shape = .done queries warnings) :
    ∃ query, negation (operand setting field levels) field value = .done query warnings := by
  unfold negation
  rw [shaped, Diagnosed.lift_ok_bind]
  cases shape with
  | null =>
    rw [operand_eq_operandWith] at resolved
    obtain ⟨-, rfl⟩ := Diagnosed.done.inj resolved
    exact ⟨_, rfl⟩
  | scalar literal =>
    rw [operand_eq_operandWith] at resolved
    obtain ⟨test, built, -, rfl⟩ := (Diagnosed.lift_bind_pure_eq_done_iff _ _ _ _).mp resolved
    exact ⟨_, (Diagnosed.lift_bind_pure_eq_done_iff _ _ _ _).mpr ⟨test, built, rfl, rfl⟩⟩
  | list items =>
    rw [operand_eq_operandWith] at resolved
    obtain ⟨some, positive, -, rfl⟩ := (Diagnosed.lift_bind_pure_eq_done_iff _ _ _ _).mp resolved
    obtain ⟨query, built⟩ := (equalsNone_passes_iff field items).mpr ⟨some, positive⟩
    exact ⟨query, (Diagnosed.lift_eq_done_iff _ _ _).mpr ⟨built, rfl⟩⟩
  | interval _ | pattern _ | ops _ =>
    refine ⟨(Query.allOf queries).negate, ?_⟩
    exact (Diagnosed.bind_eq_done_iff _ _ _ _).mpr
      ⟨queries, warnings, [], resolved, rfl, (List.append_nil _).symm⟩

end Resolve

namespace FilterSpec

/-- A negated condition means the complement of the condition. -/
theorem condition_negated (capabilities : Capabilities) (held : Held) (value : Value) :
    Meaning.condition capabilities held value.negated =
      !Meaning.condition capabilities held value := by
  have noEdge : Meaning.edge? (.op .negation, value) = none := by cases value <;> rfl
  rw [Value.negated, Meaning.condition, Meaning.operators, Meaning.operators]
  simp [noEdge, Edge.hold, Edge.together]

section Conditions

variable (fields : FieldContext) (capabilities : Capabilities) (key : String) (value : Value)
  (isField : Combinator.ofKey? key = none)
include isField

/-- A negated condition follows the condition. -/
theorem single_negated_follows :
    Follows fields capabilities not (single key value.negated) (single key value) := by
  refine Follows.of_same_limit fields capabilities _ _ _ fun limit compiled compiles => ?_
  obtain ⟨shape, queries, shaped, resolved, root⟩ :=
    (compile_single_eq_ok_iff key _ isField fields capabilities limit compiled).mp compiles
  obtain rfl : Operand.ops [(.negation, value)] = shape := Except.ok.inj shaped
  rw [Resolve.operand_eq_operandWith, Resolve.operandWith_negated, Diagnosed.map_eq_done_iff]
    at resolved
  obtain ⟨query, negated, -⟩ := resolved
  obtain ⟨inner, others, innerShaped, innerResolved⟩ :=
    Resolve.resolved_of_negation _ _ value limit query compiled.warnings negated
  have given := (compile_single_eq_ok_iff key value isField fields capabilities limit
    ⟨.group .and others, compiled.warnings⟩).mpr ⟨inner, others, innerShaped, innerResolved, rfl⟩
  refine ⟨_, given, rfl, fun document => ?_⟩
  rw [selects_single key _ isField fields capabilities limit compiled compiles,
    selects_single key _ isField fields capabilities limit _ given, condition_negated]

/-- A doubly negated condition follows the condition and answers as it does. -/
theorem single_negated_twice_follows :
    Follows fields capabilities id (single key value.negated.negated) (single key value) := by
  have twice : not ∘ not = id := funext Bool.not_not
  rw [← twice]
  exact Follows.trans fields capabilities _ _ _ (single key value.negated) _
    (single_negated_follows fields capabilities key value.negated isField)
    (single_negated_follows fields capabilities key value isField)

/-- One more level is enough to negate a condition. -/
theorem compile_single_negated (limit : Nat) (given : CompiledQuery)
    (compiles : compile (single key value) fields capabilities limit = .ok given) :
    ∃ compiled,
      compile (single key value.negated) fields capabilities (limit + 1) = .ok compiled := by
  obtain ⟨shape, queries, shaped, resolved, -⟩ :=
    (compile_single_eq_ok_iff key value isField fields capabilities limit given).mp compiles
  have eased := Resolve.operand_persists _ _ (Where.pathOf key)
    (.of_limit fields capabilities limit (limit + 1)) limit limit (Nat.le_refl limit) shape
    (fun _ => Nat.le_succ limit) queries given.warnings resolved
  obtain ⟨query, negated⟩ :=
    Resolve.negation_of_resolved _ _ value limit shape queries given.warnings shaped eased
  refine ⟨⟨.group .and [query], given.warnings⟩,
    (compile_single_eq_ok_iff key _ isField fields capabilities (limit + 1) _).mpr
      ⟨.ops [(.negation, value)], [query], rfl, ?_, rfl⟩⟩
  rw [Resolve.operand_eq_operandWith, Resolve.operandWith_negated, Diagnosed.map_eq_done_iff]
  exact ⟨query, negated, rfl⟩

end Conditions

/-! ### Negated specifications -/

section Specifications

variable (spec : FilterSpec)

/-- A specification alone in a list is negated as it is without the list. -/
theorem normalize_negatedInList (limit : Nat) :
    spec.negatedInList.normalize limit = spec.negated.normalize limit := by
  have same (enter : List (String × Value) → Except CompileError Where) :
      Where.entriesClauses enter [("not", .list [spec.toValue])] =
        Where.entriesClauses enter [("not", spec.toValue)] := by
    have isNot : Combinator.ofKey? "not" = some .not := rfl
    simp only [Where.entriesClauses, List.mapM_cons, List.mapM_nil, Where.entryClauses, isNot,
      toValue, Where.clausesOf, bind_assoc, pure_bind]
  cases limit <;> exact same _

variable (fields : FieldContext) (capabilities : Capabilities)

/-- Negating a list of one sub-specification is negating that sub-specification. -/
theorem compile_negatedInList (limit : Nat) :
    compile spec.negatedInList fields capabilities limit =
      compile spec.negated fields capabilities limit := by
  rw [compile, compile, normalize_negatedInList]

/-- A negated specification follows the specification. -/
theorem negated_follows : Follows fields capabilities not spec.negated spec := by
  refine Follows.of_same_limit fields capabilities _ _ _ fun limit compiled compiles => ?_
  rw [← compile_negatedInList] at compiles
  obtain ⟨given, givenCompiles, rfl⟩ :=
    compile_of_compile_listed spec "not" .not rfl rfl fields capabilities limit compiled compiles
  refine ⟨given, givenCompiles, rfl, fun document => ?_⟩
  simp [Combinator.connective]

/-- A specification negated in a list compiles only where the specification does, and selects the
complement. -/
theorem negatedInList_follows : Follows fields capabilities not spec.negatedInList spec := by
  have follows := negated_follows spec fields capabilities
  constructor
  · intro limit compiled compiles
    rw [compile_negatedInList] at compiles
    exact follows.compiles limit compiled compiles
  · intro limit more compiled other compiles
    rw [compile_negatedInList] at compiles
    exact follows.warnings limit more compiled other compiles
  · intro limit more compiled other compiles
    rw [compile_negatedInList] at compiles
    exact follows.selects limit more compiled other compiles

/-- A doubly negated specification follows the specification and answers as it does. -/
theorem negated_twice_follows : Follows fields capabilities id spec.negated.negated spec := by
  have twice : not ∘ not = id := funext Bool.not_not
  rw [← twice]
  exact Follows.trans fields capabilities _ _ _ spec.negated _
    (negated_follows spec.negated fields capabilities) (negated_follows spec fields capabilities)

/-- One more level is enough to negate a specification. -/
theorem compile_negated (limit : Nat) (given : CompiledQuery)
    (compiles : compile spec fields capabilities limit = .ok given) :
    ∃ compiled, compile spec.negated fields capabilities (limit + 1) = .ok compiled := by
  rw [← compile_negatedInList]
  exact ⟨_, compile_listed spec "not" .not rfl rfl fields capabilities limit given compiles⟩

end Specifications

/-- Negation is complement at both levels. The three negations of a condition select what the
condition does not, the two double negations what it does; all of them compile only where the
condition compiles, with the warnings of the condition, and one more level for each negation is
enough for them. -/
theorem negations_follow (fields : FieldContext) (capabilities : Capabilities) (key : String)
    (value : Value) (isField : Combinator.ofKey? key = none) :
    let plain := single key value
    let negations := [single key value.negated, plain.negated, plain.negatedInList]
    let doubles := [single key value.negated.negated, plain.negated.negated]
    (∀ negation ∈ negations, Follows fields capabilities not negation plain) ∧
      (∀ double ∈ doubles, Follows fields capabilities id double plain) ∧
      ∀ limit given, compile plain fields capabilities limit = .ok given →
        (∀ negation ∈ negations,
          ∃ compiled, compile negation fields capabilities (limit + 1) = .ok compiled) ∧
        ∀ double ∈ doubles,
          ∃ compiled, compile double fields capabilities (limit + 2) = .ok compiled := by
  intro plain negations doubles
  refine ⟨?_, ?_, ?_⟩
  · intro negation member
    simp only [negations, List.mem_cons, List.not_mem_nil, or_false] at member
    obtain rfl | rfl | rfl := member
    · exact single_negated_follows fields capabilities key value isField
    · exact negated_follows plain fields capabilities
    · exact negatedInList_follows plain fields capabilities
  · intro double member
    simp only [doubles, List.mem_cons, List.not_mem_nil, or_false] at member
    obtain rfl | rfl := member
    · exact single_negated_twice_follows fields capabilities key value isField
    · exact negated_twice_follows plain fields capabilities
  · intro limit given compiles
    -- A negation takes one level more, around the field or in it, and a double negation does so
    -- twice.
    obtain ⟨inField, inFieldCompiles⟩ :=
      compile_single_negated fields capabilities key value isField limit given compiles
    obtain ⟨around, aroundCompiles⟩ :=
      compile_negated plain fields capabilities limit given compiles
    constructor
    · intro negation member
      simp only [negations, List.mem_cons, List.not_mem_nil, or_false] at member
      obtain rfl | rfl | rfl := member
      · exact ⟨inField, inFieldCompiles⟩
      · exact ⟨around, aroundCompiles⟩
      · exact ⟨around, (compile_negatedInList plain fields capabilities (limit + 1)).trans
          aroundCompiles⟩
    · intro double member
      simp only [doubles, List.mem_cons, List.not_mem_nil, or_false] at member
      obtain rfl | rfl := member
      · exact compile_single_negated fields capabilities key value.negated isField (limit + 1)
          inField inFieldCompiles
      · exact compile_negated plain.negated fields capabilities (limit + 1) around aroundCompiles

/-- The bounds of a field that is not called like a combinator, with a limit that leaves one level
for their negation. -/
theorem negations_follow_of_bounds :
    let value := Value.map [(.op .greater, .scalar (.int 1)), (.op .less, .scalar (.int 5))]
    Combinator.ofKey? "size" = none ∧
      (∃ compiled, compile (single "size" value.negated) .empty ⟨fun _ => true⟩ 1 = .ok compiled) ∧
      ∀ negation ∈ [single "size" value.negated, (single "size" value).negated,
        (single "size" value).negatedInList],
        Follows .empty ⟨fun _ => true⟩ not negation (single "size" value) :=
  ⟨rfl, ⟨_, rfl⟩, (negations_follow .empty ⟨fun _ => true⟩ "size" _ rfl).1⟩

end FilterSpec

end SearchFilter
