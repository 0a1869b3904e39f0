import SearchFilter.Proofs.DocumentPlaces
import SearchFilter.Proofs.NumericComparison
import SearchFilter.Proofs.OperatorOrder

/-!
# Spellings of a range

A range is written as a literal with its two ends or as a map with an operator for each end. An end
that is left out of the literal, or is null there, has no operator in the map. With at least one end
the two spellings are the same condition wherever it stands. Without any end the literal asks for
any value at all, as the test for presence does.
-/

namespace SearchFilter

/-! ### Ends -/

/-- One end of a range, as a document gives it. The numbers of documents are finite. -/
inductive RangeEnd
  | missing
  | null
  | number (value : Number) (spelled : value.InDocument)
  | text (value : String)

namespace RangeEnd

/-- The member of the literal for this end, if it has one. -/
def member? : RangeEnd → Option Json
  | missing => none
  | null => some .null
  | number value _ => some (.number value)
  | text value => some (.string value)

/-- The operand of the operator for this end, if it has one. -/
def operand? : RangeEnd → Option Json
  | missing | null => none
  | number value _ => some (.number value)
  | text value => some (.string value)

/-- What the range ends with. -/
def literal? : RangeEnd → Option Scalar
  | missing | null => none
  | number value _ => some (.ofNumber value)
  | text value => some (.str value)

end RangeEnd

/-- A range in either spelling. -/
structure RangeSpelling where
  lower : RangeEnd
  upper : RangeEnd
  /-- Whether the upper end is left out of the range. -/
  exclusive : Bool

namespace RangeSpelling

/-- The literal. -/
def literal (range : RangeSpelling) : Json :=
  .object [("$range", .object ((range.lower.member?.map ("from", ·)).toList ++
    (range.upper.member?.map ("to", ·)).toList ++ [("exclusive", .bool range.exclusive)]))]

/-- The operator for the upper end. -/
def upperOperator (range : RangeSpelling) : Operator :=
  if range.exclusive then .less else .lessOrEqual

/-- The key of that operator. -/
def upperKey (range : RangeSpelling) : String := if range.exclusive then "$lt" else "$lte"

/-- The map of operators, with the two in either order. -/
def operators (range : RangeSpelling) (upperFirst : Bool) : Json :=
  let lower := (range.lower.operand?.map ("$gte", ·)).toList
  let upper := (range.upper.operand?.map (range.upperKey, ·)).toList
  .object (if upperFirst then upper ++ lower else lower ++ upper)

/-- The range itself. -/
def interval (range : RangeSpelling) : Interval where
  lower := range.lower.literal?.elim .unbounded .included
  upper := range.upper.literal?.elim .unbounded (if range.exclusive then .excluded else .included)

/-- Whether the range has no end. -/
def IsFull (range : RangeSpelling) : Prop :=
  range.lower.literal? = none ∧ range.upper.literal? = none

/-! ### Reading -/

/-- The ends of a range have a place in an order and are not infinite. -/
structure IsEnd (literal : Scalar) : Prop where
  orderable : literal.isOrderable = true
  finite : ∀ close : Scalar → Bound, close = .included ∨ close = .excluded →
    (close literal).finite = close literal

/-- A finite number may end a range. -/
theorem isEnd_of_isFinite {number : Binary64} (finite : number.isFinite = true) :
    IsEnd (.float number) := by
  have notInfinite : number.isInfinite = false := by
    rw [Binary64.isInfinite, Bool.and_eq_false_iff]
    exact .inl (beq_eq_false_iff_ne.mpr (bne_iff_ne.mp finite))
  constructor
  · rw [Scalar.isOrderable, Binary64.isNaN_of_isFinite number finite]
    rfl
  · rintro close (rfl | rfl)
    · rw [Bound.finite, notInfinite]
      rfl
    · rw [Bound.finite, notInfinite]
      rfl

/-- The literal at an end that is there may end a range: document numbers are finite, and every
string has a place in an order. -/
theorem isEnd_of_literal? (given : RangeEnd) (literal : Scalar)
    (isLiteral : given.literal? = some literal) : IsEnd literal := by
  cases given with
  | missing | null => cases isLiteral
  | text value =>
    cases isLiteral
    exact ⟨rfl, fun close closed => by obtain rfl | rfl := closed <;> rfl⟩
  | number value spelled =>
    cases isLiteral
    unfold Scalar.ofNumber
    split
    · exact ⟨rfl, fun close closed => by obtain rfl | rfl := closed <;> rfl⟩
    · exact isEnd_of_isFinite (Number.isFinite_toBinary64 spelled)

variable (range : RangeSpelling)

/-- The entries that the map of operators is read into. -/
def bounds (upperFirst : Bool) : List (Operator × Value) :=
  let lower := (range.lower.literal?.map (.greaterOrEqual, .scalar ·)).toList
  let upper := (range.upper.literal?.map (range.upperOperator, .scalar ·)).toList
  if upperFirst then upper ++ lower else lower ++ upper

/-- The ends of a literal are finite, so the interval is built with both of them as they are. -/
theorem between_eq_interval :
    Interval.between (range.lower.literal?.elim .unbounded .included)
      (range.upper.literal?.elim .unbounded (if range.exclusive then .excluded else .included)) =
        range.interval := by
  have kept (given : RangeEnd) (close : Scalar → Bound)
      (closed : close = .included ∨ close = .excluded) :
      (given.literal?.elim .unbounded close).finite = given.literal?.elim .unbounded close := by
    cases isLiteral : given.literal? with
    | none => rfl
    | some literal => exact (isEnd_of_literal? given literal isLiteral).finite close closed
  rw [Interval.between, interval, kept range.lower .included (.inl rfl), kept range.upper _ ?_]
  cases range.exclusive
  · exact .inl rfl
  · exact .inr rfl

/-- The literal is read as the interval between its ends. -/
theorem valueOf_literal (field : String) :
    FilterSpec.valueOf field range.literal = .ok (.interval range.interval) := by
  rw [← between_eq_interval]
  obtain ⟨lower, upper, exclusive⟩ := range
  cases lower <;> cases upper <;> rfl

/-- The operator for one end is read, if there is one. -/
theorem read_end (given : RangeEnd) (key : String) (op : Operator)
    (names : FilterSpec.keyOf key = .ok (.op op)) (field : String) :
    (given.operand?.map (key, ·)).toList.mapM (FilterSpec.entryOf field) =
      .ok (given.literal?.map fun literal => (Key.op op, Value.scalar literal)).toList := by
  have entry (json : Json) (literal : Scalar)
      (read : FilterSpec.valueOf field json = .ok (.scalar literal)) :
      [(key, json)].mapM (FilterSpec.entryOf field) = .ok [(Key.op op, Value.scalar literal)] := by
    rw [List.mapM_cons, FilterSpec.entryOf, names, read]
    rfl
  cases given with
  | missing | null => rfl
  | number value spelled => exact entry (.number value) (.ofNumber value) rfl
  | text value => exact entry (.string value) (.str value) rfl

/-- The key of the upper end names the operator that is as strict as the literal says. -/
theorem keyOf_upperKey : FilterSpec.keyOf range.upperKey = .ok (.op range.upperOperator) := by
  rw [upperKey, upperOperator]
  cases range.exclusive <;> rfl

/-- No operator of a range is the name of a literal. -/
theorem names_of_operators (upperFirst : Bool) (entries : List (String × Json))
    (are : range.operators upperFirst = .object entries) :
    ∀ entry ∈ entries, entry.1 ≠ "$range" ∧ entry.1 ≠ "$regex" := by
  have ofEnd (key : String) (operand : Option Json) (named : key ≠ "$range" ∧ key ≠ "$regex") :
      ∀ entry ∈ (operand.map (key, ·)).toList, entry.1 ≠ "$range" ∧ entry.1 ≠ "$regex" := by
    intro entry member
    obtain ⟨json, -, rfl⟩ := Option.map_eq_some_iff.mp (Option.mem_toList.mp member)
    exact named
  have lower := ofEnd "$gte" range.lower.operand? (by decide)
  have upper := ofEnd range.upperKey range.upper.operand? <| by
    rw [upperKey]
    cases range.exclusive <;> decide
  obtain rfl := Json.object.inj are
  cases upperFirst with
  | false => exact List.forall_mem_append.mpr ⟨lower, upper⟩
  | true => exact List.forall_mem_append.mpr ⟨upper, lower⟩

/-- The map of operators is read as a map with a bound for each end that is there, in the order
given. -/
theorem valueOf_operators (upperFirst : Bool) (field : String) :
    FilterSpec.valueOf field (range.operators upperFirst) =
      .ok (.ofOperators (range.bounds upperFirst)) := by
  have lower := read_end range.lower "$gte" .greaterOrEqual rfl field
  have upper := read_end range.upper _ _ range.keyOf_upperKey field
  have keyed (op : Operator) (given : RangeEnd) :
      (given.literal?.map fun literal => (op, Value.scalar literal)).toList.map Resolve.keyed =
        (given.literal?.map fun literal => (Key.op op, Value.scalar literal)).toList := by
    cases given.literal? <;> rfl
  have names := range.names_of_operators upperFirst _ rfl
  rw [operators, FilterSpec.valueOf_object_of_names field _ names, Value.ofOperators, bounds]
  cases upperFirst with
  | false =>
    simp only [Bool.false_eq_true, if_false, List.mapM_append, lower, upper, List.map_append, keyed]
    rfl
  | true =>
    simp only [if_true, List.mapM_append, lower, upper, List.map_append, keyed]
    rfl

/-! ### Resolving -/

section Resolving

variable (setting : Resolve.Setting) (field : String) (levels : Nat)

/-- The interval resolves to one range, without warnings and at every number of levels. -/
theorem operand_interval :
    Resolve.operand setting field levels (.interval range.interval) =
      .done [Query.test field (.range range.interval)] [] := by
  have orderable (given : RangeEnd) (close : Scalar → Bound)
      (closed : close = .included ∨ close = .excluded) :
      Resolve.orderableEnd field (given.literal?.elim .unbounded close) = .ok () := by
    cases isLiteral : given.literal? with
    | none => rfl
    | some literal =>
      have isEnd := isEnd_of_literal? given literal isLiteral
      obtain rfl | rfl := closed
      · exact if_pos isEnd.orderable
      · exact if_pos isEnd.orderable
  have closed : (if range.exclusive then Bound.excluded else Bound.included) = .included ∨
      (if range.exclusive then Bound.excluded else Bound.included) = .excluded := by
    cases range.exclusive
    · exact .inl rfl
    · exact .inr rfl
  rw [Resolve.operand_eq_operandWith, interval]
  change Resolve.plainOperand setting field (.interval _) = _
  simp only [Resolve.plainOperand, Resolve.inside]
  rw [orderable range.lower .included (.inl rfl), orderable range.upper _ closed]
  rfl

/-- What the operator for an end contributes, if there is one. -/
theorem contribution_of_end (enter : Operand → Diagnosed (List Query))
    (entries : List (Operator × Value)) (given : RangeEnd) (op : Operator) {side : Resolve.Side}
    {close : Scalar → Bound} (bounding : Resolve.sideOf? op = some (side, close)) :
    (given.literal?.map (op, Value.scalar ·)).toList.mapM
        (Resolve.contribution setting enter field entries) =
      .done (given.literal?.map fun literal =>
        Resolve.Contribution.bound side (close literal)).toList [] := by
  cases isLiteral : given.literal? with
  | none => rfl
  | some literal =>
    have accepted : Resolve.boundOperand field op (.scalar literal) = .ok literal :=
      if_pos (isEnd_of_literal? given literal isLiteral).orderable
    have notOnPlaces : op.isGeo = false := by
      cases op <;> first | rfl | cases bounding
    have contributes : Resolve.contribution setting enter field entries (op, .scalar literal) =
        pure (.bound side (close literal)) := by
      simp only [Resolve.contribution, Resolve.placeCheck, notOnPlaces, Bool.false_eq_true,
        if_false, Diagnosed.lift_ok_bind, Resolve.contributed, bounding, accepted]
    simp only [Option.map_some, Option.toList_some, List.mapM_cons, List.mapM_nil, contributes,
      pure_bind]
    rfl

/-- What the map of operators contributes. -/
def contributions (upperFirst : Bool) : List Resolve.Contribution :=
  let lower := (range.lower.literal?.map fun literal => .bound .lower (.included literal)).toList
  let upper := (range.upper.literal?.map fun literal =>
    .bound .upper ((if range.exclusive then Bound.excluded else .included) literal)).toList
  if upperFirst then upper ++ lower else lower ++ upper

/-- Each bound of the map contributes itself and warns of nothing. -/
theorem bounds_contribute (enter : Operand → Diagnosed (List Query))
    (entries : List (Operator × Value)) (upperFirst : Bool) :
    (range.bounds upperFirst).mapM (Resolve.contribution setting enter field entries) =
      .done (range.contributions upperFirst) [] := by
  have bounding : Resolve.sideOf? range.upperOperator =
      some (.upper, if range.exclusive then .excluded else .included) := by
    rw [upperOperator]
    cases range.exclusive <;> rfl
  have lower := contribution_of_end setting field enter entries range.lower .greaterOrEqual rfl
  have upper := contribution_of_end setting field enter entries range.upper _ bounding
  cases upperFirst with
  | false =>
    simp only [bounds, contributions, Bool.false_eq_true, if_false, List.mapM_append, lower, upper]
    rfl
  | true =>
    simp only [bounds, contributions, if_true, List.mapM_append, lower, upper]
    rfl

/-- In either order the operators form the one range that has both ends. -/
theorem arranged_contributions (upperFirst : Bool) (ended : ¬range.IsFull) :
    ((range.contributions upperFirst).foldl (Resolve.Progress.add field) .start).queries field =
      [Query.test field (.range range.interval)] := by
  rw [IsFull] at ended
  rw [contributions, interval]
  cases lower : range.lower.literal? with
  | none =>
    cases upper : range.upper.literal? with
    | none => exact absurd ⟨lower, upper⟩ ended
    | some high => cases upperFirst <;> rfl
  | some low =>
    cases range.upper.literal? with
    | none => cases upperFirst <;> rfl
    | some high => cases upperFirst <;> cases range.exclusive <;> rfl

/-- The bounds of the map resolve to the range of the interval if there is an end at all. In either
order the second one goes into the range that the first one opens. -/
theorem operand_bounds (upperFirst : Bool) (ended : ¬range.IsFull) :
    Resolve.operand setting field levels (.ops (range.bounds upperFirst)) =
      .done [Query.test field (.range range.interval)] [] := by
  rw [Resolve.operand_eq_of_contributions setting field levels (range.bounds_contribute ..),
    range.arranged_contributions field upperFirst ended]

end Resolving

/-! ### Exchanging -/

/-- The test for presence. -/
def presence : Json := .object [("$exists", .bool true)]

/-- The entries that the test for presence is read into. -/
def presenceEntries : List (Operator × Value) := [(.present, .scalar (.bool true))]

/-- The test for presence resolves to one query. -/
theorem operand_presence (setting : Resolve.Setting) (field : String) (levels : Nat) :
    Resolve.operand setting field levels (.ops presenceEntries) =
      .done [Query.test field .present] [] := by
  rw [Resolve.operand_eq_operandWith]
  rfl

/-- What lies in a range without any end is what is there at all. -/
theorem allAlike_presence (field : String) (full : range.IsFull) :
    Query.AllAlike [Query.test field (.range range.interval)] [Query.test field .present] := by
  intro document
  have everything : range.interval = .full := by
    rw [interval, full.1, full.2]
    rfl
  have holds (values : List Json) :
      (Test.range .full).holds values = Test.present.holds values := by
    cases values <;> rfl
  simp only [Query.selectedByAll, Bool.and_true]
  rw [Query.selects_test _ _ _ rfl, Query.selects_test _ _ _ rfl, everything, holds]

/-- A range with an end may be spelled as a literal or as a map wherever a condition stands. -/
theorem exchanged_operators (upperFirst : Bool) (ended : ¬range.IsFull) :
    (Value.interval range.interval).Exchanged Eq (.ofOperators (range.bounds upperFirst)) ∧
      (Value.ofOperators (range.bounds upperFirst)).Exchanged Eq (.interval range.interval) := by
  have shaped (field : String) := FilterSpec.ofValue_ofOperators field (range.bounds upperFirst)
  constructor
  · refine .of_shapes rfl rfl (fun _ => rfl) shaped fun setting field levels => ?_
    rw [operand_interval, operand_bounds range setting field levels upperFirst ended]
    exact .done rfl rfl
  · refine .of_shapes rfl rfl shaped (fun _ => rfl) fun setting field levels => ?_
    rw [operand_interval, operand_bounds range setting field levels upperFirst ended]
    exact .done rfl rfl

/-- A range without an end may be exchanged with the test for presence. The queries differ and
select the same documents. -/
theorem exchanged_presence (full : range.IsFull) :
    (Value.interval range.interval).Exchanged Query.AllAlike (.ofOperators presenceEntries) ∧
      (Value.ofOperators presenceEntries).Exchanged Query.AllAlike (.interval range.interval) := by
  have shaped (field : String) := FilterSpec.ofValue_ofOperators field presenceEntries
  constructor
  · refine .of_shapes rfl rfl (fun _ => rfl) shaped fun setting field levels => ?_
    rw [operand_interval, operand_presence]
    exact .done (range.allAlike_presence field full) rfl
  · refine .of_shapes rfl rfl shaped (fun _ => rfl) fun setting field levels => ?_
    rw [operand_interval, operand_presence]
    exact .done (fun document => (range.allAlike_presence field full document).symm) rfl

end RangeSpelling

namespace FilterSpec

open RangeSpelling (presence presenceEntries)

/-- The two conditions in the place of each other, in one direction. -/
theorem compileJson_replaced {related : List Query → List Query → Prop}
    (compatible : Query.Compatible related) {condition other : Json} {value otherValue : Value}
    (read : ∀ field, valueOf field condition = .ok value)
    (otherRead : ∀ field, valueOf field other = .ok otherValue)
    (exchanged : value.Exchanged related otherValue) {place : Json → Json}
    (stands : DocumentPlace place) (fields : FieldContext) (capabilities : Capabilities)
    (limit : Nat) (compiled : CompiledQuery)
    (compiles : compileJson (place condition) fields capabilities limit = .ok compiled) :
    ∃ root, compileJson (place other) fields capabilities limit = .ok ⟨root, compiled.warnings⟩ ∧
      related [compiled.root] [root] := by
  have mirrored (field : String) :
      Check.Mirrored (fun given result => given = value ∧ result = otherValue)
        (valueOf field condition) (valueOf field other) := by
    rw [read field, otherRead field]
    exact .ok ⟨rfl, rfl⟩
  refine compileJson_exchanged mirrored compatible ?_ stands fields capabilities limit compiled
    compiles
  rintro _ _ ⟨rfl, rfl⟩
  exact exchanged

/-- Wherever a range stands in a document, as the condition on a field or under negations and in
sub-specifications at any depth, its two spellings compile to the same query with the same warnings,
or neither of them compiles. A range without any end is no map of operators; as a literal it
compiles where the test for presence does, with the same warnings, and selects the same
documents. -/
theorem range_spellings_compile_alike {place : Json → Json} (stands : DocumentPlace place)
    (range : RangeSpelling) (fields : FieldContext) (capabilities : Capabilities) (limit : Nat) :
    (¬range.IsFull → ∀ upperFirst compiled,
      compileJson (place range.literal) fields capabilities limit = .ok compiled ↔
        compileJson (place (range.operators upperFirst)) fields capabilities limit =
          .ok compiled) ∧
    (range.IsFull →
      ((∃ compiled, compileJson (place range.literal) fields capabilities limit = .ok compiled) ↔
        ∃ other, compileJson (place presence) fields capabilities limit = .ok other) ∧
      ∀ compiled other, compileJson (place range.literal) fields capabilities limit = .ok compiled →
        compileJson (place presence) fields capabilities limit = .ok other →
          (∀ document, compiled.root.selects document = other.root.selects document) ∧
            compiled.warnings = other.warnings) := by
  -- Both halves are instances of one law: what is exchanged at a place of a document compiles
  -- alike.
  have presenceRead (field : String) :
      valueOf field presence = .ok (.ofOperators presenceEntries) := rfl
  constructor
  · intro ended upperFirst compiled
    obtain ⟨forth, back⟩ := range.exchanged_operators upperFirst ended
    constructor
    · intro compiles
      obtain ⟨root, otherCompiles, same⟩ := compileJson_replaced .eq range.valueOf_literal
        (range.valueOf_operators upperFirst) forth stands fields capabilities limit compiled
        compiles
      cases same
      exact otherCompiles
    · intro compiles
      obtain ⟨root, otherCompiles, same⟩ := compileJson_replaced .eq
        (range.valueOf_operators upperFirst) range.valueOf_literal back stands fields capabilities
        limit compiled compiles
      cases same
      exact otherCompiles
  · intro full
    obtain ⟨forth, back⟩ := range.exchanged_presence full
    have replaced := compileJson_replaced .allAlike range.valueOf_literal presenceRead forth stands
      fields capabilities limit
    refine ⟨⟨?_, ?_⟩, fun compiled other compiles otherCompiles => ?_⟩
    · rintro ⟨compiled, compiles⟩
      obtain ⟨root, otherCompiles, -⟩ := replaced compiled compiles
      exact ⟨_, otherCompiles⟩
    · rintro ⟨other, compiles⟩
      obtain ⟨root, otherCompiles, -⟩ := compileJson_replaced .allAlike presenceRead
        range.valueOf_literal back stands fields capabilities limit other compiles
      exact ⟨_, otherCompiles⟩
    · obtain ⟨root, again, alike⟩ := replaced compiled compiles
      obtain rfl := Except.ok.inj (again.symm.trans otherCompiles)
      refine ⟨fun document => ?_, rfl⟩
      simpa [Query.selectedByAll] using alike document

/-- A range from one up to five and the range without any end, each negated in a disjunction. -/
theorem range_spellings_compile_alike_of_negated :
    let place (condition : Json) : Json := .object [("_or", .array
      [.object [("f", .object [("$exists", .bool true), ("$not", condition)])]]), ("g", .null)]
    let range : RangeSpelling := ⟨.number (.integer 1) rfl, .number (.integer 5) rfl, true⟩
    let full : RangeSpelling := ⟨.null, .missing, false⟩
    DocumentPlace place ∧ ¬range.IsFull ∧ full.IsFull ∧
      (∃ compiled, compileJson (place range.literal) .empty ⟨fun _ => true⟩ 2 = .ok compiled ∧
        compileJson (place (range.operators true)) .empty ⟨fun _ => true⟩ 2 = .ok compiled) ∧
      ∃ compiled other,
        compileJson (place full.literal) .empty ⟨fun _ => true⟩ 2 = .ok compiled ∧
        compileJson (place presence) .empty ⟨fun _ => true⟩ 2 = .ok other ∧
        ∀ document, compiled.root.selects document = other.root.selects document := by
  intro place range full
  have stands : DocumentPlace place :=
    .entry "_or" [] [("g", .null)] (by decide) (.inside "_or" .flatOr rfl
      (.listed .flatOr rfl [] []) "f" (by decide) [] []
      (.field "f" rfl (.negated "$not" (.inl rfl) [_] [] .whole)))
  have ended : ¬range.IsFull := fun none => nomatch none.1
  have compiles : ∃ compiled,
      compileJson (place range.literal) .empty ⟨fun _ => true⟩ 2 = .ok compiled := ⟨_, rfl⟩
  have fullCompiles : ∃ compiled,
      compileJson (place full.literal) .empty ⟨fun _ => true⟩ 2 = .ok compiled := ⟨_, rfl⟩
  obtain ⟨alike, -⟩ :=
    range_spellings_compile_alike stands range .empty ⟨fun _ => true⟩ 2
  obtain ⟨compiles_iff, selects⟩ :=
    (range_spellings_compile_alike stands full .empty ⟨fun _ => true⟩ 2).2 ⟨rfl, rfl⟩
  obtain ⟨compiled, rangeCompiles⟩ := compiles
  obtain ⟨other, otherCompiles⟩ := compiles_iff.mp fullCompiles
  obtain ⟨fullCompiled, fullCompiles⟩ := fullCompiles
  exact ⟨stands, ended, ⟨rfl, rfl⟩,
    ⟨compiled, rangeCompiles, (alike ended true compiled).mp rangeCompiles⟩, fullCompiled, other,
    fullCompiles, otherCompiles, (selects fullCompiled other fullCompiles otherCompiles).1⟩

end FilterSpec

end SearchFilter
