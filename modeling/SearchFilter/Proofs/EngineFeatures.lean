import SearchFilter.Proofs.CaseFlags

/-!
# Engine features only gate

The two features that engines differ in are a hard gate, a soft gate and a deprecation. The operator
for patterns in any case is refused without the feature for case, a pattern literal loses its case
flag and is reported, and polygons are only ever reported. Nothing else in the outcome of a
compilation depends on the engine, however deep an operand is nested.
-/

namespace SearchFilter

/-! ### What is compared -/

/-- Whether a warning is about a form that the engine has deprecated. -/
def Warning.isDeprecation : Warning → Bool
  | .deprecated _ _ _ => true
  | _ => false

/-- Whether a warning is about a case flag that was dropped. -/
def Warning.isIgnoredFlag : Warning → Bool
  | .caseInsensitiveIgnored _ _ => true
  | _ => false

/-- The compiled query without the warnings about deprecated forms. -/
def CompiledQuery.withoutDeprecations (compiled : CompiledQuery) : CompiledQuery :=
  ⟨compiled.root, compiled.warnings.filter fun warning => !warning.isDeprecation⟩

/-- Whether a test came from a pattern literal. -/
def Test.isStrict : Test → Bool
  | .regexp _ _ strict => strict
  | _ => false

/-- The tests that came from pattern literals in order, each with its field. -/
def Query.literalTests (query : Query) : List (String × Test) :=
  (matchers [query]).filter fun matcher => matcher.2.isStrict

/-- The pattern literal that a demand is, with its field, if it is one. -/
def Demand.literal? : Demand → Option (String × Pattern)
  | .plain field (.pattern literal) => some (field, literal)
  | _ => none

namespace FilterSpec

/-- The pattern literals of a specification in the order in which they are written, each with its
field. -/
def literals (spec : FilterSpec) : List (String × Pattern) :=
  spec.demands.filterMap Demand.literal?

end FilterSpec

/-! ### Errors -/

namespace Resolve

variable (first second : Capabilities) (field : String)

/-- A polygon is refused for its points and never for the engine. -/
theorem error?_inPolygon (value : Value) :
    (inPolygon first field value).error? = (inPolygon second field value).error? := by
  rw [inPolygon, inPolygon, Diagnosed.error?_bind, Diagnosed.error?_bind]
  split <;> rfl

/-- An engine matters for patterns only if case is to be ignored. -/
theorem like_eq (text : String) (ignoreCase : Bool)
    (same : ignoreCase = true →
      first.has .caseInsensitiveMatch = second.has .caseInsensitiveMatch) :
    like first text ignoreCase = like second text ignoreCase := by
  cases ignoreCase with
  | false => rfl
  | true =>
    unfold like
    rw [same rfl]

variable (fields : FieldContext) (limit : Nat) (entries : List (Operator × Value))
  (op : Operator) (value : Value)
  (same : op = .likeAnyCase →
    first.has .caseInsensitiveMatch = second.has .caseInsensitiveMatch)
include same

/-- Engines that agree on case refuse the same operators with the same errors, and only one operator
asks for that. -/
theorem error?_simpleEntry :
    (simpleEntry ⟨fields, first, limit⟩ field entries op value).error? =
      (simpleEntry ⟨fields, second, limit⟩ field entries op value).error? := by
  cases op with
  | likeAnyCase =>
    have alike (text : String) := like_eq first second text true fun _ => same rfl
    simp only [simpleEntry, alike]
  | geoPolygon =>
    have built (capabilities : Capabilities) :
        simpleEntry ⟨fields, capabilities, limit⟩ field entries .geoPolygon value =
          (fun test => [Query.test field test]) <$> inPolygon capabilities field value := rfl
    rw [built, built, Diagnosed.error?_map, Diagnosed.error?_map]
    exact error?_inPolygon first second field value
  | _ => rfl

/-- Engines that agree on case refuse the same entries with the same errors. -/
theorem error?_contribution (enter : Operand → Diagnosed (List Query)) :
    (contribution ⟨fields, first, limit⟩ enter field entries (op, value)).error? =
      (contribution ⟨fields, second, limit⟩ enter field entries (op, value)).error? := by
  refine Diagnosed.error?_bind_congr _ _ _ fun _ => ?_
  unfold contributed
  dsimp only
  split
  · rfl
  · split
    · rfl
    · rfl
    · rw [← map_eq_pure_bind, ← map_eq_pure_bind, Diagnosed.error?_map, Diagnosed.error?_map]
      exact error?_simpleEntry first second field fields limit entries op value same

end Resolve

namespace Demand

/-- Whether a demand is the operator for patterns in any case. -/
def IsAnyCase : Demand → Prop
  | .operator _ _ .likeAnyCase _ => True
  | _ => False

variable (first second : Capabilities) (fields : FieldContext) (limit : Nat)

/-- Two engines refuse a demand alike, unless it is for patterns in any case and only one of them
has the feature. -/
theorem error?_check (demand : Demand)
    (same : demand.IsAnyCase →
      first.has .caseInsensitiveMatch = second.has .caseInsensitiveMatch) :
    (demand.check ⟨fields, first, limit⟩).error? =
      (demand.check ⟨fields, second, limit⟩).error? := by
  cases demand with
  | spec _ | operand _ => rfl
  | plain field value =>
    refine Diagnosed.error?_bind_congr _ _ _ fun shape => ?_
    rw [← map_eq_pure_bind, ← map_eq_pure_bind, Diagnosed.error?_map, Diagnosed.error?_map]
    cases shape with
    | pattern literal =>
      rw [Resolve.plainOperand, Resolve.plainOperand, Resolve.patternLiteral_eq,
        Resolve.patternLiteral_eq]
      rfl
    | _ => rfl
  | operator field entries op value =>
    rw [check, check, Diagnosed.error?_map, Diagnosed.error?_map]
    exact Resolve.error?_contribution first second field fields limit entries op value
      (fun anyCase => same (by subst anyCase; trivial)) _

section Lacking

variable (capabilities : Capabilities)

/-- The check of the operator for patterns in any case reads its text and then asks the engine. -/
theorem check_anyCase (field : String) (entries : List (Operator × Value)) (value : Value) :
    (operator field entries .likeAnyCase value).check ⟨fields, capabilities, limit⟩ =
      Query.matchers <$> Diagnosed.lift do
        let text ← Resolve.textOperand field .likeAnyCase value
        return [Query.test field (← Resolve.like capabilities text true)] := by
  have placed : Resolve.contribution ⟨fields, capabilities, limit⟩ (fun _ => .done [] []) field
      entries (.likeAnyCase, value) = Resolve.Contribution.queries <$>
        Resolve.simpleEntry ⟨fields, capabilities, limit⟩ field entries .likeAnyCase value := by
    rw [map_eq_pure_bind]
    exact Diagnosed.lift_ok_bind () _
  rw [check, placed, Functor.map_map]
  rfl

/-- An engine that lacks the feature refuses whatever another one does with patterns in any case. -/
theorem error?_check_anyCase (lacks : capabilities.has .caseInsensitiveMatch = false)
    (having : Capabilities) (demand : Demand) (anyCase : demand.IsAnyCase)
    (done : (demand.check ⟨fields, having, limit⟩).Succeeds) :
    (demand.check ⟨fields, capabilities, limit⟩).error? =
      some (.unsupportedCapability .likeAnyCase ⟨7, 10, 0⟩) := by
  obtain ⟨field, entries, value, rfl⟩ : ∃ field entries value,
      demand = .operator field entries .likeAnyCase value := by
    cases demand with
    | operator field entries op value =>
      cases op <;> first | exact ⟨field, entries, value, rfl⟩ | cases anyCase
    | _ => cases anyCase
  have refused (text : String) : Resolve.like capabilities text true =
      .error (.unsupportedCapability .likeAnyCase ⟨7, 10, 0⟩) := by
    simp [Resolve.like, lacks, Feature.since]
  rw [check_anyCase, Diagnosed.succeeds_map_iff, Diagnosed.succeeds_lift_iff] at done
  obtain ⟨_, passed⟩ := done
  obtain ⟨text, read, -⟩ := (Check.bind_eq_ok_iff _ _ _).mp passed
  rw [check_anyCase, Diagnosed.error?_map, read]
  simp only [refused]
  rfl

end Lacking

end Demand

/-! ### Warnings and case flags -/

namespace Demand

variable (capabilities other : Capabilities) (demand : Demand)

/-- Deprecations apart, engines that agree on case report the same of a demand. -/
theorem notices_filter_deprecation
    (same : capabilities.has .caseInsensitiveMatch = other.has .caseInsensitiveMatch) :
    ((demand.notices capabilities).filter fun warning => !warning.isDeprecation) =
      (demand.notices other).filter fun warning => !warning.isDeprecation := by
  cases demand with
  | plain field value =>
    cases value with
    | pattern literal => simp only [notices, Pattern.notices, same]
    | _ => rfl
  | operator field entries op value =>
    cases op with
    | geoPolygon =>
      rw [notices, notices]
      split <;> split <;> rfl
    | _ => rfl
  | _ => rfl

/-- Ignored case flags apart, engines that agree on polygons report the same of a demand. -/
theorem notices_filter_flags (lacks : capabilities.has .caseInsensitiveMatch = false)
    (has : other.has .caseInsensitiveMatch = true)
    (same : capabilities.has .geoPolygonDeprecated = other.has .geoPolygonDeprecated) :
    (demand.notices capabilities).filter (fun warning => !warning.isIgnoredFlag) =
      demand.notices other := by
  cases demand with
  | plain field value =>
    cases value with
    | pattern literal =>
      simp only [notices, Pattern.notices, lacks, has, Bool.not_true, Bool.and_false]
      by_cases anchored : literal.IsAnchored <;> cases literal.ignoreCase <;>
        simp [anchored, Warning.isIgnoredFlag]
    | _ => rfl
  | operator field entries op value =>
    cases op with
    | geoPolygon =>
      rw [notices, notices, same]
      split <;> rfl
    | _ => rfl
  | _ => rfl

/-- Without the feature for case, a demand reports an ignored flag exactly if it sets a pattern
literal with that flag. -/
theorem notices_flags (lacks : capabilities.has .caseInsensitiveMatch = false) :
    (demand.notices capabilities).filter Warning.isIgnoredFlag =
      ((demand.literal?.filter fun literal => literal.2.ignoreCase).map fun literal =>
        Warning.caseInsensitiveIgnored literal.1 ⟨7, 10, 0⟩).toList := by
  cases demand with
  | plain field value =>
    cases value with
    | pattern literal =>
      simp only [notices, Pattern.notices, lacks, literal?]
      by_cases anchored : literal.IsAnchored <;> cases flag : literal.ignoreCase <;>
        simp [anchored, flag, Warning.isIgnoredFlag, Option.filter]
    | _ => rfl
  | operator field entries op value =>
    cases op with
    | geoPolygon =>
      rw [notices]
      split <;> rfl
    | _ => rfl
  | _ => rfl

/-- The tests of a demand that are strict are those of its pattern literal. Patterns of operators
are not. -/
theorem matchers_strict :
    (demand.matchers capabilities).filter (fun matcher => matcher.2.isStrict) =
      (demand.literal?.map fun literal => (literal.1, literal.2.test capabilities)).toList := by
  cases demand with
  | plain field value => cases value <;> rfl
  | operator field entries op value =>
    refine List.filter_eq_nil_iff.mpr fun matcher member => ?_
    obtain ⟨pattern, same | same⟩ :=
      exists_of_mem_matchers_operator capabilities field entries op value matcher member
    · simp [same, Test.isStrict]
    · simp [same, Test.isStrict]
  | _ => rfl

/-- Without the feature for case only patterns in any case ignore it. -/
theorem caseFlag?_of_mem_matchers (lacks : capabilities.has .caseInsensitiveMatch = false)
    (noAnyCase : ¬demand.IsAnyCase) (matcher : String × Test)
    (member : matcher ∈ demand.matchers capabilities) : matcher.2.caseFlag? = some false := by
  cases demand with
  | plain field value =>
    cases value with
    | pattern literal =>
      obtain rfl := List.mem_singleton.mp member
      simp [Pattern.test, Test.caseFlag?, lacks]
    | _ => cases member
  | operator field entries op value =>
    have other : op ≠ .likeAnyCase := fun same => noAnyCase (by subst same; trivial)
    obtain ⟨pattern, same | same⟩ :=
      exists_of_mem_matchers_operator capabilities field entries op value matcher member
    · rw [same]
      rfl
    · rw [same, decide_eq_false other]
      rfl
  | _ => cases member

end Demand

section Compiling

variable (spec : FilterSpec) (fields : FieldContext) (limit : Nat)

/-- The warnings and the tests from pattern literals are those of the demands. -/
theorem literalTests_of_compile (capabilities : Capabilities) (compiled : CompiledQuery)
    (compiles : compile spec fields capabilities limit = .ok compiled) :
    compiled.root.literalTests =
      spec.literals.map fun literal => (literal.1, literal.2.test capabilities) := by
  rw [Query.literalTests, (outcome_of_compile _ _ _ _ _ compiles).1, List.filter_flatMap,
    FilterSpec.literals, List.map_filterMap, List.filterMap_eq_flatMap_toList]
  simp only [Demand.matchers_strict]

/-- Every case flag that is dropped is reported. -/
theorem ignoredFlags_of_compile (capabilities : Capabilities)
    (lacks : capabilities.has .caseInsensitiveMatch = false) (compiled : CompiledQuery)
    (compiles : compile spec fields capabilities limit = .ok compiled) :
    compiled.warnings.filter Warning.isIgnoredFlag =
      (spec.literals.filter fun literal => literal.2.ignoreCase).map fun literal =>
        .caseInsensitiveIgnored literal.1 ⟨7, 10, 0⟩ := by
  rw [(outcome_of_compile _ _ _ _ _ compiles).2, List.filter_flatMap, FilterSpec.literals,
    List.filter_filterMap, List.map_filterMap, List.filterMap_eq_flatMap_toList]
  simp only [Demand.notices_flags _ _ lacks]

/-- An error on one engine is the same error on every engine that agrees with it on case. -/
theorem compile_eq_error_alike (first second : Capabilities)
    (same : first.has .caseInsensitiveMatch = second.has .caseInsensitiveMatch)
    (error : CompileError) (failed : compile spec fields first limit = .error error) :
    compile spec fields second limit = .error error := by
  cases read : spec.normalize limit with
  | error refused =>
    rw [compile, read] at failed ⊢
    exact failed
  | ok clauses =>
    rw [compile_eq_error_iff_of_read spec fields _ limit clauses read] at failed ⊢
    simpa only [Demand.error?_check second first fields limit _ fun _ => same.symm] using failed

/-- Engines that can do as much with case refuse alike or compile to the same tree, and they raise
the same warnings but for deprecated forms. -/
theorem compile_alike (first second : Capabilities)
    (same : first.has .caseInsensitiveMatch = second.has .caseInsensitiveMatch) :
    (compile spec fields first limit).map CompiledQuery.withoutDeprecations =
      (compile spec fields second limit).map CompiledQuery.withoutDeprecations := by
  cases compiles : compile spec fields first limit with
  | error error => rw [compile_eq_error_alike spec fields limit first second same error compiles]
  | ok compiled =>
    have reflags : Resolve.Reflags id first second :=
      ⟨fun able => same ▸ able, fun _ => by rw [same, id]⟩
    obtain ⟨given, otherCompiles, root⟩ :=
      compile_tracks id spec fields first second limit reflags compiled compiles
    have warnings : (compiled.warnings.filter fun warning => !warning.isDeprecation) =
        given.warnings.filter fun warning => !warning.isDeprecation := by
      rw [(outcome_of_compile _ _ _ _ _ compiles).2, (outcome_of_compile _ _ _ _ _ otherCompiles).2,
        List.filter_flatMap, List.filter_flatMap]
      simp only [Demand.notices_filter_deprecation first second _ same]
    rw [Query.reflag_id] at root
    rw [otherCompiles]
    simp only [Except.map, CompiledQuery.withoutDeprecations, warnings, root]

/-- What compiles for an engine with the feature for case is refused by one without it exactly if it
uses the operator that needs it. -/
theorem compile_lacking_eq_error_iff (lacking having : Capabilities)
    (lacks : lacking.has .caseInsensitiveMatch = false) (compiled : CompiledQuery)
    (compiles : compile spec fields having limit = .ok compiled) (error : CompileError) :
    compile spec fields lacking limit = .error error ↔
      (∃ demand ∈ spec.demands, demand.IsAnyCase) ∧
        error = .unsupportedCapability .likeAnyCase ⟨7, 10, 0⟩ := by
  obtain ⟨⟨clauses, read⟩, each⟩ :=
    (compiles_iff spec fields having limit).mp ⟨compiled, compiles⟩
  rw [compile_eq_error_iff_of_read spec fields lacking limit clauses read]
  -- The first demand that fails is the error, and only demands of one kind can fail, all with the
  -- same error.
  have refused (demand : Demand) (member : demand ∈ spec.demands) (anyCase : demand.IsAnyCase) :=
    Demand.error?_check_anyCase fields limit lacking lacks having demand anyCase
      (each demand member)
  have passed (demand : Demand) (member : demand ∈ spec.demands) (other : ¬demand.IsAnyCase) :
      (demand.check ⟨fields, lacking, limit⟩).error? = none := by
    rw [Demand.error?_check lacking having fields limit demand fun anyCase => absurd anyCase other,
      Diagnosed.error?_eq_none_iff]
    exact each demand member
  have only (found : CompileError)
      (first : (spec.demands.findSome? fun demand =>
        (demand.check ⟨fields, lacking, limit⟩).error?) = some found) :
      (∃ demand ∈ spec.demands, demand.IsAnyCase) ∧
        found = .unsupportedCapability .likeAnyCase ⟨7, 10, 0⟩ := by
    obtain ⟨demand, member, failed⟩ := List.exists_of_findSome?_eq_some first
    by_cases anyCase : demand.IsAnyCase
    · rw [refused demand member anyCase] at failed
      exact ⟨⟨demand, member, anyCase⟩, (Option.some.inj failed).symm⟩
    · rw [passed demand member anyCase] at failed
      cases failed
  refine ⟨only error, ?_⟩
  rintro ⟨⟨demand, member, anyCase⟩, rfl⟩
  cases first : spec.demands.findSome? fun demand =>
      (demand.check ⟨fields, lacking, limit⟩).error? with
  | none =>
    have none := List.findSome?_eq_none_iff.mp first demand member
    rw [refused demand member anyCase] at none
    cases none
  | some found => rw [(only found first).2]

/-- An engine without the feature for case builds no test that ignores it. -/
theorem unflagged_of_compile (capabilities : Capabilities)
    (lacks : capabilities.has .caseInsensitiveMatch = false) (compiled : CompiledQuery)
    (compiles : compile spec fields capabilities limit = .ok compiled) (predicate : Predicate)
    (member : predicate ∈ compiled.root.leaves) : predicate.test.caseFlag? ≠ some true := by
  intro flagged
  have found : (predicate.field, predicate.test) ∈ Query.matchers [compiled.root] := by
    refine List.mem_filterMap.mpr ⟨predicate, List.mem_append_left _ member, ?_⟩
    rw [Predicate.matcher?, flagged]
    rfl
  rw [(outcome_of_compile _ _ _ _ _ compiles).1] at found
  obtain ⟨demand, demanded, matched⟩ := List.mem_flatMap.mp found
  have done := ((compiles_iff spec fields capabilities limit).mp ⟨compiled, compiles⟩).2 demand
    demanded
  have noAnyCase : ¬demand.IsAnyCase := by
    intro anyCase
    have refused :=
      Demand.error?_check_anyCase fields limit capabilities lacks capabilities demand anyCase done
    rw [(Diagnosed.error?_eq_none_iff _).mpr done] at refused
    cases refused
  rw [Demand.caseFlag?_of_mem_matchers capabilities demand lacks noAnyCase _ matched] at flagged
  cases flagged

end Compiling

namespace FilterSpec

/-- Whether the operator for patterns in any case stands somewhere in a specification. -/
def UsesAnyCase (spec : FilterSpec) : Prop := ∃ demand ∈ spec.demands, demand.IsAnyCase

/-- Capabilities only gate. The feature for polygons adds and removes warnings about deprecated
forms and nothing else. What compiles without the feature for case compiles with it, to the same
tree but for the case flags of pattern literals, and the flags that were dropped are what is
reported in addition. What compiles with it is refused without it exactly if it uses the operator
for patterns in any case. Without it no test ignores case. -/
theorem capabilities_only_gate (spec : FilterSpec) (fields : FieldContext) (limit : Nat) :
    (∀ first second : Capabilities,
      first.has .caseInsensitiveMatch = second.has .caseInsensitiveMatch →
        (compile spec fields first limit).map CompiledQuery.withoutDeprecations =
          (compile spec fields second limit).map CompiledQuery.withoutDeprecations) ∧
    (∀ lacking having : Capabilities, lacking.has .caseInsensitiveMatch = false →
      having.has .caseInsensitiveMatch = true →
        (∀ given, compile spec fields lacking limit = .ok given →
          ∃ compiled, compile spec fields having limit = .ok compiled ∧
            given.root = compiled.root.reflag (fun _ => false) ∧
            compiled.root.literalTests = spec.literals.map (fun literal =>
              (literal.1, .regexp (Resolve.stripAnchors literal.2.source).1
                literal.2.ignoreCase true)) ∧
            given.warnings.filter Warning.isIgnoredFlag =
              (spec.literals.filter fun literal => literal.2.ignoreCase).map (fun literal =>
                .caseInsensitiveIgnored literal.1 ⟨7, 10, 0⟩) ∧
            (lacking.has .geoPolygonDeprecated = having.has .geoPolygonDeprecated →
              compiled.warnings = given.warnings.filter fun warning => !warning.isIgnoredFlag)) ∧
        ∀ compiled, compile spec fields having limit = .ok compiled → ∀ error,
          compile spec fields lacking limit = .error error ↔
            spec.UsesAnyCase ∧ error = .unsupportedCapability .likeAnyCase ⟨7, 10, 0⟩) ∧
    ∀ capabilities : Capabilities, capabilities.has .caseInsensitiveMatch = false →
      ∀ compiled, compile spec fields capabilities limit = .ok compiled →
        ∀ predicate ∈ compiled.root.leaves, predicate.test.caseFlag? ≠ some true := by
  refine ⟨compile_alike spec fields limit, fun lacking having lacks has => ⟨?_, ?_⟩,
    unflagged_of_compile spec fields limit⟩
  · intro given compiles
    have reflags : Resolve.Reflags (fun _ => false) lacking having :=
      ⟨fun _ => has, fun _ => by rw [lacks, Bool.and_false]⟩
    obtain ⟨compiled, otherCompiles, root⟩ :=
      compile_tracks _ spec fields lacking having limit reflags given compiles
    refine ⟨compiled, otherCompiles, root, ?_,
      ignoredFlags_of_compile spec fields limit lacking lacks given compiles, fun same => ?_⟩
    · rw [literalTests_of_compile spec fields limit having compiled otherCompiles]
      simp only [Pattern.test, has, Bool.and_true]
    · rw [(outcome_of_compile _ _ _ _ _ compiles).2,
        (outcome_of_compile _ _ _ _ _ otherCompiles).2, List.filter_flatMap]
      simp only [Demand.notices_filter_flags lacking having _ lacks has same]
  · exact compile_lacking_eq_error_iff spec fields limit lacking having lacks

/-- A literal inside an equality that is negated in a member of a disjunction, and a negated pattern
in any case. -/
theorem capabilities_only_gate_of_negated :
    let spec := ofPairs [("_or", .list [.map [(.name "f", .map [(.op .negation,
      .map [(.op .equal, .pattern ⟨"^a$", true⟩)])])]])]
    let anyCase := ofPairs [("f", .map [(.op .negation,
      .map [(.op .likeAnyCase, .scalar (.str "a%"))])])]
    let lacking : Capabilities := ⟨fun _ => false⟩
    let having : Capabilities := ⟨fun feature => feature = .caseInsensitiveMatch⟩
    let both : Capabilities := ⟨fun _ => true⟩
    (∃ given compiled, compile spec .empty lacking 3 = .ok given ∧
      compile spec .empty having 3 = .ok compiled ∧
        given.root = compiled.root.reflag (fun _ => false) ∧
        compiled.root.literalTests = [("f", .regexp "a" true true)] ∧
        given.warnings.filter Warning.isIgnoredFlag = [.caseInsensitiveIgnored "f" ⟨7, 10, 0⟩] ∧
        ∀ predicate ∈ given.root.leaves, predicate.test.caseFlag? ≠ some true) ∧
    (compile spec .empty having 3).map CompiledQuery.withoutDeprecations =
      (compile spec .empty both 3).map CompiledQuery.withoutDeprecations ∧
    (∃ compiled, compile anyCase .empty having 1 = .ok compiled) ∧
      compile anyCase .empty lacking 1 =
        .error (.unsupportedCapability .likeAnyCase ⟨7, 10, 0⟩) := by
  intro spec anyCase lacking having both
  obtain ⟨alike, gated, unflagged⟩ := capabilities_only_gate spec .empty 3
  obtain ⟨compiled, compiles, root, tests, ignored, -⟩ := (gated lacking having rfl rfl).1 _ rfl
  refine ⟨⟨_, compiled, rfl, compiles, root, tests.trans rfl, ignored.trans rfl,
    unflagged lacking rfl _ rfl⟩, alike having both rfl, ⟨_, rfl⟩, ?_⟩
  refine (((capabilities_only_gate anyCase .empty 1).2.1 lacking having rfl rfl).2 _ rfl _).mpr
    ⟨⟨_, .tail _ (.tail _ (.head _)), trivial⟩, rfl⟩

end FilterSpec

end SearchFilter
