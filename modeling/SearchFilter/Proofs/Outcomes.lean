import SearchFilter.Proofs.AnchoredLiterals
import SearchFilter.Proofs.Checks
import Mathlib.Data.List.DropRight

/-!
# What demands lead to

The warnings that a demand raises and the tests with a case flag that it leads to can be read off
it: warnings come from pattern literals and polygons alone, case flags from pattern literals and
from the operators for patterns. A compiled query therefore has exactly the warnings of its demands,
in order (`compile_warnings_eq`).
-/

namespace SearchFilter

/-! ### Anchors -/

/-- Whether the source of a literal begins with a sign for the start of the text and what remains of
it ends with a sign for the end that no odd run of backslashes stands before. -/
def Pattern.IsAnchored (literal : Pattern) : Prop :=
  ∃ start ∈ Regex.startAnchors, ∃ body, ∃ stop ∈ Regex.endSigns,
    literal.source.toList = start.1 ++ (body ++ stop) ∧
      (body.rtakeWhile fun c => c = '\\').length % 2 = 0

namespace Resolve

/-- The end of a text is not escaped if an even number of backslashes stands there, each pair of
which is one. -/
theorem endsEscaped_eq_false_iff (reversed : List Char) :
    endsEscaped reversed = false ↔
      (reversed.reverse.rtakeWhile fun c => c = '\\').length % 2 = 0 := by
  rw [endsEscaped, List.rtakeWhile.eq_1, List.length_reverse, List.reverse_reverse,
    decide_eq_false_iff_not]
  omega

/-- An anchor at the start is taken off, whatever follows it. -/
theorem stripStart_of_startAnchors {start : List Char × Regex.Anchor}
    (isStart : start ∈ Regex.startAnchors) (rest : List Char) :
    stripStart (start.1 ++ rest) = (rest, true) := by
  simp only [Regex.startAnchors, List.mem_cons, List.not_mem_nil, or_false] at isStart
  obtain rfl | rfl := isStart <;> rfl

/-- An end sign is taken off exactly when it is not escaped. -/
theorem stripEndReversed_of_endSigns {stop : List Char} (isStop : stop ∈ Regex.endSigns)
    (rest : List Char) :
    stripEndReversed (stop.reverse ++ rest) =
      if endsEscaped rest then (stop.reverse ++ rest, false) else (rest, true) := by
  simp only [Regex.endSigns, List.mem_cons, List.not_mem_nil, or_false] at isStop
  obtain rfl | rfl | rfl := isStop <;> rfl

/-- The literals that are anchored at both ends are those that count as anchored. -/
theorem stripAnchors_iff (literal : Pattern) :
    (stripAnchors literal.source).2 = true ↔ literal.IsAnchored := by
  unfold stripAnchors
  constructor
  · cases startStripped : stripStart literal.source.toList with
    | mk text atStart =>
      cases endStripped : stripEndReversed text.reverse with
      | mk reversed atEnd =>
        dsimp only
        rw [endStripped]
        intro both
        obtain ⟨rfl, rfl⟩ := Bool.and_eq_true_iff.mp both
        obtain ⟨start, isStart, sameStart⟩ := stripStart_eq startStripped
        obtain ⟨stop, isStop, sameEnd⟩ := stripEndReversed_eq endStripped
        rw [sameEnd, stripEndReversed_of_endSigns isStop] at endStripped
        have unescaped : endsEscaped reversed = false := by
          split at endStripped
          · cases (Prod.mk.inj endStripped).2
          · rename_i unescaped
            exact Bool.eq_false_of_not_eq_true unescaped
        refine ⟨start, isStart, reversed.reverse, stop, isStop, ?_, ?_⟩
        · rw [sameStart, ← List.reverse_reverse text, sameEnd, List.reverse_append,
            List.reverse_reverse]
        · exact (endsEscaped_eq_false_iff reversed).mp unescaped
  · rintro ⟨start, isStart, body, stop, isStop, same, unescaped⟩
    have kept : endsEscaped body.reverse = false := by
      rwa [endsEscaped_eq_false_iff, List.reverse_reverse]
    rw [same, stripStart_of_startAnchors isStart]
    dsimp only
    rw [List.reverse_append, stripEndReversed_of_endSigns isStop, kept]
    rfl

end Resolve

/-- Whether a literal is anchored is decided by taking its anchors off. -/
instance (literal : Pattern) : Decidable literal.IsAnchored :=
  decidable_of_iff _ (Resolve.stripAnchors_iff literal)

/-! ### What is raised and built for a demand -/

namespace Pattern

variable (capabilities : Capabilities) (field : String) (literal : Pattern)

/-- The warnings for a literal on a field: one if it is not anchored, and one if it is to ignore
case but the engine cannot. -/
def notices : List Warning :=
  (if literal.IsAnchored then [] else [.unanchoredRegexp field]) ++
    (if literal.ignoreCase && !capabilities.has .caseInsensitiveMatch then
      [.caseInsensitiveIgnored field ⟨7, 10, 0⟩] else [])

/-- The test for a literal. It ignores case only for an engine that can. -/
def test : Test :=
  .regexp (Resolve.stripAnchors literal.source).1
    (literal.ignoreCase && capabilities.has .caseInsensitiveMatch) true

end Pattern

namespace Demand

/-- The warnings that a demand raises. -/
def notices (capabilities : Capabilities) : Demand → List Warning
  | .plain field (.pattern literal) => literal.notices capabilities field
  | .operator field _ .geoPolygon _ =>
    if capabilities.has .geoPolygonDeprecated then [.deprecated field "geo_polygon" ⟨7, 12, 0⟩]
    else []
  | _ => []

/-- The tests with a case flag that a demand leads to, each with its field. -/
def matchers (capabilities : Capabilities) : Demand → List (String × Test)
  | .plain field (.pattern literal) => [(field, literal.test capabilities)]
  | .operator field _ .regexp (.scalar (.str text)) => [(field, .regexp text false false)]
  | .operator field _ .like (.scalar (.str text)) =>
    [(field, .wildcard (String.ofList (Wildcard.ofLike text.toList)) false)]
  | .operator field _ .likeAnyCase (.scalar (.str text)) =>
    [(field, .wildcard (String.ofList (Wildcard.ofLike text.toList)) true)]
  | _ => []

/-- Operators lead to no test from a pattern literal, and one of them alone ignores case. -/
theorem exists_of_mem_matchers_operator (capabilities : Capabilities) (field : String)
    (entries : List (Operator × Value)) (op : Operator) (value : Value) (matcher : String × Test)
    (member : matcher ∈ (operator field entries op value).matchers capabilities) :
    ∃ pattern, matcher.2 = .regexp pattern false false ∨
      matcher.2 = .wildcard pattern (decide (op = .likeAnyCase)) := by
  cases op with
  | regexp | like | likeAnyCase =>
    cases value with
    | scalar literal =>
      cases literal with
      | str text =>
        obtain rfl := List.mem_singleton.mp member
        exact ⟨_, by first | exact .inl rfl | exact .inr rfl⟩
      | _ => cases member
    | _ => cases member
  | _ => cases member

end Demand

namespace Resolve

/-- A pattern literal always resolves. What it is tested with and what it warns of can be read off
it. -/
theorem patternLiteral_eq (capabilities : Capabilities) (field : String) (literal : Pattern) :
    patternLiteral capabilities field literal =
      .done (literal.test capabilities) (literal.notices capabilities field) := by
  have anchored := stripAnchors_iff literal
  have flag : (literal.ignoreCase && !(literal.ignoreCase &&
      !capabilities.has .caseInsensitiveMatch)) =
        (literal.ignoreCase && capabilities.has .caseInsensitiveMatch) := by
    cases literal.ignoreCase <;> simp
  simp only [patternLiteral, Pattern.test, Pattern.notices, ← anchored, flag, Feature.since]

/-! ### Demands that pass their check -/

variable {setting : Setting} {field : String}

/-- The tests that sequences lead to have no case flag. -/
theorem MembershipForm.matchers {negated : Bool} {items : List (Option Scalar)} {query : Query}
    (form : MembershipForm field negated items query) : Query.matchers [query] = [] := by
  cases form <;> rfl

/-- An operator that has been resolved has exactly the tests with a case flag and the warnings that
its demand says. -/
theorem OperatorForm.outcome {entries : List (Operator × Value)} {op : Operator} {value : Value}
    {queries : List Query} {warnings : List Warning}
    (form : OperatorForm setting field entries op value queries warnings) :
    Query.matchers queries =
        (Demand.operator field entries op value).matchers setting.capabilities ∧
      warnings = (Demand.operator field entries op value).notices setting.capabilities := by
  cases form with
  | oneOf _ membership => exact ⟨membership.matchers, rfl⟩
  | geoPolygon built =>
    obtain ⟨_, _, -, -, -, -, rfl⟩ := (inPolygon_eq_done_iff _ _ _ _ _).mp built
    exact ⟨rfl, rfl⟩
  | _ => exact ⟨rfl, rfl⟩

/-- A condition without operators that has been resolved has exactly the tests with a case flag and
the warnings that its demand says. -/
theorem PlainForm.outcome {shape : Operand} {queries : List Query} {warnings : List Warning}
    (form : PlainForm setting field shape queries warnings) :
    Query.matchers queries =
        (Demand.plain field shape.toValue).matchers setting.capabilities ∧
      warnings = (Demand.plain field shape.toValue).notices setting.capabilities := by
  cases form with
  | list _ membership => exact ⟨membership.matchers, rfl⟩
  | pattern built =>
    rw [patternLiteral_eq] at built
    obtain ⟨rfl, rfl⟩ := Diagnosed.done.inj built
    exact ⟨rfl, rfl⟩
  | _ => exact ⟨rfl, rfl⟩

/-- A negation by itself, with nothing inside its operand, has no test with a case flag. -/
theorem NegationForm.outcome {shape : Operand} {query : Query} {warnings : List Warning}
    (form : NegationForm (fun _ => .done [] []) field shape query warnings) :
    Query.matchers [query] = [] ∧ warnings = [] := by
  cases form with
  | null | scalar _ => exact ⟨rfl, rfl⟩
  | list _ membership => exact ⟨membership.matchers, rfl⟩
  | entered resolved =>
    obtain ⟨rfl, rfl⟩ := Diagnosed.done.inj resolved
    exact ⟨rfl, rfl⟩

/-- An operator by itself, with nothing inside its operand. -/
theorem ContributionForm.outcome {entries : List (Operator × Value)} {op : Operator}
    {value : Value} {contribution : Contribution} {warnings : List Warning}
    (form : ContributionForm setting (fun _ => .done [] []) field entries op value contribution
      warnings) :
    contribution.matchers =
        (Demand.operator field entries op value).matchers setting.capabilities ∧
      warnings = (Demand.operator field entries op value).notices setting.capabilities := by
  cases form with
  | bound bounding _ => cases op <;> first | exact ⟨rfl, rfl⟩ | cases bounding
  | equality _ resolved =>
    obtain ⟨rfl, rfl⟩ := Diagnosed.done.inj resolved
    exact ⟨rfl, rfl⟩
  | negation form =>
    obtain ⟨none, rfl⟩ := form.outcome
    exact ⟨none, rfl⟩
  | simple form => exact form.outcome

end Resolve

/-- A demand that passes its check raises its warnings and leads to its tests. -/
theorem Demand.check_outcome (setting : Resolve.Setting) (demand : Demand)
    (tests : List (String × Test)) (warnings : List Warning)
    (done : demand.check setting = .done tests warnings) :
    tests = demand.matchers setting.capabilities ∧
      warnings = demand.notices setting.capabilities := by
  cases demand with
  | spec depth =>
    obtain ⟨rfl, rfl⟩ := Diagnosed.done.inj done
    exact ⟨rfl, rfl⟩
  | operand depth =>
    rw [check] at done
    split at done
    · obtain ⟨rfl, rfl⟩ := Diagnosed.done.inj done
      exact ⟨rfl, rfl⟩
    · cases done
  | plain field value =>
    obtain ⟨error, refused⟩ | ⟨shape, rfl⟩ := Operand.refused_or_shaped field value
    · rw [check, refused] at done
      cases done
    · rw [check_plain, Diagnosed.map_eq_done_iff] at done
      obtain ⟨queries, resolved, rfl⟩ := done
      cases shape with
      | ops entries =>
        obtain ⟨rfl, rfl⟩ := Diagnosed.done.inj resolved
        exact ⟨rfl, rfl⟩
      | _ => exact (Resolve.plainOperand_form (by simp) resolved).outcome
  | operator field entries op value =>
    obtain ⟨contribution, contributes, rfl⟩ := (Diagnosed.map_eq_done_iff _ _ _ _).mp done
    exact (Resolve.contribution_form contributes).2.outcome

section Compiling

variable (spec : FilterSpec) (fields : FieldContext) (capabilities : Capabilities) (limit : Nat)
  (compiled : CompiledQuery) (compiles : compile spec fields capabilities limit = .ok compiled)
include compiles

/-- What is compiled has the warnings of the demands and their tests with a case flag, each in
order. -/
theorem outcome_of_compile :
    Query.matchers [compiled.root] = spec.demands.flatMap (Demand.matchers capabilities) ∧
      compiled.warnings = spec.demands.flatMap (Demand.notices capabilities) :=
  Diagnosed.collect_eq_done _ _ _ _
    (fun demand _ tests warnings done => demand.check_outcome _ tests warnings done) _ _
    (collect_of_compile spec fields capabilities limit compiled compiles)

/-- The warnings of a compiled query are those of the pattern literals and the polygons in its
specification, in the order in which they are written. -/
theorem compile_warnings_eq :
    compiled.warnings = spec.demands.flatMap (Demand.notices capabilities) :=
  (outcome_of_compile spec fields capabilities limit compiled compiles).2

end Compiling

set_option maxRecDepth 2000 in
/-- Literals under a negated combinator, an equality and a negation, beside a polygon, for an engine
that cannot ignore case and one that can. -/
theorem compile_warnings_eq_of_nested :
    let literal (source : String) (ignoreCase : Bool) : Value := .pattern ⟨source, ignoreCase⟩
    let corner (lat lon : Int) : Value := .list [.scalar (.int lat), .scalar (.int lon)]
    let spec := FilterSpec.ofPairs
      [("not", .list [.map [(.name "id", literal "^a\\\\$" true)], .map [(.name "n", .null)]]),
      ("f", .map [(.op .negation, .map [(.op .equal, literal "\\Ab\\$" true)])]),
      ("p", .map [(.op .geoPolygon, .list [corner 0 0, corner 0 1, corner 1 0])])]
    (∃ compiled, compile spec .empty ⟨fun feature => feature = .geoPolygonDeprecated⟩ 2 =
        .ok compiled ∧
      compiled.warnings = [.caseInsensitiveIgnored "_id" ⟨7, 10, 0⟩, .unanchoredRegexp "f",
        .caseInsensitiveIgnored "f" ⟨7, 10, 0⟩, .deprecated "p" "geo_polygon" ⟨7, 12, 0⟩]) ∧
    ∃ compiled, compile spec .empty ⟨fun feature => feature = .caseInsensitiveMatch⟩ 2 =
        .ok compiled ∧
      compiled.warnings = [.unanchoredRegexp "f"] := by
  intro literal corner spec
  refine ⟨⟨_, rfl, ?_⟩, ⟨_, rfl, ?_⟩⟩
  · exact (compile_warnings_eq spec .empty _ 2 _ rfl).trans rfl
  · exact (compile_warnings_eq spec .empty _ 2 _ rfl).trans rfl

end SearchFilter
