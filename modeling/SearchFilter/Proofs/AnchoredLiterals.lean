import SearchFilter.Proofs.FieldCondition
import SearchFilter.Proofs.OperatorOrder
import SearchFilter.Proofs.Regex.Anchoring

/-!
# Pattern literals that raise no warning

A literal that starts and ends with an anchor loses both and raises no warning. What is left is
anchored by the engine as a whole, so the condition asks for a match of the whole text. The literal
asks for that only if every branch of it has the anchors: in `^a|b$` each branch has one of them.
-/

namespace SearchFilter

open Regex (Expr Tree anchored widened startAnchors endSigns)

/-! ### Taking off anchors -/

namespace Resolve

/-- What is taken off the start is one of the listed anchors. -/
theorem stripStart_eq {source pattern : List Char}
    (stripped : stripStart source = (pattern, true)) :
    ∃ start ∈ startAnchors, source = start.1 ++ pattern := by
  unfold stripStart at stripped
  split at stripped
  · cases stripped
    exact ⟨_, .tail _ (.head _), rfl⟩
  · cases stripped
    exact ⟨_, .head _, rfl⟩
  · cases stripped

/-- What is taken off the end, read backwards, is one of the listed signs. -/
theorem stripEndReversed_eq {source pattern : List Char}
    (stripped : stripEndReversed source = (pattern, true)) :
    ∃ stop ∈ endSigns, source = stop.reverse ++ pattern := by
  unfold stripEndReversed at stripped
  split at stripped
  · split at stripped <;> cases stripped
    exact ⟨_, .tail _ (.head _), rfl⟩
  · split at stripped <;> cases stripped
    exact ⟨_, .tail _ (.tail _ (.head _)), rfl⟩
  · split at stripped <;> cases stripped
    exact ⟨_, .head _, rfl⟩
  · cases stripped

/-- A literal that was anchored at both ends is its pattern between two anchors. -/
theorem eq_of_stripAnchors {source pattern : String}
    (stripped : stripAnchors source = (pattern, true)) :
    ∃ start ∈ startAnchors, ∃ stop ∈ endSigns,
      source.toList = start.1 ++ pattern.toList ++ stop := by
  unfold stripAnchors at stripped
  cases startStripped : stripStart source.toList with
  | mk body atStart =>
    cases endStripped : stripEndReversed body.reverse with
    | mk reversed atEnd =>
      rw [startStripped] at stripped
      dsimp only at stripped
      rw [endStripped] at stripped
      obtain ⟨rfl, both⟩ := Prod.mk.inj stripped
      obtain ⟨rfl, rfl⟩ := Bool.and_eq_true_iff.mp both
      obtain ⟨start, isStart, sameStart⟩ := stripStart_eq startStripped
      obtain ⟨stop, isStop, sameEnd⟩ := stripEndReversed_eq endStripped
      refine ⟨start, isStart, stop, isStop, ?_⟩
      rw [sameStart, ← List.reverse_reverse body, sameEnd, String.toList_ofList,
        List.reverse_append, List.reverse_reverse, List.append_assoc]

end Resolve

/-- The pattern of an anchored literal holds for the texts that the literal matches from start to
end, if the pattern is well formed by itself and accepted between the anchors of the engine. -/
theorem Regex.matchesWhole_iff_spans {source pattern : String}
    (stripped : Resolve.stripAnchors source = (pattern, true)) {literal : Expr}
    (valid : Expr.ofText? source.toList false = some literal)
    (wellFormed : (Tree.ofText? pattern.toList).isSome)
    (accepted : (Expr.ofText? (anchored pattern.toList) false).isSome) (text : String) :
    matchesWhole pattern false text = true ↔ literal.Spans text.toList := by
  obtain ⟨start, isStart, stop, isStop, same⟩ := Resolve.eq_of_stripAnchors stripped
  obtain ⟨tree, wellFormed⟩ := Option.isSome_iff_exists.mp wellFormed
  obtain ⟨whole, accepts⟩ := Option.isSome_iff_exists.mp accepted
  obtain ⟨_, _, readsLiteral, resolvesLiteral⟩ := Expr.exists_tree_of_ofText? valid
  obtain ⟨_, _, readsWhole, -⟩ := Expr.exists_tree_of_ofText? accepts
  obtain ⟨-, last, rfl, embeds⟩ := anchored_tree wellFormed readsWhole
  rw [same] at readsLiteral
  obtain ⟨branches, members, stopAnchor, isEnd, led, rfl⟩ :=
    literal_tree embeds isStart isStop readsLiteral
  obtain ⟨expr, _, resolves, spans⟩ := isMatch_anchored_iff wellFormed accepts
  rw [Progress.body_eq] at resolves
  rw [spans_literal_iff isStart isEnd led resolves resolvesLiteral, ← spans]
  simp only [matchesWhole, accepts]

namespace FilterSpec

section

variable (key : String) (isField : Combinator.ofKey? key = none)
include isField

/-- A single literal raises a warning unless it was anchored at both ends. -/
theorem warnings_single_literal (source : String) (fields : FieldContext)
    (capabilities : Capabilities) (limit : Nat) (compiled : CompiledQuery)
    (compiles : compile (single key (.pattern ⟨source, false⟩)) fields capabilities limit =
      .ok compiled) :
    compiled.warnings = if (Resolve.stripAnchors source).2 then []
      else [.unanchoredRegexp (Where.pathOf key)] := by
  obtain ⟨operand, queries, shaped, resolved, -⟩ :=
    (compile_single_eq_ok_iff key _ isField fields capabilities limit compiled).mp compiles
  obtain rfl := Except.ok.inj shaped
  have plain : Resolve.operand ⟨fields, capabilities, limit⟩ (Where.pathOf key) limit
      (.pattern ⟨source, false⟩) =
        Resolve.plainOperand ⟨fields, capabilities, limit⟩ (Where.pathOf key)
          (.pattern ⟨source, false⟩) := by cases limit <;> rfl
  rw [plain, Resolve.plainOperand, Diagnosed.bind_eq_done_iff] at resolved
  obtain ⟨_, earlier, later, built, returned, warnings⟩ := resolved
  obtain ⟨-, rfl⟩ := (Diagnosed.pure_eq_done_iff _ _ _).mp returned
  rw [warnings, List.append_nil]
  exact (Diagnosed.done.inj built).2.symm.trans (List.append_nil _)

/-- What a condition asks of a document whose field holds one string and nothing else. -/
theorem selects_single_of_string (value : Value) (fields : FieldContext)
    (capabilities : Capabilities) (limit : Nat) (compiled : CompiledQuery)
    (compiles : compile (single key value) fields capabilities limit = .ok compiled)
    (document : Json) (text : String)
    (holds : document.leaves (Path.segments (Where.pathOf key)) = [.string text]) :
    compiled.root.selects document = Meaning.condition capabilities
      ⟨[.string text], document.places (Path.segments (Where.pathOf key))⟩ value := by
  rw [selects_single key value isField fields capabilities limit compiled compiles,
    Held.of, holds]

/-- The condition with the operator for patterns. -/
def regexpOperator (pattern : String) : Value := .map [(.op .regexp, .scalar (.str pattern))]

/-- The operator for patterns compiles with every text. -/
theorem exists_compile_regexpOperator (pattern : String) (fields : FieldContext)
    (capabilities : Capabilities) (limit : Nat) :
    ∃ compiled, compile (single key (regexpOperator pattern)) fields capabilities limit =
      .ok compiled := by
  have resolved : Resolve.operand ⟨fields, capabilities, limit⟩ (Where.pathOf key) limit
      (.ops [(.regexp, .scalar (.str pattern))]) =
        .done [.test (Where.pathOf key) (.regexp pattern false false)] [] := by
    cases limit <;> rfl
  exact ⟨⟨_, []⟩, (compile_single_eq_ok_iff key _ isField fields capabilities limit _).mpr
    ⟨_, _, rfl, resolved, rfl⟩⟩

/-- It asks that the pattern matches all of a string. -/
theorem selects_regexpOperator (pattern : String) (fields : FieldContext)
    (capabilities : Capabilities) (limit : Nat) (compiled : CompiledQuery)
    (compiles : compile (single key (regexpOperator pattern)) fields capabilities limit =
      .ok compiled) (document : Json) (text : String)
    (holds : document.leaves (Path.segments (Where.pathOf key)) = [.string text]) :
    compiled.root.selects document = Regex.matchesWhole pattern false text := by
  have noBounds : [(Key.op .regexp, Value.scalar (.str pattern))].filterMap Meaning.edge? = [] :=
    rfl
  rw [selects_single_of_string key isField _ fields capabilities limit compiled compiles document
    text holds]
  simp [regexpOperator, Meaning.condition, Meaning.operators, Meaning.operator, Held.texts,
    Json.string?, noBounds, Edge.hold, Edge.together]

end

end FilterSpec

end SearchFilter
