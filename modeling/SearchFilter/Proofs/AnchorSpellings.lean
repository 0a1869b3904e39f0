import SearchFilter.Proofs.Outcomes

/-!
# Spellings of a pattern literal

The engine anchors every pattern, so a literal may be written with anchors around it or without. All
twelve spellings of one body compile to the same test. Only the warning tells them apart: it is
raised unless there is an anchor at both ends.
-/

namespace SearchFilter

namespace Resolve

/-- How many backslashes stand at the end of a text. -/
def backslashesAtEnd (text : List Char) : Nat := (text.rtakeWhile fun c => c = '\\').length

/-- What can be written before the body of a literal: nothing, or a sign for the start of the text.
-/
def openings : List (List Char) := [] :: Regex.startAnchors.map Prod.fst

/-- What can be written after the body of a literal: nothing, or a sign for the end of the text. -/
def closings : List (List Char) := [] :: Regex.endSigns

/-- A text without an anchor of its own at either end. A sign at its end that is escaped is no
anchor, and the last backslash of the text does not escape what is written after it. -/
structure IsBare (body : List Char) : Prop where
  noStart : ∀ start ∈ Regex.startAnchors, ¬start.1 <+: body
  noEnd : ∀ stop ∈ Regex.endSigns, stop <:+ body →
    backslashesAtEnd (body.rdrop stop.length) % 2 = 1
  escapesNothing : backslashesAtEnd body % 2 = 0

/-- Whether a body is bare is decided on its two ends alone: the listed anchors, and how many
backslashes stand at the end. -/
instance (body : List Char) : Decidable (IsBare body) :=
  decidable_of_iff
    ((∀ start ∈ Regex.startAnchors, ¬start.1 <+: body) ∧
      (∀ stop ∈ Regex.endSigns, stop <:+ body →
        backslashesAtEnd (body.rdrop stop.length) % 2 = 1) ∧
      backslashesAtEnd body % 2 = 0)
    ⟨fun parts => ⟨parts.1, parts.2.1, parts.2.2⟩,
      fun bare => ⟨bare.noStart, bare.noEnd, bare.escapesNothing⟩⟩

/-- Whether the end of a text is escaped is told by the parity of the backslashes that it ends
with. -/
theorem endsEscaped_reverse (text : List Char) :
    endsEscaped text.reverse = decide (backslashesAtEnd text % 2 = 1) := by
  rw [endsEscaped, backslashesAtEnd, List.rtakeWhile.eq_1, List.length_reverse]

/-- A text without an anchor at its start keeps its start. -/
theorem stripStart_of_no_startAnchors {text : List Char}
    (noStart : ∀ start ∈ Regex.startAnchors, ¬start.1 <+: text) :
    stripStart text = (text, false) := by
  have noCaret : ¬['^'] <+: text := noStart _ (.head _)
  have noEscape : ¬['\\', 'A'] <+: text := noStart _ (.tail _ (.head _))
  unfold stripStart
  split
  · simp at noEscape
  · simp at noCaret
  · rfl

/-- A text keeps its end where every anchor that it seems to end with is escaped. -/
theorem stripEndReversed_of_no_endSigns {text : List Char}
    (noEnd : ∀ stop ∈ Regex.endSigns, stop <:+ text →
      backslashesAtEnd (text.rdrop stop.length) % 2 = 1) :
    stripEndReversed text.reverse = (text.reverse, false) := by
  have escaped (stop : List Char) (isStop : stop ∈ Regex.endSigns) (rest : List Char)
      (ends : text.reverse = stop.reverse ++ rest) : endsEscaped rest = true := by
    have same : text = rest.reverse ++ stop := by
      rw [← List.reverse_reverse text, ends, List.reverse_append, List.reverse_reverse]
    have odd := noEnd stop isStop (same ▸ List.suffix_append _ _)
    rw [same, List.rdrop_append_length] at odd
    rw [← List.reverse_reverse rest, endsEscaped_reverse]
    exact decide_eq_true odd
  unfold stripEndReversed
  split
  · rename_i rest ends
    rw [if_pos (escaped ['\\', 'z'] (.tail _ (.head _)) rest ends), ends]
  · rename_i rest ends
    rw [if_pos (escaped ['\\', 'Z'] (.tail _ (.tail _ (.head _))) rest ends), ends]
  · rename_i rest ends
    rw [if_pos (escaped ['$'] (.head _) rest ends), ends]
  · rfl

namespace IsBare

variable {body : List Char}

/-- What is written after a bare body makes no start anchor of its first sign: a body that is a
single backslash is not bare. -/
theorem noStart_append (bare : IsBare body) {stop : List Char} (isStop : stop ∈ closings) :
    ∀ start ∈ Regex.startAnchors, ¬start.1 <+: body ++ stop := by
  intro start isStart begins
  have notBody := bare.noStart start isStart
  have even := bare.escapesNothing
  simp only [closings, Regex.endSigns, List.mem_cons, List.not_mem_nil, or_false] at isStop
  simp only [Regex.startAnchors, List.mem_cons, List.not_mem_nil, or_false] at isStart
  cases body with
  | nil => obtain rfl | rfl := isStart <;> obtain rfl | rfl | rfl | rfl := isStop <;> simp at begins
  | cons first rest =>
    cases rest with
    | cons second rest =>
      apply notBody
      obtain rfl | rfl := isStart <;> simpa using begins
    | nil =>
      obtain rfl | rfl := isStart
      · simp_all
      · obtain ⟨rfl, -⟩ := List.cons_prefix_cons.mp begins
        exact absurd even (by decide)

/-- In front of a bare body exactly the added anchor is taken off, whatever follows the body. -/
theorem stripStart_eq (bare : IsBare body) {start stop : List Char} (isStart : start ∈ openings)
    (isStop : stop ∈ closings) :
    stripStart (start ++ (body ++ stop)) = (body ++ stop, decide (start ≠ [])) := by
  obtain rfl | anchored := List.mem_cons.mp isStart
  · exact stripStart_of_no_startAnchors (bare.noStart_append isStop)
  · obtain ⟨anchor, isAnchor, rfl⟩ := List.mem_map.mp anchored
    have nonempty : anchor.1 ≠ [] := by
      simp only [Regex.startAnchors, List.mem_cons, List.not_mem_nil, or_false] at isAnchor
      obtain rfl | rfl := isAnchor <;> exact List.cons_ne_nil _ _
    rw [stripStart_of_startAnchors isAnchor, decide_eq_true nonempty]

/-- Behind a bare body exactly the added anchor is taken off. -/
theorem stripEndReversed_eq (bare : IsBare body) {stop : List Char} (isStop : stop ∈ closings) :
    stripEndReversed (body ++ stop).reverse = (body.reverse, decide (stop ≠ [])) := by
  obtain rfl | anchored := List.mem_cons.mp isStop
  · rw [List.append_nil]
    exact stripEndReversed_of_no_endSigns bare.noEnd
  · have nonempty : stop ≠ [] := by
      simp only [Regex.endSigns, List.mem_cons, List.not_mem_nil, or_false] at anchored
      obtain rfl | rfl | rfl := anchored <;> exact List.cons_ne_nil _ _
    have unescaped : endsEscaped body.reverse = false := by
      have even := bare.escapesNothing
      rw [endsEscaped_reverse, decide_eq_false_iff_not]
      omega
    rw [List.reverse_append, stripEndReversed_of_endSigns anchored, unescaped,
      decide_eq_true nonempty]
    rfl

/-- Of a bare body with anchors around it the anchors are taken off and nothing else. -/
theorem stripAnchors_eq (bare : IsBare body) {start stop : List Char} (isStart : start ∈ openings)
    (isStop : stop ∈ closings) :
    stripAnchors (String.ofList (start ++ (body ++ stop))) =
      (String.ofList body, decide (start ≠ [] ∧ stop ≠ [])) := by
  unfold stripAnchors
  rw [String.toList_ofList, bare.stripStart_eq isStart isStop]
  dsimp only
  rw [bare.stripEndReversed_eq isStop]
  dsimp only
  rw [List.reverse_reverse, Bool.decide_and]

end IsBare

end Resolve

namespace FilterSpec

section

variable (key : String) (isField : Combinator.ofKey? key = none)
include isField

/-- A literal on a field compiles to the conjunction of the one test it stands for. -/
theorem compile_single_literal (literal : Pattern) (fields : FieldContext)
    (capabilities : Capabilities) (limit : Nat) :
    compile (single key (.pattern literal)) fields capabilities limit =
      .ok ⟨.group .and [.test (Where.pathOf key) (literal.test capabilities)],
        literal.notices capabilities (Where.pathOf key)⟩ := by
  have resolved : Resolve.operand ⟨fields, capabilities, limit⟩ (Where.pathOf key) limit
      (.pattern literal) = .done [.test (Where.pathOf key) (literal.test capabilities)]
        (literal.notices capabilities (Where.pathOf key)) := by
    have plain : Resolve.operand ⟨fields, capabilities, limit⟩ (Where.pathOf key) limit
        (.pattern literal) =
          Resolve.plainOperand ⟨fields, capabilities, limit⟩ (Where.pathOf key)
            (.pattern literal) := by cases limit <;> rfl
    rw [plain, Resolve.plainOperand, Resolve.patternLiteral_eq, Diagnosed.done_bind]
    exact congrArg _ (List.append_nil _)
  exact (compile_single_eq_ok_iff key _ isField fields capabilities limit _).mpr
    ⟨_, _, rfl, resolved, rfl⟩

/-- However a body is anchored by hand, a literal stands for the test of the body itself wherever it
occurs, as a condition of its own in particular, and the warning of a missing anchor is raised
exactly if one end has none. -/
theorem spelled_literals_compile_alike (body : List Char) (bare : Resolve.IsBare body)
    (start stop : List Char) (isStart : start ∈ Resolve.openings) (isStop : stop ∈ Resolve.closings)
    (ignoreCase : Bool) (fields : FieldContext) (capabilities : Capabilities) (limit : Nat) :
    let literal : Pattern := ⟨String.ofList (start ++ (body ++ stop)), ignoreCase⟩
    let test : Test :=
      .regexp (String.ofList body) (ignoreCase && capabilities.has .caseInsensitiveMatch) true
    let warnings : List Warning :=
      (if start = [] ∨ stop = [] then [.unanchoredRegexp (Where.pathOf key)] else []) ++
        (if ignoreCase && !capabilities.has .caseInsensitiveMatch then
          [.caseInsensitiveIgnored (Where.pathOf key) ⟨7, 10, 0⟩] else [])
    Resolve.patternLiteral capabilities (Where.pathOf key) literal = .done test warnings ∧
      compile (single key (.pattern literal)) fields capabilities limit =
        .ok ⟨.group .and [.test (Where.pathOf key) test], warnings⟩ := by
  intro literal test warnings
  have stripped := bare.stripAnchors_eq isStart isStop
  have anchored : literal.IsAnchored ↔ ¬(start = [] ∨ stop = []) := by
    rw [← Resolve.stripAnchors_iff, stripped, decide_eq_true_iff, not_or]
  have sameTest : literal.test capabilities = test := by
    rw [Pattern.test, stripped]
  have sameWarnings : literal.notices capabilities (Where.pathOf key) = warnings := by
    simp only [Pattern.notices, anchored, ite_not, warnings, literal]
  constructor
  · rw [Resolve.patternLiteral_eq, sameTest, sameWarnings]
  · rw [compile_single_literal key isField, sameTest, sameWarnings]

end

/-- The body ends in `\\z`, which is no anchor, and the engine cannot ignore case: with an anchor at
the end only, the literal raises both warnings. -/
theorem spelled_literals_compile_alike_of_escaped :
    let body : List Char := ['a', '\\', '\\', 'z']
    Resolve.IsBare body ∧ [] ∈ Resolve.openings ∧ ['\\', 'Z'] ∈ Resolve.closings ∧
      compile (single "f" (.pattern ⟨String.ofList ([] ++ (body ++ ['\\', 'Z'])), true⟩)) .empty
          ⟨fun _ => false⟩ 5 =
        .ok ⟨.group .and [.test "f" (.regexp (String.ofList body) false true)],
          [.unanchoredRegexp "f", .caseInsensitiveIgnored "f" ⟨7, 10, 0⟩]⟩ := by
  intro body
  have bare : Resolve.IsBare body := by decide
  have isStop : ['\\', 'Z'] ∈ Resolve.closings := by decide
  exact ⟨bare, .head _, isStop,
    (spelled_literals_compile_alike "f" rfl body bare [] _ (.head _) isStop true .empty
      ⟨fun _ => false⟩ 5).2⟩

end FilterSpec

end SearchFilter
