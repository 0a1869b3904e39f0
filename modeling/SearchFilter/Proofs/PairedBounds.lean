import SearchFilter.Proofs.Contributions
import SearchFilter.Proofs.Meaning

/-!
# Ranges are pairs of neighbouring bounds

The resolver merges bounds into the range that was opened last, one bound at a time. What comes out
is described without that state: a bound is merged with the next one exactly if they are on
different sides, after which the range is full and takes up no third bound. The ranges of a map are
therefore the groups of `Edge.together`, and a value lies in a range exactly when it is on the right
side of every bound of its group.
-/

namespace SearchFilter.Edge

open Resolve (Side oneSided fill? rangesFrom sideOf?)

/-- The bound at the end of a range. -/
def bound (edge : Edge) : Bound :=
  if edge.strict then .excluded edge.literal else .included edge.literal

/-- The bound with its side, as the resolver takes it up. -/
def sided (edge : Edge) : Side × Bound := (edge.side, edge.bound)

/-- The range between two bounds on different sides. -/
def between (edge next : Edge) : Interval :=
  match edge.side with
  | .lower => ⟨edge.bound, next.bound⟩
  | .upper => ⟨next.bound, edge.bound⟩

/-- The operators that the resolver takes for bounds are those that stand for a bound, on the same
side and with the same strictness. -/
theorem of_sideOf (op : Operator) (side : Side) (close : Scalar → Bound) (literal : Scalar)
    (bounding : sideOf? op = some (side, close)) :
    ∃ edge, of? op literal = some edge ∧ edge.sided = (side, close literal) := by
  cases op <;> simp only [sideOf?, reduceCtorEq, Option.some.injEq, Prod.mk.injEq] at bounding
  all_goals
    obtain ⟨rfl, rfl⟩ := bounding
    exact ⟨_, rfl, rfl⟩

/-- An operator that is no bound stands for none, whatever its operand is. -/
theorem edge?_eq_none {op : Operator} (other : sideOf? op = none) (value : Value) :
    Meaning.edge? (.op op, value) = none := by
  cases value with
  | scalar literal => cases op <;> first | rfl | cases other
  | _ => rfl

/-- A range with a single end contains the values on the right side of it. -/
theorem contains_oneSided (edge : Edge) (value : Json) :
    (oneSided edge.side edge.bound).contains value = edge.admits value := by
  obtain ⟨side, strict, literal⟩ := edge
  cases side <;> cases strict <;>
    simp [oneSided, Interval.contains, bound, admits, Bound.isBelow, Bound.isAbove]

/-- A range between two bounds contains the values on the right side of both. -/
theorem contains_between (edge next : Edge) (different : edge.side ≠ next.side) (value : Json) :
    (edge.between next).contains value = (edge.admits value && next.admits value) := by
  obtain ⟨side, strict, literal⟩ := edge
  obtain ⟨nextSide, nextStrict, nextLiteral⟩ := next
  cases side <;> cases nextSide <;> simp only [ne_eq, not_true_eq_false] at different <;>
    cases strict <;> cases nextStrict <;>
      simp [between, Interval.contains, bound, admits, Bound.isBelow, Bound.isAbove, Bool.and_comm]

/-- A range with a single end takes up the next bound exactly if that is on the other side. -/
theorem fill_oneSided (edge next : Edge) :
    fill? next.side next.bound (oneSided edge.side edge.bound) =
      if edge.side = next.side then none else some (edge.between next) := by
  obtain ⟨side, strict, literal⟩ := edge
  obtain ⟨nextSide, nextStrict, nextLiteral⟩ := next
  cases side <;> cases nextSide <;> cases strict <;> rfl

/-- A range between two bounds is full. -/
theorem fill_between (edge next : Edge) (side : Side) (limit : Bound) :
    fill? side limit (edge.between next) = none := by
  obtain ⟨first, strict, literal⟩ := edge
  obtain ⟨nextSide, nextStrict, nextLiteral⟩ := next
  cases first <;> cases side <;> cases strict <;> cases nextStrict <;> rfl

/-- After a full range the remaining bounds form their ranges as if there were none before. -/
theorem rangesFrom_between (edge next : Edge) (bounds : List (Side × Bound)) :
    rangesFrom (some (edge.between next)) bounds = edge.between next :: rangesFrom none bounds := by
  cases bounds with
  | nil => rfl
  | cons first rest =>
    obtain ⟨side, limit⟩ := first
    simp [rangesFrom, fill_between]

/-- For each range that the resolver forms from bounds there is a value in it exactly when for each
group of neighbouring bounds one value satisfies all of the group. The cases are those of the
grouping: no bound, a last bound, and a bound followed by one on the same or on the other side. -/
theorem ranges_hold (values : List Json) (edges : List Edge) :
    ((rangesFrom none (edges.map sided)).all fun range => values.any range.contains) =
      hold values edges := by
  induction edges using together.induct with
  | case1 => rfl
  | case2 edge =>
    simp only [List.map_cons, List.map_nil, rangesFrom, sided, Option.bind_none, Option.toList_none,
      List.nil_append, Option.toList_some, hold, together, List.all_cons, List.all_nil,
      Bool.and_true]
    exact congrArg values.any (funext (contains_oneSided edge))
  | case3 edge next rest same inductionHypothesis =>
    have separate : rangesFrom none ((edge :: next :: rest).map sided) =
        oneSided edge.side edge.bound :: rangesFrom none ((next :: rest).map sided) := by
      have refused : fill? next.side next.bound (oneSided edge.side edge.bound) = none := by
        rw [fill_oneSided, if_pos same]
      simp [rangesFrom, sided, refused]
    have single : values.any (oneSided edge.side edge.bound).contains =
        values.any fun value => [edge].all fun edge => edge.admits value := by
      simp only [List.all_cons, List.all_nil, Bool.and_true]
      exact congrArg values.any (funext (contains_oneSided edge))
    rw [separate, List.all_cons, inductionHypothesis, single]
    simp only [hold, together, same, if_true, List.all_cons]
  | case4 edge next rest different inductionHypothesis =>
    have merged : rangesFrom none ((edge :: next :: rest).map sided) =
        edge.between next :: rangesFrom none (rest.map sided) := by
      simp [rangesFrom, sided, fill_oneSided, different, rangesFrom_between]
    have paired : values.any (edge.between next).contains =
        values.any fun value => [edge, next].all fun edge => edge.admits value := by
      simp only [List.all_cons, List.all_nil, Bool.and_true]
      exact congrArg values.any (funext (contains_between edge next different))
    rw [merged, List.all_cons, inductionHypothesis, paired]
    simp only [hold, together, different, if_false, List.all_cons]

end SearchFilter.Edge
