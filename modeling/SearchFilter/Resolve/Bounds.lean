import SearchFilter.Query
import SearchFilter.Diagnostics

/-!
# Merging bounds into ranges

Bounds on one field that stand in one condition have to hold of one and the same value of an array,
so a lower and an upper bound are merged into a single range. While the entries of a condition are
resolved in order, the latest range made from bounds stays open: a bound for a side that it does not
have yet is put into it, and any other bound settles it and opens the next one. Only ranges made
here are ever open, so no later bound changes a predicate that came from another operator.
-/

namespace SearchFilter.Resolve

/-- The sides of a range. -/
inductive Side
  | lower
  | upper
deriving DecidableEq

/-- The side and the strictness of a bound operator. -/
def sideOf? : Operator → Option (Side × (Scalar → Bound))
  | .greater => some (.lower, .excluded)
  | .greaterOrEqual => some (.lower, .included)
  | .less => some (.upper, .excluded)
  | .lessOrEqual => some (.upper, .included)
  | _ => none

/-- The operand of a bound: a literal with a place in an order. -/
def boundOperand (field : String) (op : Operator) : Value → Except CompileError Scalar
  | .scalar value =>
    if value.isOrderable then .ok value
    else .error (.invalidOperand field (.boundNotOrderable op (Value.scalar value).kind))
  | other => .error (.invalidOperand field (.boundNotOrderable op other.kind))

/-- The interval with a single bound. -/
def oneSided (side : Side) (bound : Bound) : Interval :=
  match side with
  | .lower => ⟨bound, .unbounded⟩
  | .upper => ⟨.unbounded, bound⟩

/-- Puts a bound into an interval whose side is still free. -/
def fill? (side : Side) (bound : Bound) (interval : Interval) : Option Interval :=
  match side, interval with
  | .lower, ⟨.unbounded, upper⟩ => some ⟨bound, upper⟩
  | .upper, ⟨lower, .unbounded⟩ => some ⟨lower, bound⟩
  | _, _ => none

/-- The queries resolved so far, in order. The open range stands between the queries before it,
which are settled, and those that came after it. -/
structure Progress where
  settled : List Query
  openRange : Option Interval
  later : List Query

namespace Progress

/-- Nothing is resolved yet, and no range is open. -/
def start : Progress := ⟨[], none, []⟩

/-- All queries in the order of the entries that gave them. -/
def queries (field : String) (progress : Progress) : List Query :=
  match progress.openRange with
  | none => progress.settled ++ progress.later
  | some interval => progress.settled ++ Query.test field (.range interval) :: progress.later

/-- Appends queries from an operator that is no bound. -/
def append (progress : Progress) (queries : List Query) : Progress :=
  { progress with later := progress.later ++ queries }

/-- Takes up a bound. -/
def bound (field : String) (side : Side) (bound : Bound) (progress : Progress) : Progress :=
  match progress.openRange.bind (fill? side bound) with
  | some merged => { progress with openRange := some merged }
  | none => ⟨progress.queries field, some (oneSided side bound), []⟩

end Progress

end SearchFilter.Resolve
