import SearchFilter.Scalar

/-!
# Intervals of literals

An interval is open or closed at each end, or has no end there. Built from explicit ends, it loses
an end that is infinite, because beyond an infinite end nothing is left to exclude.
-/

namespace SearchFilter

/-- One end of an interval. -/
inductive Bound
  | unbounded
  | included (value : Scalar)
  | excluded (value : Scalar)
deriving DecidableEq, Inhabited

namespace Bound

/-- The literal at this end. -/
def scalar? : Bound → Option Scalar
  | .unbounded => none
  | .included value => some value
  | .excluded value => some value

/-- Drops an end at an infinity. -/
def finite : Bound → Bound
  | .included (.float value) => if value.isInfinite then .unbounded else .included (.float value)
  | .excluded (.float value) => if value.isInfinite then .unbounded else .excluded (.float value)
  | bound => bound

end Bound

/-- An interval with a lower and an upper end. -/
structure Interval where
  lower : Bound
  upper : Bound
deriving DecidableEq, Inhabited

namespace Interval

/-- The interval between two ends, without the infinite ones. -/
def between (lower upper : Bound) : Interval := ⟨lower.finite, upper.finite⟩

/-- Every literal. -/
def full : Interval := ⟨.unbounded, .unbounded⟩

end Interval

end SearchFilter
