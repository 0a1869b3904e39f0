import SearchFilter.Query
import SearchFilter.Diagnostics

/-!
# Predicates on values

Equality with a literal, membership in sets of literals and intervals. A null among the members of a
set stands for the absence of the field, so sets with it become groups with a test for presence.
What is not a number can neither be looked up nor bound a range and is refused everywhere.
-/

namespace SearchFilter.Resolve

/-- Literals that the engine can look up. -/
def matchable (field : String) (value : Scalar) : Except CompileError Scalar :=
  if value.isNaN then .error (.invalidOperand field .notMatchable) else .ok value

/-- The test for equality with a literal. -/
def term (field : String) (value : Scalar) : Except CompileError Test :=
  (matchable field value).map .term

/-- The members of a sequence that are not null. -/
def literals (field : String) (items : List (Option Scalar)) : Except CompileError (List Scalar) :=
  (items.filterMap id).mapM (matchable field)

/-- Whether null is a member. -/
def hasNull (items : List (Option Scalar)) : Bool := items.any Option.isNone

/-- Equality with some member; a null member also admits documents without the field. -/
def equalsAny (field : String) (items : List (Option Scalar)) : Except CompileError Query := do
  let values ← literals field items
  let members := Query.test field (.termSet .any values)
  let missing := Query.testNot field .present
  return if !hasNull items then members
    else if items.length = 1 then missing
    else .group .or [missing, members]

/-- Equality with no member; a null member also demands the field. -/
def equalsNone (field : String) (items : List (Option Scalar)) : Except CompileError Query := do
  let values ← literals field items
  let members := Query.testNot field (.termSet .any values)
  let present := Query.test field .present
  return if !hasNull items then members
    else if items.length = 1 then present
    else .group .and [present, members]

/-- Every member is among the values of the field. Null is no value of a field. -/
def containsAll (field : String) (items : List (Option Scalar)) : Except CompileError Test := do
  let values ← literals field items
  if hasNull items then throw (.invalidOperand field .nullAmongAll)
  return .termSet .all values

/-- Refuses an end of an interval that has no place in an order. -/
def orderableEnd (field : String) (bound : Bound) : Except CompileError Unit :=
  match bound.scalar? with
  | some value =>
    if value.isOrderable then .ok ()
    else .error (.invalidOperand field (.endpointNotOrderable value))
  | none => .ok ()

/-- The test for a value inside an interval. -/
def inside (field : String) (interval : Interval) : Except CompileError Test := do
  orderableEnd field interval.lower
  orderableEnd field interval.upper
  return .range interval

end SearchFilter.Resolve
