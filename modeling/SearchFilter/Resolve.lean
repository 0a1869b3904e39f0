import SearchFilter.Where
import SearchFilter.Fields
import SearchFilter.Resolve.Terms
import SearchFilter.Resolve.Bounds
import SearchFilter.Resolve.Patterns
import SearchFilter.Resolve.Places

/-!
# Resolving field conditions

A condition on a field is resolved into queries that all have to hold. An operator map resolves
entry by entry in order; bounds are merged, and the operators that only complete another one, such
as the opposite corner of a box, give no query of their own but are refused without it.

Operands inside operands nest at most as deep as the limit allows. The number of levels that may
still be entered is handed down, as it is for sub-specifications.
-/

namespace SearchFilter.Resolve

/-- What the resolution of a condition depends on. -/
structure Setting where
  fields : FieldContext
  capabilities : Capabilities
  /-- The nesting limit, which errors report and which also bounds the coordinates of shapes. -/
  limit : Nat

/-- The operand of the first entry with this operator. -/
def partner? (op : Operator) (entries : List (Operator × Value)) : Option Value :=
  (entries.find? fun entry => entry.1 = op).map Prod.snd

/-- Refuses an operator on places for a field that is declared to hold something else. -/
def requireGeo (setting : Setting) (field : String) (op : Operator) : Except CompileError Unit :=
  match setting.fields.type? field with
  | some type => if type.isGeo then .ok () else .error (.invalidOperand field (.notGeoField op))
  | none => .ok ()

/-- Refuses a test for all members on a field that is declared to hold one value. -/
def requireArray (setting : Setting) (field : String) : Except CompileError Unit :=
  match setting.fields.type? field with
  | some type => if type.isArray then .ok () else .error (.invalidOperand field .notArrayField)
  | none => .ok ()

/-- The operand of an operator that wants a text. -/
def textOperand (field : String) (op : Operator) (value : Value) : Except CompileError String :=
  match value.string? with
  | some text => .ok text
  | none => .error (.invalidOperand field (.operand op .text value.kind))

/-- The operand of an operator that wants a sequence. -/
def sequenceOperand (field : String) (op : Operator) (value : Value) :
    Except CompileError (List (Option Scalar)) := do
  match ← Operand.ofValue field value with
  | .list items => return items
  | _ => throw (.invalidOperand field (.operand op .sequence value.kind))

/-- Demands the operator that this one completes. -/
def requirePartner (field : String) (entries : List (Operator × Value)) (op partner : Operator) :
    Except CompileError Value :=
  match partner? partner entries with
  | some value => .ok value
  | none => .error (.invalidOperand field (.partnerMissing op partner))

/-- The queries of an operand that is no operator map. -/
def plainOperand (setting : Setting) (field : String) : Operand → Diagnosed (List Query)
  | .null => .done [Query.testNot field .present] []
  | .scalar value => .lift do return [Query.test field (← term field value)]
  | .list items => .lift do return [← equalsAny field items]
  | .interval value => .lift do return [Query.test field (← inside field value)]
  | .pattern value => do
    return [Query.test field (← patternLiteral setting.capabilities field value)]
  | .ops _ => .done [] []

/-- The queries of an operator whose operand is not resolved in its turn. -/
def simpleEntry (setting : Setting) (field : String) (entries : List (Operator × Value))
    (op : Operator) (value : Value) : Diagnosed (List Query) :=
  match op with
  | .oneOf => .lift do return [← equalsAny field (← sequenceOperand field op value)]
  | .allOf => .lift do
    requireArray setting field
    return [Query.test field (← containsAll field (← sequenceOperand field op value))]
  | .present =>
    match value with
    | .scalar (.bool wanted) =>
      .done [if wanted then Query.test field .present else Query.testNot field .present] []
    | other => .failed (.invalidOperand field (.operand op .boolean other.kind))
  | .startsWith => .lift do return [Query.test field (.startsWith (← textOperand field op value))]
  | .regexp => .lift do
    return [Query.test field (.regexp (← textOperand field op value) false false)]
  | .like => .lift do
    let text ← textOperand field op value
    return [Query.test field (← like setting.capabilities text false)]
  | .likeAnyCase => .lift do
    let text ← textOperand field op value
    return [Query.test field (← like setting.capabilities text true)]
  | .near => .lift do
    return [Query.test field (← aroundPoint field value (partner? .within entries))]
  | .topLeft => .lift do
    let opposite ← requirePartner field entries op .bottomRight
    return [Query.test field (← boxFromTopLeft field value opposite)]
  | .topRight => .lift do
    let opposite ← requirePartner field entries op .bottomLeft
    return [Query.test field (← boxFromTopRight field value opposite)]
  | .within => .lift do
    let _ ← requirePartner field entries op .near
    return []
  | .bottomRight => .lift do
    let _ ← requirePartner field entries op .topLeft
    return []
  | .bottomLeft => .lift do
    let _ ← requirePartner field entries op .topRight
    return []
  | .geoPolygon => do return [Query.test field (← inPolygon setting.capabilities field value)]
  | .geoShape => .lift do return [Query.test field (← toShape field setting.limit value)]
  | .equal | .negation | .greater | .greaterOrEqual | .less | .lessOrEqual => .done [] []

/-- The queries of an equality, whose operand may be anything but an operator map. `enter` resolves
an operand one level further down. -/
def equality (enter : Operand → Diagnosed (List Query)) (field : String) (value : Value) :
    Diagnosed (List Query) := do
  match ← Diagnosed.lift (Operand.ofValue field value) with
  | .ops _ => .failed (.invalidOperand field (.operand .equal .comparand value.kind))
  | operand => enter operand

/-- The query of a negation. Null, literals and sequences have a negation of their own; everything
else is resolved one level further down and negated as a whole. -/
def negation (enter : Operand → Diagnosed (List Query)) (field : String) (value : Value) :
    Diagnosed Query := do
  match ← Diagnosed.lift (Operand.ofValue field value) with
  | .null => return Query.test field .present
  | .scalar value => .lift do return .leaf (Predicate.of field (← term field value)).flip
  | .list items => .lift (equalsNone field items)
  | operand => return (Query.allOf (← enter operand)).negate

/-- Takes up one entry of an operator map. -/
def takeUp (setting : Setting) (enter : Operand → Diagnosed (List Query)) (field : String)
    (entries : List (Operator × Value)) (progress : Progress) (entry : Operator × Value) :
    Diagnosed Progress := do
  let (op, value) := entry
  if op.isGeo then Diagnosed.lift (requireGeo setting field op)
  match sideOf? op with
  | some (side, close) => do
    let operand ← Diagnosed.lift (boundOperand field op value)
    return progress.bound field side (close operand)
  | none =>
    match op with
    | .equal => return progress.append (← equality enter field value)
    | .negation => return progress.append [← negation enter field value]
    | _ => return progress.append (← simpleEntry setting field entries op value)

/-- Takes up the entries of an operator map in order. All of them are there to look for partners. -/
def takeUpAll (setting : Setting) (enter : Operand → Diagnosed (List Query)) (field : String)
    (entries : List (Operator × Value)) :
    Progress → List (Operator × Value) → Diagnosed Progress
  | progress, [] => return progress
  | progress, entry :: rest => do
    let next ← takeUp setting enter field entries progress entry
    takeUpAll setting enter field entries next rest

/-- The queries of an operand, with `enter` for operands inside it. -/
def operandWith (setting : Setting) (enter : Operand → Diagnosed (List Query)) (field : String) :
    Operand → Diagnosed (List Query)
  | .ops entries => do
    return (← takeUpAll setting enter field entries .start entries).queries field
  | plain => plainOperand setting field plain

/-- The queries of an operand when `levels` more levels of operands may be entered. -/
def operand (setting : Setting) (field : String) : (levels : Nat) → Operand → Diagnosed (List Query)
  | 0 => operandWith setting (fun _ => .failed (.depthLimitExceeded setting.limit)) field
  | levels + 1 => operandWith setting (operand setting field levels) field

end SearchFilter.Resolve
