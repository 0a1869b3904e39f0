import SearchFilter.Diagnostics

/-!
# Specifications from documents

Inside the values of a specification, an object key that begins with a dollar sign names an
operator, and any other key is a plain name. Two one-entry objects are literals instead of maps:
`$range` holds an interval and `$regex` a pattern. The keys of the specification itself are field
paths and combinators and are taken as they are.

Members are read in order and the first defect is reported; an unknown operator is noticed at its
key, before its value is looked at.
-/

namespace SearchFilter

/-- A number as a literal: exact when it is a signed integer of sixty-four bits, and otherwise the
nearest floating-point number. -/
def Scalar.ofNumber (value : Number) : Scalar :=
  match value.signed? with
  | some integer => .int integer
  | none => .float value.toBinary64

namespace FilterSpec

/-- One end of an interval; a missing or null end is open. -/
def endpoint (field : String) : Option Json → Except CompileError (Option Scalar)
  | none => .ok none
  | some .null => .ok none
  | some (.number value) => .ok (some (.ofNumber value))
  | some (.string value) => .ok (some (.str value))
  | some other => .error (.invalidOperand field (.rangeEndpoint other))

/-- The keys that an interval may have. -/
def rangeKeys : List String := ["from", "to", "exclusive"]

/-- An interval from its two ends. The upper end is left out of the interval when it is exclusive.
-/
def rangeOf (field : String) : Json → Except CompileError Interval
  | .object entries => do
    match (Entries.keys entries).find? fun key => !rangeKeys.contains key with
    | some key => throw (.invalidOperand field (.rangeKey key))
    | none => pure ()
    let exclusive ←
      match Entries.find? "exclusive" entries with
      | none => pure false
      | some (.bool value) => pure value
      | some _ => throw (.invalidOperand field .exclusiveNotBoolean)
    let lower ← endpoint field (Entries.find? "from" entries)
    let upper ← endpoint field (Entries.find? "to" entries)
    return .between (lower.elim .unbounded .included)
      (upper.elim .unbounded (if exclusive then .excluded else .included))
  | _ => .error (.invalidOperand field .rangeNotAnObject)

/-- A pattern from its source alone, or from an object that may also hold the case flag. -/
def patternOf (field : String) : Json → Except CompileError Pattern
  | .string source => .ok ⟨source, false⟩
  | .object entries => do
    let source ←
      match Entries.find? "source" entries with
      | some (.string source) => pure source
      | _ => throw (.invalidOperand field .sourceNotText)
    match Entries.find? "case_insensitive" entries with
    | none => return ⟨source, false⟩
    | some (.bool ignoreCase) => return ⟨source, ignoreCase⟩
    | some _ => throw (.invalidOperand field .caseFlagNotBoolean)
  | other => .error (.invalidOperand field (.patternNotText other))

/-- The literal that a one-entry object stands for. -/
def literal? (field : String) : List (String × Json) → Option (Except CompileError Value)
  | [(key, json)] =>
    if key = "$range" then some ((rangeOf field json).map .interval)
    else if key = "$regex" then some ((patternOf field json).map .pattern)
    else none
  | _ => none

/-- The key of a map: an operator behind a dollar sign, and otherwise a plain name. -/
def keyOf (text : String) : Except CompileError Key :=
  match text.toList with
  | '$' :: rest =>
    match Operator.ofName? (String.ofList rest) with
    | some op => .ok (.op op)
    | none => .error (.unknownOperator (String.ofList rest))
  | _ => .ok (.name text)

mutual

/-- The value that a document stands for inside a specification. -/
def valueOf (field : String) : Json → Except CompileError Value
  | .null => .ok .null
  | .bool value => .ok (.scalar (.bool value))
  | .number value => .ok (.scalar (.ofNumber value))
  | .string value => .ok (.scalar (.str value))
  | .array items => (valuesOf field items).map .list
  | .object entries =>
    match literal? field entries with
    | some literal => literal
    | none => (entriesOf field entries).map .map

/-- Reads the items of a list in order. The first defect settles the error. -/
def valuesOf (field : String) : List Json → Except CompileError (List Value)
  | [] => .ok []
  | item :: rest => do
    let value ← valueOf field item
    return value :: (← valuesOf field rest)

/-- Reads the members of an object in order, every key before its value. -/
def entriesOf (field : String) : List (String × Json) → Except CompileError (List (Key × Value))
  | [] => .ok []
  | (key, item) :: rest => do
    let key ← keyOf key
    let value ← valueOf field item
    return (key, value) :: (← entriesOf field rest)

end

/-- The entries of a specification; each value is reported under its own key. -/
def pairsOf : List (String × Json) → Except CompileError (List (String × Value))
  | [] => .ok []
  | (key, item) :: rest => do
    let value ← valueOf key item
    return (key, value) :: (← pairsOf rest)

/-- The specification that an object stands for. -/
def ofJson : Json → Except CompileError FilterSpec
  | .object entries => (pairsOf entries).map ofPairs
  | _ => .error (.invalidOperand "$" .specNotAnObject)

end FilterSpec

end SearchFilter
