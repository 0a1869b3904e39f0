import SearchFilter.Diagnostics

/-!
# The normal form of specifications

A specification has several spellings for the same combination. In the normal form a specification
is a list of clauses that all have to hold; a clause is a group of sub-specifications under one
connective or a condition on one field. `FilterSpec.normalize` reads every spelling into it and
refuses what has no meaning, so that later stages see only the normal form.

Sub-specifications may nest as deep as a limit allows. The number of levels that may still be
entered is handed down, and the recursion is on that number.
-/

namespace SearchFilter

/-- The shape of a field condition. -/
inductive Operand
  | null
  | scalar (value : Scalar)
  /-- The members of a sequence; a null member is `none`. -/
  | list (items : List (Option Scalar))
  | interval (value : Interval)
  | pattern (value : Pattern)
  | ops (entries : List (Operator × Value))
deriving Inhabited

namespace Operand

/-- A member of a sequence. -/
def member (field : String) : Value → Except CompileError (Option Scalar)
  | .null => .ok none
  | .scalar value => .ok (some value)
  | other => .error (.invalidOperand field (.memberNotScalar other.kind))

/-- An entry of an operator map. A plain name is refused even when it spells an operator. -/
def entry : Key × Value → Except CompileError (Operator × Value)
  | (.op op, value) => .ok (op, value)
  | (.name name, _) => .error (.unknownOperator name)

/-- The shape of a value in the place of a field condition. -/
def ofValue (field : String) : Value → Except CompileError Operand
  | .null => .ok .null
  | .scalar value => .ok (.scalar value)
  | .list items => (items.mapM (member field)).map .list
  | .interval value => .ok (.interval value)
  | .pattern value => .ok (.pattern value)
  | .map entries => (entries.mapM entry).map .ops

end Operand

/-- A part of a specification in normal form. -/
inductive Clause
  /-- Sub-specifications, each a list of clauses, under one connective. -/
  | group (connective : Connective) (members : List (List Clause))
  | field (path : String) (operand : Operand)
deriving Inhabited

/-- A specification in normal form: clauses that all have to hold. -/
abbrev Where := List Clause

namespace Where

/-- The path that a key stands for. The engine stores the identity of a document under `_id`. -/
def pathOf (key : String) : String := if key = "id" then "_id" else key

/-- The entry of a sub-specification, whose keys are plain names. -/
def nameEntry (key : String) : Key × Value → Except CompileError (String × Value)
  | (.name name, value) => .ok (name, value)
  | (.op op, _) => .error (.invalidOperand key (.operatorOutsideField op))

/-- Reads a value as a sub-specification, using `enter` for its entries. -/
def specOf (enter : List (String × Value) → Except CompileError Where) (key : String) :
    Value → Except CompileError Where
  | .map entries => do enter (← entries.mapM (nameEntry key))
  | other => .error (.invalidOperand key (.specExpected other.kind))

/-- One group of a list of groups. -/
def groupOf (enter : List (String × Value) → Except CompileError Where) (key : String)
    (connective : Connective) : Value → Except CompileError Clause
  | .list items => do return .group connective (← items.mapM (specOf enter key))
  | _ => .error (.invalidOperand key .groupsExpected)

/-- The clauses that a combinator with its operand stands for: a list of groups gives one clause for
each group, every other spelling gives one clause. -/
def clausesOf (enter : List (String × Value) → Except CompileError Where) (combinator : Combinator)
    (key : String) (value : Value) : Except CompileError (List Clause) :=
  let connective := combinator.connective
  match combinator, value with
  | .and, .list groups | .or, .list groups => groups.mapM (groupOf enter key connective)
  | .and, _ | .or, _ => .error (.invalidOperand key .groupsExpected)
  | .flatAnd, .list items | .flatOr, .list items => do
    return [.group connective (← items.mapM (specOf enter key))]
  | .flatAnd, _ | .flatOr, _ => .error (.invalidOperand key .specsExpected)
  | .not, .list items => do return [.group connective (← items.mapM (specOf enter key))]
  | .not, single => do return [.group connective [← specOf enter key single]]

/-- The clauses of one entry. -/
def entryClauses (enter : List (String × Value) → Except CompileError Where) :
    String × Value → Except CompileError (List Clause)
  | (key, value) =>
    match Combinator.ofKey? key with
    | some combinator => clausesOf enter combinator key value
    | none => do return [.field (pathOf key) (← Operand.ofValue (pathOf key) value)]

/-- The clauses of all entries in order. -/
def entriesClauses (enter : List (String × Value) → Except CompileError Where)
    (entries : List (String × Value)) : Except CompileError Where :=
  (entries.mapM (entryClauses enter)).map List.flatten

/-- Reads entries when `levels` more levels of sub-specifications may be entered; `limit` is what an
error reports. -/
def ofEntries (limit : Nat) : (levels : Nat) → List (String × Value) → Except CompileError Where
  | 0 => entriesClauses fun _ => .error (.depthLimitExceeded limit)
  | levels + 1 => entriesClauses (ofEntries limit levels)

end Where

/-- The normal form of a specification whose sub-specifications nest at most `limit` deep. -/
def FilterSpec.normalize (limit : Nat) (spec : FilterSpec) : Except CompileError Where :=
  Where.ofEntries limit limit spec.entries

end SearchFilter
