import SearchFilter.Resolve
import SearchFilter.Query.Body
import SearchFilter.Query.Form

/-!
# Compiling specifications

Compilation brings a specification into its normal form and then builds the tree: a specification is
the conjunction of its clauses, a group of sub-specifications becomes a group of queries, and the
conditions on fields are resolved. It is a function of the specification, the declared fields, the
engine and the nesting limit alone.
-/

namespace SearchFilter

/-- The nesting limit that applies when none is given. -/
def defaultDepth : Nat := 32

/-- A query tree with the warnings raised while it was built, in order. -/
structure CompiledQuery where
  root : Query
  warnings : List Warning
deriving Inhabited

namespace Where

mutual

/-- The query of a specification that stands `depth` levels below the top. Without any clause it
matches everything. -/
def query (setting : Resolve.Setting) (depth : Nat) : List Clause → Diagnosed Query
  | [] => return .matchAll
  | clause :: rest => do
    let first ← clauseQueries setting depth clause
    let others ← clausesQueries setting depth rest
    return .group .and (first ++ others)

/-- The queries that a clause adds to its conjunction. -/
def clauseQueries (setting : Resolve.Setting) (depth : Nat) : Clause → Diagnosed (List Query)
  | .group connective members => do
    return [.group connective (← queries setting (depth + 1) members)]
  | .field path operand => Resolve.operand setting path (setting.limit - depth) operand

/-- The queries of clauses one after the other, with their warnings in the same order. The first
clause that fails settles the error. -/
def clausesQueries (setting : Resolve.Setting) (depth : Nat) : List Clause → Diagnosed (List Query)
  | [] => return []
  | clause :: rest => do
    let first ← clauseQueries setting depth clause
    let others ← clausesQueries setting depth rest
    return first ++ others

/-- The queries of sub-specifications in order. -/
def queries (setting : Resolve.Setting) (depth : Nat) : List (List Clause) → Diagnosed (List Query)
  | [] => return []
  | member :: rest => do
    let first ← query setting depth member
    let others ← queries setting depth rest
    return first :: others

end

end Where

/-- Compiles a specification for an engine. -/
def compile (spec : FilterSpec) (fields : FieldContext) (capabilities : Capabilities)
    (limit : Nat := defaultDepth) : Except CompileError CompiledQuery :=
  match spec.normalize limit with
  | .error error => .error error
  | .ok clauses =>
    match Where.query ⟨fields, capabilities, limit⟩ 0 clauses with
    | .failed error => .error error
    | .done root warnings => .ok ⟨root, warnings⟩

/-- The compiled query as a document. -/
def CompiledQuery.toJson (compiled : CompiledQuery) : Json :=
  .object [("root", compiled.root.toJson),
    ("warnings", .array (compiled.warnings.map Warning.toJson))]

end SearchFilter
