import SearchFilter.Proofs.Outline

/-!
# The demands of a specification

A specification enters sub-specifications and operands, sets conditions that are no operator maps
and uses operators. Listed in the order in which they are written, these are its demands. Whatever
can be refused or reported about a specification is refused or reported about one of them. They are
the demands of what stands in the outline, so reading a specification into clauses keeps them.

The lists are total. For a specification that cannot be read they have no use.
-/

namespace SearchFilter

/-- Null, literals and sequences have a negation of their own. Every other value has to be entered
for its negation. -/
def Value.hasOwnNegation : Value → Bool
  | .null | .scalar _ | .list _ => true
  | .interval _ | .pattern _ | .map _ => false

/-- The entries of a map that have operators for keys. -/
def Operand.operatorsOf (entries : List (Key × Value)) : List (Operator × Value) :=
  entries.filterMap fun
    | (.op op, value) => some (op, value)
    | (.name _, _) => none

/-- The operators of a map whose keys are all operators are its entries. -/
@[simp] theorem Operand.operatorsOf_keyed (entries : List (Operator × Value)) :
    operatorsOf (entries.map Resolve.keyed) = entries := by
  induction entries with
  | nil => rfl
  | cons entry rest inductionHypothesis =>
    simpa [operatorsOf, Resolve.keyed] using inductionHypothesis

/-! ### Demands -/

/-- What stands at one place of a specification. -/
inductive Demand
  /-- A sub-specification, by the number of levels that it is below the top. -/
  | spec (depth : Nat)
  /-- An operand inside another operand, by the number of levels that it is below the top. -/
  | operand (depth : Nat)
  /-- A condition on a field that is no operator map. -/
  | plain (field : String) (value : Value)
  /-- An operator with its operand, and the entries among which it stands. -/
  | operator (field : String) (entries : List (Operator × Value)) (op : Operator) (value : Value)

namespace Demand

/-! ### Conditions on a field -/

mutual

/-- The demands of a condition on a field that stands some levels below the top. -/
def ofCondition (field : String) (depth : Nat) : Value → List Demand
  | .map entries => ofOperators field depth (Operand.operatorsOf entries) entries
  | value => [.plain field value]

/-- The demands of the entries of an operator map. The operand of an equality is entered, and so is
that of a negation which has no form of its own; an equality with an operator map is refused, so
nothing is demanded inside of it. -/
def ofOperators (field : String) (depth : Nat) (entries : List (Operator × Value)) :
    List (Key × Value) → List Demand
  | [] => []
  | (.op .equal, value) :: rest =>
    .operator field entries .equal value :: .operand (depth + 1) :: .plain field value ::
      ofOperators field depth entries rest
  | (.op .negation, value) :: rest =>
    .operator field entries .negation value ::
      ((if value.hasOwnNegation then []
        else .operand (depth + 1) :: ofCondition field (depth + 1) value) ++
          ofOperators field depth entries rest)
  | (.op op, value) :: rest =>
    .operator field entries op value :: ofOperators field depth entries rest
  | (.name _, _) :: rest => ofOperators field depth entries rest

end

/-! ### Specifications -/

mutual

/-- The demands of the entries of a specification that stands some levels below the top. -/
def ofEntries (depth : Nat) : List (Key × Value) → List Demand
  | [] => []
  | (key, value) :: rest =>
    (match Combinator.ofKey? key.text with
      | some _ => ofMembers depth value
      | none => ofCondition (Where.pathOf key.text) depth value) ++ ofEntries depth rest

/-- The demands of the sub-specifications under the key of a combinator: one alone, a list of them
or a list of groups. -/
def ofMembers (depth : Nat) : Value → List Demand
  | .map entries => .spec (depth + 1) :: ofEntries (depth + 1) entries
  | .list items => ofItems depth items
  | _ => []

/-- The demands of the items of a list of sub-specifications, in order. -/
def ofItems (depth : Nat) : List Value → List Demand
  | [] => []
  | item :: rest => ofMembers depth item ++ ofItems depth rest

end

/-- The demands of entries are those of the first one followed by those of the others. -/
theorem ofEntries_cons (depth : Nat) (entry : Key × Value) (rest : List (Key × Value)) :
    ofEntries depth (entry :: rest) = ofEntries depth [entry] ++ ofEntries depth rest := by
  obtain ⟨key, value⟩ := entry
  simp only [ofEntries, List.append_nil]

/-! ### Clauses -/

mutual

/-- The demands of a clause. -/
def ofClause (depth : Nat) : Clause → List Demand
  | .group _ members => ofSpecs depth members
  | .field path shape => ofCondition path depth shape.toValue

/-- The demands of clauses in sequence, in order. -/
def ofClauses (depth : Nat) : List Clause → List Demand
  | [] => []
  | clause :: rest => ofClause depth clause ++ ofClauses depth rest

/-- The demands of the members of a group. -/
def ofSpecs (depth : Nat) : List (List Clause) → List Demand
  | [] => []
  | member :: rest => .spec (depth + 1) :: (ofClauses (depth + 1) member ++ ofSpecs depth rest)

end

end Demand

/-- The demands of a specification in the order in which they are written. -/
def FilterSpec.demands (spec : FilterSpec) : List Demand :=
  Demand.ofEntries 0 (spec.entries.map Where.named)

/-! ### The demands of what stands in an outline -/

/-- The demands of what stands at one place of a specification. -/
def Outline.Item.demands : Outline.Item → List Demand
  | .spec depth => [.spec depth]
  | .condition depth field value => Demand.ofCondition field depth value

namespace Demand

open Outline (Item)

mutual

/-- The demands of entries are those of the conditions and sub-specifications in their outline. -/
theorem ofEntries_eq_flatMap (depth : Nat) :
    (entries : List (Key × Value)) →
      ofEntries depth entries = (Outline.ofEntries depth entries).flatMap Item.demands
  | [] => rfl
  | (key, value) :: rest => by
    rw [ofEntries, Outline.ofEntries, List.flatMap_append, ofEntries_eq_flatMap depth rest]
    cases Combinator.ofKey? key.text with
    | some combinator => exact congrArg (· ++ _) (ofMembers_eq_flatMap depth value)
    | none => exact congrArg (· ++ _) (List.append_nil _).symm

/-- The demands of a list or map under a combinator are those of what stands in its outline. -/
theorem ofMembers_eq_flatMap (depth : Nat) :
    (value : Value) →
      ofMembers depth value = (Outline.ofMembers depth value).flatMap Item.demands
  | .map entries => by
    rw [ofMembers, Outline.ofMembers, List.flatMap_cons, ofEntries_eq_flatMap (depth + 1) entries]
    rfl
  | .list items => by
    rw [ofMembers, Outline.ofMembers, ofItems_eq_flatMap depth items]
  | .null | .scalar _ | .interval _ | .pattern _ => by
    rw [ofMembers, Outline.ofMembers, List.flatMap_nil] <;> nofun

/-- The demands of items are those of what stands in their outlines. -/
theorem ofItems_eq_flatMap (depth : Nat) :
    (items : List Value) →
      ofItems depth items = (Outline.ofItems depth items).flatMap Item.demands
  | [] => rfl
  | item :: rest => by
    rw [ofItems, Outline.ofItems, List.flatMap_append, ofMembers_eq_flatMap depth item,
      ofItems_eq_flatMap depth rest]

end

mutual

/-- The demands of a clause are those of what stands in its outline. -/
theorem ofClause_eq_flatMap (depth : Nat) :
    (clause : Clause) →
      ofClause depth clause = (Outline.ofClause depth clause).flatMap Item.demands
  | .group _ members => by
    rw [ofClause, Outline.ofClause, ofSpecs_eq_flatMap depth members]
  | .field _ _ => by
    rw [ofClause, Outline.ofClause, List.flatMap_singleton]
    rfl

/-- The demands of clauses are those of what stands in their outlines. -/
theorem ofClauses_eq_flatMap (depth : Nat) :
    (clauses : List Clause) →
      ofClauses depth clauses = (Outline.ofClauses depth clauses).flatMap Item.demands
  | [] => rfl
  | clause :: rest => by
    rw [ofClauses, Outline.ofClauses, List.flatMap_append, ofClause_eq_flatMap depth clause,
      ofClauses_eq_flatMap depth rest]

/-- The demands of the members of a group are those of what stands in their outlines. -/
theorem ofSpecs_eq_flatMap (depth : Nat) :
    (members : List (List Clause)) →
      ofSpecs depth members = (Outline.ofSpecs depth members).flatMap Item.demands
  | [] => rfl
  | member :: rest => by
    rw [ofSpecs, Outline.ofSpecs, List.flatMap_cons, List.flatMap_append,
      ofClauses_eq_flatMap (depth + 1) member, ofSpecs_eq_flatMap depth rest]
    rfl

end

end Demand

/-- The demands of a specification are those of what stands in its outline, in order. -/
theorem FilterSpec.demands_eq_flatMap (spec : FilterSpec) :
    spec.demands = spec.outline.flatMap Outline.Item.demands :=
  Demand.ofEntries_eq_flatMap 0 _

namespace Where

/-- Whether entries have the demands of the clauses that they are read into. -/
def Keeps (enter : List (String × Value) → Except CompileError Where) : Prop :=
  ∀ entries clauses, enter entries = .ok clauses → ∀ depth,
    Demand.ofClauses depth clauses = Demand.ofEntries depth (entries.map named)

/-- Reading keeps the demands of a specification, however deep it may nest. -/
theorem ofEntries_keeps (limit levels : Nat) : Keeps (ofEntries limit levels) := by
  intro entries clauses read depth
  rw [Demand.ofClauses_eq_flatMap, ofEntries_outlines limit levels entries clauses read depth,
    Demand.ofEntries_eq_flatMap]

end Where

end SearchFilter
