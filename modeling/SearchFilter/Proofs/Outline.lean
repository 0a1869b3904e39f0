import SearchFilter.Proofs.Rewriting

/-!
# The outline of a specification

Above its operands a specification consists of sub-specifications and of conditions on fields.
Listed in the order in which they are written, each with the number of levels that it is below the
top, these are the outline of the specification. Reading a specification into clauses keeps its
outline, so that whatever is known of each condition by itself is known of the whole.

The lists are total. For a specification that cannot be read they have no use.
-/

namespace SearchFilter

open Check (bind_eq_ok_iff map_eq_ok_iff mapM_eq_ok_iff)

/-! ### Outlines -/

namespace Outline

/-- What stands at one place of a specification. -/
inductive Item
  | spec (depth : Nat)
  | condition (depth : Nat) (field : String) (value : Value)

/-- The field and the value of a condition. -/
def Item.condition? : Item → Option (String × Value)
  | .spec _ => none
  | .condition _ field value => some (field, value)

mutual

/-- The outline of the entries of a specification that stands some levels below the top. -/
def ofEntries (depth : Nat) : List (Key × Value) → List Item
  | [] => []
  | (key, value) :: rest =>
    (match Combinator.ofKey? key.text with
      | some _ => ofMembers depth value
      | none => [.condition depth (Where.pathOf key.text) value]) ++ ofEntries depth rest

/-- The outline of the sub-specifications under the key of a combinator: one alone, a list of them
or a list of groups. -/
def ofMembers (depth : Nat) : Value → List Item
  | .map entries => .spec (depth + 1) :: ofEntries (depth + 1) entries
  | .list items => ofItems depth items
  | _ => []

/-- The outline of the items of a list of sub-specifications, in order. -/
def ofItems (depth : Nat) : List Value → List Item
  | [] => []
  | item :: rest => ofMembers depth item ++ ofItems depth rest

end

/-- Whether the field of an item is what a key other than a combinator stands for. -/
def Item.IsKeyed : Item → Prop
  | .spec _ => True
  | .condition _ field _ => ∃ key, Combinator.ofKey? key = none ∧ field = Where.pathOf key

mutual

/-- In the outline of entries every condition is on a field and not on a combinator. -/
theorem keyed_ofEntries (depth : Nat) :
    (entries : List (Key × Value)) → ∀ item ∈ ofEntries depth entries, item.IsKeyed
  | [] => List.forall_mem_nil _
  | (key, value) :: rest => by
    refine List.forall_mem_append.mpr ⟨?_, keyed_ofEntries depth rest⟩
    cases combining : Combinator.ofKey? key.text with
    | some combinator => exact keyed_ofMembers depth value
    | none => exact List.forall_mem_singleton.mpr ⟨key.text, combining, rfl⟩

/-- In the outline of a value under a combinator every condition is on a field. -/
theorem keyed_ofMembers (depth : Nat) :
    (value : Value) → ∀ item ∈ ofMembers depth value, item.IsKeyed
  | .map entries => List.forall_mem_cons.mpr ⟨trivial, keyed_ofEntries (depth + 1) entries⟩
  | .list items => keyed_ofItems depth items
  | .null | .scalar _ | .interval _ | .pattern _ => List.forall_mem_nil _

/-- In the outline of items every condition is on a field. -/
theorem keyed_ofItems (depth : Nat) :
    (items : List Value) → ∀ item ∈ ofItems depth items, item.IsKeyed
  | [] => List.forall_mem_nil _
  | item :: rest =>
    List.forall_mem_append.mpr ⟨keyed_ofMembers depth item, keyed_ofItems depth rest⟩

end

mutual

/-- The outline of a clause, whose operands are shapes of values. -/
def ofClause (depth : Nat) : Clause → List Item
  | .group _ members => ofSpecs depth members
  | .field path shape => [.condition depth path shape.toValue]

/-- The outline of clauses in sequence, in order. -/
def ofClauses (depth : Nat) : List Clause → List Item
  | [] => []
  | clause :: rest => ofClause depth clause ++ ofClauses depth rest

/-- The outline of the members of a group. -/
def ofSpecs (depth : Nat) : List (List Clause) → List Item
  | [] => []
  | member :: rest => .spec (depth + 1) :: (ofClauses (depth + 1) member ++ ofSpecs depth rest)

end

/-- The outline of entries is that of the first one followed by that of the others. -/
theorem ofEntries_cons (depth : Nat) (entry : Key × Value) (rest : List (Key × Value)) :
    ofEntries depth (entry :: rest) = ofEntries depth [entry] ++ ofEntries depth rest := by
  obtain ⟨key, value⟩ := entry
  simp only [ofEntries, List.append_nil]

/-- The outline of clauses put together is put together. -/
theorem ofClauses_append (depth : Nat) (clauses others : List Clause) :
    ofClauses depth (clauses ++ others) = ofClauses depth clauses ++ ofClauses depth others := by
  induction clauses with
  | nil => rfl
  | cons clause rest inductionHypothesis =>
    simp only [List.cons_append, ofClauses, inductionHypothesis, List.append_assoc]

/-- The outline of one clause is its own. -/
@[simp] theorem ofClauses_singleton (depth : Nat) (clause : Clause) :
    ofClauses depth [clause] = ofClause depth clause := by
  simp only [ofClauses, List.append_nil]

end Outline

namespace FilterSpec

/-- The outline of a specification. -/
def outline (spec : FilterSpec) : List Outline.Item :=
  Outline.ofEntries 0 (spec.entries.map Where.named)

/-- The conditions on fields in a specification and in all of its sub-specifications, each with the
path of its field. -/
def conditions (spec : FilterSpec) : List (String × Value) :=
  spec.outline.filterMap Outline.Item.condition?

end FilterSpec

/-! ### Reading -/

namespace Where

/-- Whether entries have the outline of the clauses that they are read into. -/
def Outlines (enter : List (String × Value) → Except CompileError Where) : Prop :=
  ∀ entries clauses, enter entries = .ok clauses → ∀ depth,
    Outline.ofClauses depth clauses = Outline.ofEntries depth (entries.map named)

variable (enter : List (String × Value) → Except CompileError Where) (outlines : Outlines enter)
  (depth : Nat) (key : String)
include outlines

/-- Reading a sub-specification keeps its outline, itself and its depth included. -/
theorem outline_specOf (value : Value) (clauses : Where)
    (read : specOf enter key value = .ok clauses) :
    .spec (depth + 1) :: Outline.ofClauses (depth + 1) clauses = Outline.ofMembers depth value := by
  cases value with
  | map given =>
    obtain ⟨entries, keysRead, entered⟩ := (bind_eq_ok_iff _ _ _).mp read
    rw [Outline.ofMembers, names_eq_ok key given entries keysRead,
      outlines entries clauses entered (depth + 1)]
  | _ => cases read

/-- Reading a list of sub-specifications keeps its outline. -/
theorem outline_specsOf (items : List Value) (members : List Where)
    (read : items.mapM (specOf enter key) = .ok members) :
    Outline.ofSpecs depth members = Outline.ofItems depth items := by
  have pointwise := (mapM_eq_ok_iff _ _ _).mp read
  clear read
  induction pointwise with
  | nil => rfl
  | cons first _ inductionHypothesis =>
    rw [Outline.ofSpecs, Outline.ofItems, ← outline_specOf enter outlines depth key _ _ first,
      inductionHypothesis]
    rfl

/-- Reading a list of groups keeps its outline. The groups themselves have no depth of their own. -/
theorem outline_groupsOf (connective : Connective) (groups : List Value) (clauses : List Clause)
    (read : groups.mapM (groupOf enter key connective) = .ok clauses) :
    Outline.ofClauses depth clauses = Outline.ofItems depth groups := by
  have pointwise := (mapM_eq_ok_iff _ _ _).mp read
  clear read
  induction pointwise with
  | nil => rfl
  | @cons group clause groups clauses first _ inductionHypothesis =>
    rw [Outline.ofClauses, Outline.ofItems, inductionHypothesis]
    congr 1
    cases group with
    | list items =>
      obtain ⟨members, membersRead, last⟩ := (bind_eq_ok_iff _ _ _).mp first
      obtain rfl := (Check.pure_eq_ok_iff _ _).mp last
      exact outline_specsOf enter outlines depth key items members membersRead
    | _ => cases first

/-- Reading what stands under a combinator keeps its outline, in each of its forms. -/
theorem outline_clausesOf (combinator : Combinator) (value : Value) (clauses : List Clause)
    (read : clausesOf enter combinator key value = .ok clauses) :
    Outline.ofClauses depth clauses = Outline.ofMembers depth value := by
  cases value with
  | list items =>
    rw [Outline.ofMembers]
    cases nested : combinator.takesGroups with
    | true =>
      rw [clausesOf_groups enter combinator nested] at read
      exact outline_groupsOf enter outlines depth key _ items clauses read
    | false =>
      rw [clausesOf_list enter combinator nested] at read
      obtain ⟨members, membersRead, last⟩ := (bind_eq_ok_iff _ _ _).mp read
      obtain rfl := (Check.pure_eq_ok_iff _ _).mp last
      rw [Outline.ofClauses_singleton]
      exact outline_specsOf enter outlines depth key items members membersRead
  | map entries =>
    cases combinator with
    | not =>
      obtain ⟨member, memberRead, last⟩ := (bind_eq_ok_iff _ _ _).mp read
      obtain rfl := (Check.pure_eq_ok_iff _ _).mp last
      rw [← outline_specOf enter outlines depth key _ member memberRead,
        Outline.ofClauses_singleton, Outline.ofClause, Outline.ofSpecs, Outline.ofSpecs,
        List.append_nil]
    | _ => cases read
  | _ => cases combinator <;> cases read

omit key

/-- Reading an entry keeps its outline. -/
theorem outline_entryClauses (entry : String × Value) (clauses : List Clause)
    (read : entryClauses enter entry = .ok clauses) :
    Outline.ofClauses depth clauses = Outline.ofEntries depth [named entry] := by
  obtain ⟨key, value⟩ := entry
  simp only [Outline.ofEntries, named, Key.text, List.append_nil]
  cases combining : Combinator.ofKey? key with
  | some combinator =>
    simp only [entryClauses, combining] at read
    exact outline_clausesOf enter outlines depth key combinator value clauses read
  | none =>
    simp only [entryClauses, combining] at read
    obtain ⟨operand, shaped, last⟩ := (bind_eq_ok_iff _ _ _).mp read
    obtain rfl := (Check.pure_eq_ok_iff _ _).mp last
    rw [Outline.ofClauses_singleton, Outline.ofClause,
      Operand.toValue_of_ofValue _ value operand shaped]

omit depth

/-- Reading entries keeps their outline if entering sub-specifications does. This is the step from
one level to the next. -/
theorem entriesClauses_outlines : Outlines (entriesClauses enter) := by
  intro entries clauses read depth
  obtain ⟨parts, partsRead, rfl⟩ := (map_eq_ok_iff _ _ _).mp read
  have pointwise := (mapM_eq_ok_iff _ _ _).mp partsRead
  clear read partsRead
  induction pointwise with
  | nil => rfl
  | cons first _ inductionHypothesis =>
    rw [List.flatten_cons, Outline.ofClauses_append, List.map_cons, Outline.ofEntries_cons,
      outline_entryClauses enter outlines depth _ _ first, inductionHypothesis]

omit outlines enter

/-- Reading keeps the outline of a specification, however deep it may nest. -/
theorem ofEntries_outlines (limit levels : Nat) : Outlines (ofEntries limit levels) := by
  have refused : Outlines fun _ => .error (.depthLimitExceeded limit) := by
    intro entries clauses read
    cases read
  exact ofEntries_of_levels limit _ refused entriesClauses_outlines levels

end Where

end SearchFilter
