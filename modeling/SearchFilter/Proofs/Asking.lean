import SearchFilter.Proofs.Rewriting

/-!
# The operators that a specification asks for

An operator is asked for by the operator maps of conditions, which stand under the names of fields
and inside the operands of equality and negation. The operands of other operators are no conditions,
so what looks like an operator there is none. Reading a specification keeps what is asked for.
-/

namespace SearchFilter

open Check (bind_eq_ok_iff map_eq_ok_iff mapM_eq_ok_iff)

/-- Whether the value under a key is a condition or a combination of sub-specifications. -/
def Key.leadsOn : Key → Bool
  | .name _ | .op .equal | .op .negation => true
  | .op _ => false

/-- Whether a condition, or one anywhere in a sub-specification, asks for an operator. -/
inductive Value.Asks (op : Operator) : Value → Prop
  | entry {entries : List (Key × Value)} {operand : Value} (member : (.op op, operand) ∈ entries) :
      Asks op (.map entries)
  | inside {entries : List (Key × Value)} {key : Key} {value : Value}
      (member : (key, value) ∈ entries) (leadsOn : key.leadsOn = true) (asks : Asks op value) :
      Asks op (.map entries)
  | listed {items : List Value} {item : Value} (member : item ∈ items) (asks : Asks op item) :
      Asks op (.list items)

namespace Value

variable (op : Operator)

/-- A null asks for nothing. -/
@[simp] theorem not_asks_null : ¬Value.null.Asks op := nofun

/-- A literal asks for no operator, even if its text spells one. -/
@[simp] theorem not_asks_scalar (literal : Scalar) : ¬(Value.scalar literal).Asks op := nofun

/-- An interval asks for no operator. Its bounds are not the operators of a map. -/
@[simp] theorem not_asks_interval (interval : Interval) : ¬(Value.interval interval).Asks op := nofun

/-- A pattern asks for no operator, although some operators take patterns. -/
@[simp] theorem not_asks_pattern (pattern : Pattern) : ¬(Value.pattern pattern).Asks op := nofun

/-- A list asks for what one of its items asks for. -/
@[simp] theorem asks_list_iff (items : List Value) :
    (Value.list items).Asks op ↔ ∃ item ∈ items, item.Asks op := by
  constructor
  · intro asks
    cases asks with
    | listed member asks => exact ⟨_, member, asks⟩
  · rintro ⟨item, member, asks⟩
    exact .listed member asks

/-- A map asks for the operators among its keys and for what the values under its names, equalities
and negations ask for. -/
@[simp] theorem asks_map_iff (entries : List (Key × Value)) :
    (Value.map entries).Asks op ↔
      ∃ entry ∈ entries, entry.1 = .op op ∨ entry.1.leadsOn = true ∧ entry.2.Asks op := by
  constructor
  · intro asks
    cases asks with
    | entry member => exact ⟨_, member, .inl rfl⟩
    | inside member leadsOn asks => exact ⟨_, member, .inr ⟨leadsOn, asks⟩⟩
  · rintro ⟨⟨key, value⟩, member, rfl | ⟨leadsOn, asks⟩⟩
    · exact .entry member
    · exact .inside member leadsOn asks

end Value

/-- Whether a specification asks for an operator. -/
def FilterSpec.Asks (op : Operator) (spec : FilterSpec) : Prop :=
  ∃ entry ∈ spec.entries, entry.2.Asks op

/-- Whether a condition asks for an operator. -/
inductive Operand.Asks (op : Operator) : Operand → Prop
  | entry {entries : List (Operator × Value)} {operand : Value}
      (member : (op, operand) ∈ entries) : Asks op (.ops entries)
  | inside {entries : List (Operator × Value)} {outer : Operator} {value : Value}
      (member : (outer, value) ∈ entries) (leadsOn : (Key.op outer).leadsOn = true)
      (asks : value.Asks op) : Asks op (.ops entries)

/-- Whether some condition of a clause asks for an operator. -/
inductive Clause.Asks (op : Operator) : Clause → Prop
  | field {path : String} {operand : Operand} (asks : operand.Asks op) :
      Asks op (.field path operand)
  | group {connective : Connective} {members : List (List Clause)} {member : List Clause}
      {clause : Clause} (isMember : member ∈ members) (stands : clause ∈ member)
      (asks : Asks op clause) : Asks op (.group connective members)

/-- Reading a value as an operand adds no operator: an operand asks only for what its value does. -/
theorem Operand.asks_of_ofValue (op : Operator) (field : String) (value : Value)
    (operand : Operand) (shaped : ofValue field value = .ok operand) (asks : operand.Asks op) :
    value.Asks op := by
  cases value with
  | map given =>
    obtain ⟨entries, read, rfl⟩ := (map_eq_ok_iff _ _ _).mp shaped
    obtain rfl := Resolve.entries_eq_ok given entries read
    cases asks with
    | entry member => exact .entry (List.mem_map_of_mem member)
    | inside member leadsOn asks => exact .inside (List.mem_map_of_mem member) leadsOn asks
  | list items =>
    obtain ⟨members, -, rfl⟩ := (map_eq_ok_iff _ _ _).mp shaped
    cases asks
  | _ =>
    obtain rfl := Except.ok.inj shaped
    cases asks

namespace Where

/-- Whether entries ask for whatever the clauses ask for that they are read into. -/
def Tells (op : Operator) (enter : List (String × Value) → Except CompileError Where) : Prop :=
  ∀ entries clauses, enter entries = .ok clauses → ∀ clause ∈ clauses, clause.Asks op →
    ∃ entry ∈ entries, entry.2.Asks op

section Reading

variable (op : Operator) (enter : List (String × Value) → Except CompileError Where)
  (tells : Tells op enter) (key : String)
include tells

/-- What the clauses of a sub-specification ask for, the value that was read does. -/
theorem asks_of_specOf (value : Value) (clauses : Where)
    (read : specOf enter key value = .ok clauses) (clause : Clause) (stands : clause ∈ clauses)
    (asks : clause.Asks op) : value.Asks op := by
  cases value with
  | map given =>
    obtain ⟨entries, keysRead, entered⟩ := (bind_eq_ok_iff _ _ _).mp read
    obtain rfl := names_eq_ok key given entries keysRead
    obtain ⟨entry, member, entryAsks⟩ := tells entries clauses entered clause stands asks
    exact .inside (List.mem_map_of_mem member) rfl entryAsks
  | _ => cases read

/-- What a group of sub-specifications asks for, the list that was read does. -/
theorem asks_of_specsOf (items : List Value) (members : List Where)
    (read : items.mapM (specOf enter key) = .ok members) (connective : Connective)
    (asks : (Clause.group connective members).Asks op) : (Value.list items).Asks op := by
  cases asks with
  | group isMember stands asks =>
    obtain ⟨item, itemMember, itemRead⟩ :=
      Check.exists_of_mem_of_mapM_eq_ok _ _ _ read _ isMember
    exact .listed itemMember (asks_of_specOf op enter tells key item _ itemRead _ stands asks)

/-- What one group of a list of groups asks for, its value does. -/
theorem asks_of_groupOf (connective : Connective) (group : Value) (clause : Clause)
    (read : groupOf enter key connective group = .ok clause) (asks : clause.Asks op) :
    group.Asks op := by
  cases group with
  | list items =>
    obtain ⟨members, membersRead, last⟩ := (bind_eq_ok_iff _ _ _).mp read
    obtain rfl := (Check.pure_eq_ok_iff _ _).mp last
    exact asks_of_specsOf op enter tells key items members membersRead connective asks
  | _ => cases read

/-- What the clauses under a combinator ask for, the value under its key does. -/
theorem asks_of_clausesOf (combinator : Combinator) (value : Value) (clauses : List Clause)
    (read : clausesOf enter combinator key value = .ok clauses) (clause : Clause)
    (stands : clause ∈ clauses) (asks : clause.Asks op) : value.Asks op := by
  cases value with
  | list items =>
    cases nested : combinator.takesGroups with
    | true =>
      rw [clausesOf_groups enter combinator nested] at read
      obtain ⟨group, member, groupRead⟩ := Check.exists_of_mem_of_mapM_eq_ok _ _ _ read _ stands
      exact .listed member (asks_of_groupOf op enter tells key _ group clause groupRead asks)
    | false =>
      rw [clausesOf_list enter combinator nested] at read
      obtain ⟨members, membersRead, last⟩ := (bind_eq_ok_iff _ _ _).mp read
      obtain rfl := (Check.pure_eq_ok_iff _ _).mp last
      obtain rfl := List.mem_singleton.mp stands
      exact asks_of_specsOf op enter tells key items members membersRead _ asks
  | map entries =>
    cases combinator with
    | not =>
      obtain ⟨member, memberRead, last⟩ := (bind_eq_ok_iff _ _ _).mp read
      obtain rfl := (Check.pure_eq_ok_iff _ _).mp last
      obtain rfl := List.mem_singleton.mp stands
      cases asks with
      | group isMember inMember asks =>
        obtain rfl := List.mem_singleton.mp isMember
        exact asks_of_specOf op enter tells key _ _ memberRead _ inMember asks
    | _ => cases read
  | _ => cases combinator <;> cases read

omit key

/-- What the clauses of one entry ask for, the value of the entry does, under a combinator as under
a field. -/
theorem asks_of_entryClauses (entry : String × Value) (clauses : List Clause)
    (read : entryClauses enter entry = .ok clauses) (clause : Clause) (stands : clause ∈ clauses)
    (asks : clause.Asks op) : entry.2.Asks op := by
  obtain ⟨key, value⟩ := entry
  cases combining : Combinator.ofKey? key with
  | some combinator =>
    simp only [entryClauses, combining] at read
    exact asks_of_clausesOf op enter tells key combinator value clauses read clause stands asks
  | none =>
    simp only [entryClauses, combining] at read
    obtain ⟨operand, shaped, last⟩ := (bind_eq_ok_iff _ _ _).mp read
    obtain rfl := (Check.pure_eq_ok_iff _ _).mp last
    obtain rfl := List.mem_singleton.mp stands
    cases asks with
    | field asks => exact Operand.asks_of_ofValue op _ value operand shaped asks

/-- Reading entries keeps what is asked for if entering sub-specifications does. This is the step
from one level to the next. -/
theorem entriesClauses_tells : Tells op (entriesClauses enter) := by
  intro entries clauses read clause stands asks
  obtain ⟨parts, partsRead, rfl⟩ := (map_eq_ok_iff _ _ _).mp read
  obtain ⟨part, partMember, stands⟩ := List.mem_flatten.mp stands
  obtain ⟨entry, member, entryRead⟩ :=
    Check.exists_of_mem_of_mapM_eq_ok _ _ _ partsRead _ partMember
  exact ⟨entry, member,
    asks_of_entryClauses op enter tells entry part entryRead clause stands asks⟩

end Reading

/-- The clauses of a specification ask for no operator that the specification does not ask for, however
deep it may nest. -/
theorem ofEntries_tells (op : Operator) (limit levels : Nat) :
    Tells op (ofEntries limit levels) := by
  have refused : Tells op fun _ => .error (.depthLimitExceeded limit) := by
    intro entries clauses read
    cases read
  exact ofEntries_of_levels limit _ refused
    (fun enter tells => entriesClauses_tells op enter tells) levels

end Where

end SearchFilter
