import SearchFilter.Proofs.Rewriting
import Mathlib.Logic.Relation

/-!
# Spellings of combinators

A flat list under a key with an underscore says the same as a list with that one group under the key
without it, negation has two keys, and a single sub-specification can be negated in a list or alone.
Entries spelled differently, at any number of places and depths, are read into the same normal form
or refused alike, so the stages after the reading cannot tell the spellings apart.
-/

namespace SearchFilter

open Check (bind_eq_ok_iff mapM_eq_ok_iff)

/-- One entry in two spellings. -/
inductive Spelling : String × Value → String × Value → Prop
  | or (members : Value) : Spelling ("_or", members) ("or", .list [members])
  | and (members : Value) : Spelling ("_and", members) ("and", .list [members])
  | not (operand : Value) : Spelling ("not", operand) ("_not", operand)
  | alone (entries : List (Key × Value)) :
      Spelling ("not", .map entries) ("not", .list [.map entries])

namespace Where

/-- The key above a sub-specification stands in errors only. -/
theorem specOf_eq_ok_iff_of_key (enter : List (String × Value) → Except CompileError Where)
    (key other : String) (value : Value) (clauses : Where) :
    specOf enter key value = .ok clauses ↔ specOf enter other value = .ok clauses := by
  cases value with
  | map given =>
    simp only [specOf, bind_eq_ok_iff]
    refine exists_congr fun entries => and_congr_left fun _ => ?_
    constructor
    · intro read
      rw [names_eq_ok key given entries read]
      exact Check.mapM_map_eq_ok (nameEntry other) named (fun _ => rfl) entries
    · intro read
      rw [names_eq_ok other given entries read]
      exact Check.mapM_map_eq_ok (nameEntry key) named (fun _ => rfl) entries
  | _ => simp [specOf]

/-- The key of a combinator is used for error messages alone. -/
theorem specsOf_eq_ok_iff_of_key (enter : List (String × Value) → Except CompileError Where)
    (key other : String) (items : List Value) (members : List Where) :
    items.mapM (specOf enter key) = .ok members ↔ items.mapM (specOf enter other) = .ok members := by
  simp only [mapM_eq_ok_iff, specOf_eq_ok_iff_of_key enter key other]

/-- A flat list is read as the one group in a list of groups. -/
theorem clausesOf_flat_eq_ok_iff (enter : List (String × Value) → Except CompileError Where)
    (combinator nested : Combinator) (flat : combinator.takesGroups = false)
    (isNested : nested.takesGroups = true) (same : combinator.connective = nested.connective)
    (key other : String) (items : List Value) (clauses : List Clause) :
    clausesOf enter combinator key (.list items) = .ok clauses ↔
      clausesOf enter nested other (.list [.list items]) = .ok clauses := by
  rw [clausesOf_list enter combinator flat, clausesOf_groups enter nested isNested, same]
  simp only [mapM_eq_ok_iff, List.forall₂_cons_left_iff, List.forall₂_nil_left_iff, groupOf,
    bind_eq_ok_iff, Check.pure_eq_ok_iff, specsOf_eq_ok_iff_of_key enter key other]
  constructor
  · rintro ⟨members, read, rfl⟩
    exact ⟨_, _, ⟨members, read, rfl⟩, rfl, rfl⟩
  · rintro ⟨clause, rest, ⟨members, read, rfl⟩, rfl, rfl⟩
    exact ⟨members, read, rfl⟩

/-- Both spellings of an entry are read into the same clauses. Operands that are no lists are refused
in every spelling. -/
theorem entryClauses_spelling (enter : List (String × Value) → Except CompileError Where)
    {entry other : String × Value} (spelling : Spelling entry other) (clauses : List Clause) :
    entryClauses enter entry = .ok clauses ↔ entryClauses enter other = .ok clauses := by
  cases spelling with
  | or members =>
    cases members with
    | list items => exact clausesOf_flat_eq_ok_iff enter .flatOr .or rfl rfl rfl _ _ items clauses
    | _ =>
      constructor
      · intro read
        cases read
      · intro read
        cases read
  | and members =>
    cases members with
    | list items => exact clausesOf_flat_eq_ok_iff enter .flatAnd .and rfl rfl rfl _ _ items clauses
    | _ =>
      constructor
      · intro read
        cases read
      · intro read
        cases read
  | not operand =>
    change clausesOf enter .not "not" operand = .ok clauses ↔
      clausesOf enter .not "_not" operand = .ok clauses
    cases operand with
    | list items =>
      simp only [clausesOf, bind_eq_ok_iff, specsOf_eq_ok_iff_of_key enter "not" "_not"]
    | _ => simp only [clausesOf, bind_eq_ok_iff, specOf_eq_ok_iff_of_key enter "not" "_not"]
  | alone entries =>
    change clausesOf enter .not "not" (.map entries) = .ok clauses ↔
      clausesOf enter .not "not" (.list [.map entries]) = .ok clauses
    simp only [clausesOf, List.mapM_cons, List.mapM_nil, bind_assoc, pure_bind]

end Where

namespace FilterSpec

/-- Whether two specifications differ only in how combinators are spelled, in any number of entries
at any depth. The spellings in between need not have distinct keys. -/
def SpelledAlike (spec other : FilterSpec) : Prop :=
  Relation.EqvGen (Where.RewrittenAmong Spelling) spec.entries other.entries

/-- Entries that are spelled alike are read into the same clauses at every limit. The induction is
on the steps between the spellings. -/
theorem ofEntries_spelledAlike (limit levels : Nat) {entries others : List (String × Value)}
    (alike : Relation.EqvGen (Where.RewrittenAmong Spelling) entries others) (clauses : Where) :
    Where.ofEntries limit levels entries = .ok clauses ↔
      Where.ofEntries limit levels others = .ok clauses := by
  induction alike with
  | rel entries others rewritten =>
    constructor
    · intro read
      obtain ⟨_, otherRead, rfl⟩ := Where.ofEntries_rewritten .eq limit
        (fun _ _ _ spelling clauses read =>
          ⟨clauses, (Where.entryClauses_spelling _ spelling clauses).mp read, rfl⟩)
        levels rewritten clauses read
      exact otherRead
    · intro read
      obtain ⟨_, otherRead, rfl⟩ := Where.ofEntries_rewritten .eq limit
        (fun _ _ _ spelling clauses read =>
          ⟨clauses, (Where.entryClauses_spelling _ spelling clauses).mpr read, rfl⟩)
        levels rewritten.reverse clauses read
      exact otherRead
  | refl entries => exact Iff.rfl
  | symm _ _ _ inductionHypothesis => exact inductionHypothesis.symm
  | trans _ _ _ _ _ firstHypothesis secondHypothesis =>
    exact firstHypothesis.trans secondHypothesis

/-- Specifications that differ only in the spelling of combinators have the same normal form at every
nesting limit, or none at all; they compile to the same query with the same warnings, or not at
all. -/
theorem spelledAlike_normalize_alike (spec other : FilterSpec) (alike : spec.SpelledAlike other) :
    (∀ limit clauses, spec.normalize limit = .ok clauses ↔ other.normalize limit = .ok clauses) ∧
      ∀ fields capabilities limit compiled,
        compile spec fields capabilities limit = .ok compiled ↔
          compile other fields capabilities limit = .ok compiled := by
  have normal (limit : Nat) (clauses : Where) :
      spec.normalize limit = .ok clauses ↔ other.normalize limit = .ok clauses :=
    ofEntries_spelledAlike limit limit alike clauses
  refine ⟨normal, fun fields capabilities limit compiled => ?_⟩
  simp only [compile_eq_ok_iff, normal]

/-- A negation inside a disjunction, both spelled differently. -/
theorem spelledAlike_normalize_alike_of_nested :
    let plain := Value.map [(.name "b", .scalar (.int 1))]
    let spec := FilterSpec.ofPairs
      [("_or", .list [.map [(.name "a", .null), (.name "not", plain)]]), ("c", .null)]
    let other := FilterSpec.ofPairs
      [("or", .list [.list [.map [(.name "a", .null), (.name "_not", .list [plain])]]]),
        ("c", .null)]
    spec.SpelledAlike other ∧
      ∃ compiled, compile spec .empty ⟨fun _ => true⟩ 2 = .ok compiled ∧
        compile other .empty ⟨fun _ => true⟩ 2 = .ok compiled := by
  intro plain spec other
  -- The negation is respelled in its place inside the disjunction, and then the disjunction is.
  have inDisjunction (entry respelled : String × Value) (spelling : Spelling entry respelled) :
      Where.RewrittenAmong Spelling
        [("_or", .list [.map [(.name "a", .null), Where.named entry]]), ("c", .null)]
        [("_or", .list [.map [(.name "a", .null), Where.named respelled]]), ("c", .null)] :=
    .intro [] [("c", .null)] (.inside "_or" .flatOr rfl _ (.listed .flatOr rfl [] [])
      [(.name "a", .null)] [] (.here spelling))
  have alike : spec.SpelledAlike other :=
    .trans _ _ _ (.rel _ _ (inDisjunction _ _ (.alone [(.name "b", .scalar (.int 1))])))
      (.trans _ _ _ (.rel _ _ (inDisjunction _ _ (.not (.list [plain]))))
        (.rel _ _ (.intro [] [("c", .null)] (.here (.or _)))))
  have compiles : ∃ compiled, compile spec .empty ⟨fun _ => true⟩ 2 = .ok compiled := ⟨_, rfl⟩
  obtain ⟨compiled, specCompiles⟩ := compiles
  exact ⟨alike, compiled, specCompiles,
    ((spelledAlike_normalize_alike spec other alike).2 .empty ⟨fun _ => true⟩ 2 compiled).mp
      specCompiles⟩

end FilterSpec

end SearchFilter
