import SearchFilter.Proofs.Interchange
import SearchFilter.Proofs.TopLevel

/-!
# Conditions inside documents

A condition stands somewhere in a document: as the operand of a field or under negations in its
operator map, in the specification itself or in a sub-specification at any depth. A document is read
entry by entry, so documents that differ in one condition are read into specifications that differ
in the value of that condition, or neither of them is read.
-/

namespace SearchFilter

open Check (Mirrored bind_eq_ok_iff map_eq_ok_iff)

/-- Two lists that differ in one place, where their members are related. -/
inductive Around {α : Type} (related : α → α → Prop) : List α → List α → Prop
  | intro {value other : α} (before after : List α) (are : related value other) :
      Around related (before ++ value :: after) (before ++ other :: after)

/-- A traversal of lists that differ in one place, if the items there are mirrored. -/
theorem Check.Mirrored.mapM_around {α β ε : Type} {related : β → β → Prop}
    {check : α → Except ε β} {item other : α}
    (mirrored : Mirrored related (check item) (check other)) (before after : List α) :
    Mirrored (Around related) ((before ++ item :: after).mapM check)
      ((before ++ other :: after).mapM check) := by
  have unchanged {γ : Type} (given : Except ε γ) : Mirrored Eq given given :=
    .refl Eq (fun _ => rfl) given
  rw [List.mapM_append, List.mapM_append, List.mapM_cons, List.mapM_cons]
  refine (unchanged (before.mapM check)).bind fun earlier _ same => ?_
  subst same
  have rest : Mirrored (Around related)
      (check item >>= fun value => after.mapM check >>= fun later => pure (value :: later))
      (check other >>= fun value => after.mapM check >>= fun later => pure (value :: later)) := by
    refine mirrored.bind fun value result are => ?_
    refine (unchanged (after.mapM check)).bind fun later _ same => ?_
    subst same
    exact .ok (.intro [] later are)
  refine rest.bind fun _ _ around => ?_
  obtain ⟨middle, later, are⟩ := around
  rw [← List.append_assoc, ← List.append_assoc]
  exact .ok (.intro (earlier ++ middle) later are)

namespace FilterSpec

/-! ### Places -/

/-- The places in a condition where another one stands, each as the function that puts one there. -/
inductive ConditionPlace : (Json → Json) → Prop
  | whole : ConditionPlace id
  /-- The operand of a negation, in either spelling, with other operators around it. -/
  | negated {place : Json → Json} (key : String) (negates : key = "$not" ∨ key = "$_not")
      (before after : List (String × Json)) (stands : ConditionPlace place) :
      ConditionPlace fun condition => .object (before ++ (key, place condition) :: after)

/-- The places in the operand of a combinator where a sub-specification stands. -/
inductive MemberPlace : Combinator → (Json → Json) → Prop
  | alone : MemberPlace .not id
  | listed (combinator : Combinator) (flat : combinator.takesGroups = false)
      (before after : List Json) :
      MemberPlace combinator fun member => .array (before ++ member :: after)
  | grouped (combinator : Combinator) (nested : combinator.takesGroups = true)
      (groups others before after : List Json) :
      MemberPlace combinator fun member =>
        .array (groups ++ .array (before ++ member :: after) :: others)

/-- The places under a key of a specification where a condition stands. A key with a dollar sign in
front is no key of a sub-specification. -/
inductive EntryPlace : String → (Json → Json) → Prop
  | field {place : Json → Json} (key : String) (isField : Combinator.ofKey? key = none)
      (stands : ConditionPlace place) : EntryPlace key place
  | inside {member place : Json → Json} (key : String) (combinator : Combinator)
      (combining : Combinator.ofKey? key = some combinator)
      (stands : MemberPlace combinator member) (inner : String) (unmarked : isMarked inner = false)
      (before after : List (String × Json)) (standsInside : EntryPlace inner place) :
      EntryPlace key fun condition => member (.object (before ++ (inner, place condition) :: after))

/-- The places in a document where a condition stands. Its keys are distinct. -/
inductive DocumentPlace : (Json → Json) → Prop
  | entry {place : Json → Json} (key : String) (before after : List (String × Json))
      (distinct : (Entries.keys before ++ key :: Entries.keys after).Nodup)
      (stands : EntryPlace key place) :
      DocumentPlace fun condition => .object (before ++ (key, place condition) :: after)

/-! ### Reading -/

/-- One entry of an object below the top level. -/
def entryOf (field : String) (entry : String × Json) : Except CompileError (Key × Value) := do
  let key ← keyOf entry.1
  let value ← valueOf field entry.2
  return (key, value)

/-- One entry of a specification. -/
def pairOf (entry : String × Json) : Except CompileError (String × Value) := do
  let value ← valueOf entry.1 entry.2
  return (entry.1, value)

/-- The items of a list are read by a traversal, so that the laws of traversals apply. -/
theorem valuesOf_eq_mapM (field : String) (items : List Json) :
    valuesOf field items = items.mapM (valueOf field) := by
  induction items with
  | nil => rfl
  | cons item rest inductionHypothesis => rw [valuesOf, inductionHypothesis, List.mapM_cons]

/-- The members of an object are read by a traversal, every key before its value. -/
theorem entriesOf_eq_mapM (field : String) (entries : List (String × Json)) :
    entriesOf field entries = entries.mapM (entryOf field) := by
  induction entries with
  | nil => rfl
  | cons entry rest inductionHypothesis =>
    rw [entriesOf, inductionHypothesis, List.mapM_cons, entryOf]
    simp only [bind_assoc, pure_bind]

/-- The members of a specification are read by a traversal. Their keys are taken as they are. -/
theorem pairsOf_eq_mapM (entries : List (String × Json)) :
    pairsOf entries = entries.mapM pairOf := by
  induction entries with
  | nil => rfl
  | cons entry rest inductionHypothesis =>
    rw [pairsOf, inductionHypothesis, List.mapM_cons, pairOf]
    simp only [bind_assoc, pure_bind]

/-- An object with a key that names no literal is a map. -/
theorem valueOf_object (field key : String) (item : Json) (before after : List (String × Json))
    (noRange : key ≠ "$range") (noRegex : key ≠ "$regex") :
    valueOf field (.object (before ++ (key, item) :: after)) =
      ((before ++ (key, item) :: after).mapM (entryOf field)).map .map := by
  have noLiteral : literal? field (before ++ (key, item) :: after) = none := by
    have only (name : String) (json : Json)
        (same : before ++ (key, item) :: after = [(name, json)]) : key = name := by
      have member : (key, item) ∈ before ++ (key, item) :: after := by simp
      rw [same, List.mem_singleton] at member
      exact (Prod.mk.inj member).1
    exact literal?_eq_none field (fun json same => noRange (only _ json same))
      fun json same => noRegex (only _ json same)
  rw [valueOf, noLiteral, entriesOf_eq_mapM]

/-- An object without the keys of the two literals is read as a map. -/
theorem valueOf_object_of_names (field : String) (entries : List (String × Json))
    (names : ∀ entry ∈ entries, entry.1 ≠ "$range" ∧ entry.1 ≠ "$regex") :
    valueOf field (.object entries) = (entries.mapM (entryOf field)).map .map := by
  cases entries with
  | nil => rfl
  | cons entry rest =>
    obtain ⟨noRange, noRegex⟩ := names entry List.mem_cons_self
    exact valueOf_object field entry.1 entry.2 [] rest noRange noRegex

/-- A key without a dollar sign is not the key of a literal. -/
theorem ne_literal_of_unmarked {key : String} (unmarked : isMarked key = false) :
    key ≠ "$range" ∧ key ≠ "$regex" := by
  constructor
  · rintro rfl
    exact absurd unmarked (by decide)
  · rintro rfl
    exact absurd unmarked (by decide)

section Reading

variable {condition other : Json} {rule : Value → Value → Prop}
  (read : ∀ field, Mirrored rule (valueOf field condition) (valueOf field other))
include read

/-- Conditions with others under negations are read into operator maps with what these are read
into. -/
theorem valueOf_conditionPlace {place : Json → Json} (stands : ConditionPlace place)
    (field : String) :
    Mirrored (Value.Applied (· = .negation) rule) (valueOf field (place condition))
      (valueOf field (place other)) := by
  induction stands with
  | whole => exact (read field).mono fun _ _ => .here
  | @negated place key negates before after stands inductionHypothesis =>
    have names : key ≠ "$range" ∧ key ≠ "$regex" ∧ keyOf key = .ok (.op .negation) := by
      obtain rfl | rfl := negates <;> exact ⟨by decide, by decide, rfl⟩
    obtain ⟨noRange, noRegex, isNegation⟩ := names
    rw [valueOf_object field key _ before after noRange noRegex,
      valueOf_object field key _ before after noRange noRegex]
    have entry : Mirrored
        (fun given result => ∃ value otherValue, given = (Key.op .negation, value) ∧
          result = (Key.op .negation, otherValue) ∧
            Value.Applied (· = .negation) rule value otherValue)
        (entryOf field (key, place condition)) (entryOf field (key, place other)) := by
      simp only [entryOf, isNegation]
      exact inductionHypothesis.bind fun value result are => .ok ⟨value, result, rfl, rfl, are⟩
    refine (entry.mapM_around before after).map _ _ fun _ _ around => ?_
    obtain ⟨earlier, later, value, otherValue, rfl, rfl, are⟩ := around
    refine .operand .negation ?_ earlier later are
    rfl

omit read in
/-- Documents in the operand of a combinator are read into sub-specifications in its value. -/
theorem valueOf_memberPlace {combinator : Combinator} {member : Json → Json}
    (stands : MemberPlace combinator member) (field : String) {related : Value → Value → Prop}
    {document otherDocument : Json}
    (documents : Mirrored related (valueOf field document) (valueOf field otherDocument)) :
    Mirrored (fun value otherValue => ∃ place given others, Where.Place combinator place ∧
        related given others ∧ value = place given ∧ otherValue = place others)
      (valueOf field (member document)) (valueOf field (member otherDocument)) := by
  have listed (before after : List Json) := documents.mapM_around before after
  cases stands with
  | alone => exact documents.mono fun _ _ are => ⟨id, _, _, .alone, are, rfl, rfl⟩
  | listed _ flat before after =>
    simp only [valueOf, valuesOf_eq_mapM]
    refine (listed before after).map _ _ fun _ _ around => ?_
    obtain ⟨earlier, later, are⟩ := around
    exact ⟨_, _, _, .listed combinator flat earlier later, are, rfl, rfl⟩
  | grouped _ nested groups others before after =>
    have group : Mirrored
        (fun value otherValue => ∃ earlier later given result, related given result ∧
          value = .list (earlier ++ given :: later) ∧
            otherValue = .list (earlier ++ result :: later))
        (valueOf field (.array (before ++ document :: after)))
        (valueOf field (.array (before ++ otherDocument :: after))) := by
      simp only [valueOf, valuesOf_eq_mapM]
      refine (listed before after).map _ _ fun _ _ around => ?_
      obtain ⟨earlier, later, are⟩ := around
      exact ⟨earlier, later, _, _, are, rfl, rfl⟩
    rw [valueOf, valueOf, valuesOf_eq_mapM, valuesOf_eq_mapM]
    refine (group.mapM_around groups others).map _ _ fun _ _ around => ?_
    obtain ⟨ahead, behind, earlier, later, given, result, are, rfl, rfl⟩ := around
    exact ⟨_, _, _, .grouped combinator nested ahead behind earlier later, are, rfl, rfl⟩

/-- Documents with a condition under a key are read into values to which the rule of the condition
is applied at some depth. The induction is on the documents around the condition. -/
theorem valueOf_entryPlace {key : String} {place : Json → Json} (stands : EntryPlace key place)
    (field : String) :
    Mirrored (fun value otherValue =>
        Where.Rewritten (Where.AtField (Value.Applied (· = .negation) rule)) (key, value)
          (key, otherValue))
      (valueOf field (place condition)) (valueOf field (place other)) := by
  induction stands with
  | field key isField stands =>
    exact (valueOf_conditionPlace read stands field).mono fun _ _ applied =>
      .here (.intro key isField applied)
  | @inside member place key combinator combining stands inner unmarked before after _
      inductionHypothesis =>
    -- An object with the key of a combinator is no literal, so it is read member by member.
    obtain ⟨noRange, noRegex⟩ := ne_literal_of_unmarked unmarked
    have entry : Mirrored
        (fun given result => ∃ entry otherEntry, given = Where.named entry ∧
          result = Where.named otherEntry ∧
            Where.Rewritten (Where.AtField (Value.Applied (· = .negation) rule)) entry otherEntry)
        (entryOf field (inner, place condition)) (entryOf field (inner, place other)) := by
      simp only [entryOf, keyOf_of_unmarked inner unmarked]
      exact inductionHypothesis.bind fun value result are =>
        .ok ⟨(inner, value), (inner, result), rfl, rfl, are⟩
    have documents : Mirrored
        (fun given result => ∃ earlier later entry otherEntry,
          given = .map (earlier ++ Where.named entry :: later) ∧
            result = .map (earlier ++ Where.named otherEntry :: later) ∧
              Where.Rewritten (Where.AtField (Value.Applied (· = .negation) rule)) entry otherEntry)
        (valueOf field (.object (before ++ (inner, place condition) :: after)))
        (valueOf field (.object (before ++ (inner, place other) :: after))) := by
      rw [valueOf_object field inner _ before after noRange noRegex,
        valueOf_object field inner _ before after noRange noRegex]
      refine (entry.mapM_around before after).map _ _ fun _ _ around => ?_
      obtain ⟨earlier, later, entry, otherEntry, rfl, rfl, rewritten⟩ := around
      exact ⟨earlier, later, entry, otherEntry, rfl, rfl, rewritten⟩
    refine (valueOf_memberPlace stands field documents).mono ?_
    rintro _ _ ⟨valuePlace, _, _, standsThere, ⟨earlier, later, entry, otherEntry, rfl, rfl,
      rewritten⟩, rfl, rfl⟩
    exact .inside key combinator combining valuePlace standsThere earlier later rewritten

/-- Documents that differ in one condition are read into specifications that differ in the value of
that condition. The cases are the places where a condition can stand. -/
theorem ofJson_documentPlace {place : Json → Json} (stands : DocumentPlace place) :
    Mirrored (fun spec otherSpec =>
        Where.RewrittenAmong (Where.AtField (Value.Applied (· = .negation) rule))
          spec.entries otherSpec.entries)
      (ofJson (place condition)) (ofJson (place other)) := by
  obtain @⟨place, key, before, after, distinct, stands⟩ := stands
  have pair : Mirrored (Where.Rewritten (Where.AtField (Value.Applied (· = .negation) rule)))
      (pairOf (key, place condition)) (pairOf (key, place other)) :=
    (valueOf_entryPlace read stands key).bind fun _ _ rewritten => .ok rewritten
  intro spec specRead
  obtain ⟨pairs, pairsRead, rfl⟩ := (map_eq_ok_iff _ _ _).mp specRead
  have keys := keys_of_pairsOf _ _ pairsRead
  rw [pairsOf_eq_mapM] at pairsRead
  obtain ⟨others, othersRead, around⟩ := pair.mapM_around before after pairs pairsRead
  refine ⟨_, (map_eq_ok_iff _ _ _).mpr ⟨others, (pairsOf_eq_mapM _).trans othersRead, rfl⟩, ?_⟩
  have otherKeys := keys_of_pairsOf _ _ ((pairsOf_eq_mapM _).trans othersRead)
  have kept {given : List (String × Value)} {item : Json}
      (same : Entries.keys given = Entries.keys (before ++ (key, item) :: after)) :
      (ofPairs given).entries = given := by
    apply Entries.ofPairs_of_nodup
    rw [same]
    simpa [Entries.keys] using distinct
  change Where.RewrittenAmong _ (ofPairs pairs).entries (ofPairs others).entries
  rw [kept keys, kept otherKeys]
  obtain ⟨earlier, later, rewritten⟩ := around
  exact .intro earlier later rewritten

/-- A document compiles to a related query, with the same warnings, if it differs in one condition
from another one that compiles, and the values of the two conditions can be exchanged. -/
theorem compileJson_exchanged {related : List Query → List Query → Prop}
    (compatible : Query.Compatible related)
    (exchanged : ∀ value otherValue, rule value otherValue → value.Exchanged related otherValue)
    {place : Json → Json} (stands : DocumentPlace place) (fields : FieldContext)
    (capabilities : Capabilities) (limit : Nat) (compiled : CompiledQuery)
    (compiles : compileJson (place condition) fields capabilities limit = .ok compiled) :
    ∃ root, compileJson (place other) fields capabilities limit = .ok ⟨root, compiled.warnings⟩ ∧
      related [compiled.root] [root] := by
  obtain ⟨spec, specRead, specCompiles⟩ := (bind_eq_ok_iff _ _ _).mp compiles
  obtain ⟨otherSpec, otherRead, rewritten⟩ := ofJson_documentPlace read stands spec specRead
  have notOnPlaces (op : Operator) (negates : op = .negation) : op.isGeo = false := by
    rw [negates]
    rfl
  have normalized : Mirrored (Where.Exchanged related) (spec.normalize limit)
      (otherSpec.normalize limit) :=
    Where.ofEntries_exchanged compatible
      (fun _ _ applied => applied.exchanged compatible exchanged notOnPlaces
        fun _ negates notNegation => absurd negates notNegation) limit limit rewritten
  obtain ⟨root, built, are⟩ := Where.query_exchanged compatible normalized
    ((compile_eq_ok_iff _ _ _ _ _).mp specCompiles)
  have otherCompiles : compile otherSpec fields capabilities limit =
      .ok ⟨root, compiled.warnings⟩ := (compile_eq_ok_iff _ _ _ _ _).mpr built
  exact ⟨root, (bind_eq_ok_iff _ _ _).mpr ⟨otherSpec, otherRead, otherCompiles⟩, are⟩

end Reading

end FilterSpec

end SearchFilter
