import SearchFilter.Proofs.Rewriting
import SearchFilter.Proofs.ValueOrder
import Mathlib.Logic.Relation

/-!
# The order of siblings

The entries of a specification, the sub-specifications in a list, the groups in a list of groups and
the values in a list of values are siblings. At any depth and in any number of places they can stand
in another order: the specification compiles just the same, selects the same documents and raises the
same warnings in some order.
-/

namespace SearchFilter

open Check (bind_eq_ok_iff map_eq_ok_iff)

namespace Query

/-- Whether two lists of queries select the same documents together. -/
def AllAlike (queries others : List Query) : Prop :=
  ∀ document, selectedByAll queries document = selectedByAll others document

/-- Queries select what they select. -/
theorem AllAlike.refl (queries : List Query) : AllAlike queries queries := fun _ => rfl

/-- Queries that select alike in two parts select alike together. -/
theorem AllAlike.append {queries others following otherFollowing : List Query}
    (alike : AllAlike queries others) (followingAlike : AllAlike following otherFollowing) :
    AllAlike (queries ++ following) (others ++ otherFollowing) := by
  intro document
  have first := alike document
  have second := followingAlike document
  simp only [selectedByAll_eq_all] at first second
  simp only [selectedByAll_eq_all, List.all_append, first, second]

/-- Queries in another order select alike together. -/
theorem allAlike_of_perm {queries others : List Query} (permuted : queries.Perm others) :
    AllAlike queries others := by
  intro document
  rw [selectedByAll_eq_all, selectedByAll_eq_all]
  exact permuted.all_eq

/-- Whether two queries select the same documents. -/
def Alike (query other : Query) : Prop := ∀ document, query.selects document = other.selects document

/-- A group selects the same documents if its members do one by one. -/
theorem allAlike_group (connective : Connective) {members others : List Query}
    (each : List.Forall₂ Alike members others) :
    AllAlike [.group connective members] [.group connective others] := by
  intro document
  have results : (members.map fun member => member.selects document) =
      others.map fun member => member.selects document := by
    induction each with
    | nil => rfl
    | cons first _ inductionHypothesis =>
      rw [List.map_cons, List.map_cons, first document, inductionHypothesis]
  have all := congrArg (List.all · id) results
  have any := congrArg (List.any · id) results
  simp only [List.all_map, List.any_map, Function.comp_def, id_eq] at all any
  cases connective <;> simp [all, any]

/-- A group selects the same in every order of its members. -/
theorem allAlike_group_of_perm (connective : Connective) {members others : List Query}
    (permuted : members.Perm others) :
    AllAlike [.group connective members] [.group connective others] := by
  intro document
  cases connective <;> simp [permuted.all_eq, permuted.any_eq]

end Query

namespace Where

open Query (AllAlike)
open Resolve (Setting)

/-! ### Clauses that select the same documents -/

/-- Whether what clauses are built into selects the same documents, with the same warnings up to their
order, wherever the clauses stand. -/
def Alike (clauses others : List Clause) : Prop :=
  ∀ setting depth, Diagnosed.Mirrored AllAlike (clausesQueries setting depth clauses)
    (clausesQueries setting depth others)

/-- Clauses that are alike in two steps are alike. -/
theorem Alike.trans {clauses others following : List Clause} (first : Alike clauses others)
    (second : Alike others following) : Alike clauses following :=
  fun setting depth => (first setting depth).trans (second setting depth)
    fun _ _ _ alike again document => (alike document).trans (again document)

section Building

variable (setting : Setting) (depth : Nat)

/-- The queries of clauses are collected by a traversal, so that the laws of traversals apply. -/
theorem clausesQueries_eq (clauses : List Clause) :
    clausesQueries setting depth clauses =
      List.flatten <$> clauses.mapM (clauseQueries setting depth) := by
  induction clauses with
  | nil => rfl
  | cons clause rest inductionHypothesis =>
    simp only [clausesQueries, inductionHypothesis, List.mapM_cons, map_eq_pure_bind, bind_assoc,
      pure_bind, List.flatten_cons]

/-- The members of a group are collected by a traversal. -/
theorem queries_eq (members : List (List Clause)) :
    queries setting depth members = members.mapM (query setting depth) := by
  induction members with
  | nil => rfl
  | cons member rest inductionHypothesis => rw [queries, inductionHypothesis, List.mapM_cons]

/-- Clauses may be built in two parts, one after the other. -/
theorem clausesQueries_append_eq (clauses others : List Clause) :
    clausesQueries setting depth (clauses ++ others) = (do
      let first ← clausesQueries setting depth clauses
      let second ← clausesQueries setting depth others
      return first ++ second) := by
  simp only [clausesQueries_eq, List.mapM_append, map_eq_pure_bind, bind_assoc, pure_bind,
    List.flatten_append]

/-- One clause is built by itself. -/
theorem clausesQueries_singleton (clause : Clause) :
    clausesQueries setting depth [clause] = clauseQueries setting depth clause := by
  simp only [clausesQueries, pure_bind, List.append_nil, bind_pure]

/-- A group clause gives the group of the queries of its members. -/
theorem groupQueries_eq (connective : Connective) (members : List (List Clause)) :
    clausesQueries setting depth [.group connective members] =
      (fun inner => [.group connective inner]) <$> members.mapM (query setting (depth + 1)) := by
  rw [clausesQueries_singleton, clauseQueries, queries_eq, map_eq_pure_bind]

/-- Whether a query selects what several queries select together. -/
def Conjoins (queries : List Query) (query : Query) : Prop :=
  ∀ document, query.selects document = Query.selectedByAll queries document

/-- Where the queries of clauses are built their conjunction is, with the same warnings. -/
theorem query_mirrors (clauses : List Clause) :
    Diagnosed.Mirrored Conjoins (clausesQueries setting depth clauses)
      (query setting depth clauses) := by
  cases clauses with
  | nil => exact .done (fun _ => rfl) .nil
  | cons clause rest =>
    rw [clausesQueries, query]
    refine (Diagnosed.Mirrored.refl Eq (fun _ => rfl) _).bind fun first _ same => ?_
    subst same
    refine (Diagnosed.Mirrored.refl Eq (fun _ => rfl) _).bind fun others _ same => ?_
    subst same
    exact .done (fun _ => rfl) .nil

/-- Where a conjunction is built the queries in it are, with the same warnings. -/
theorem clausesQueries_mirrors (clauses : List Clause) :
    Diagnosed.Mirrored (flip Conjoins) (query setting depth clauses)
      (clausesQueries setting depth clauses) := by
  cases clauses with
  | nil => exact .done (fun _ => rfl) .nil
  | cons clause rest =>
    rw [clausesQueries, query]
    refine (Diagnosed.Mirrored.refl Eq (fun _ => rfl) _).bind fun first _ same => ?_
    subst same
    refine (Diagnosed.Mirrored.refl Eq (fun _ => rfl) _).bind fun others _ same => ?_
    subst same
    exact .done (fun _ => rfl) .nil

/-- Clauses that are alike build conjunctions that select alike. -/
theorem query_alike {clauses others : List Clause} (alike : Alike clauses others) :
    Diagnosed.Mirrored Query.Alike (query setting depth clauses) (query setting depth others) := by
  have fromClauses : Diagnosed.Mirrored (flip Conjoins) _ _ :=
    (clausesQueries_mirrors setting depth clauses).trans (alike setting depth)
      fun _ _ _ conjoins are document => (conjoins document).trans (are document)
  exact fromClauses.trans (query_mirrors setting depth others)
    fun _ _ _ are conjoins document => (are document).trans (conjoins document).symm

end Building

/-- The assembly of clauses cannot tell clauses apart that select the same documents. -/
theorem Congruence.alike : Congruence Alike where
  refl _ _ _ := Diagnosed.Mirrored.refl AllAlike AllAlike.refl _
  append alike following setting depth := by
    rw [clausesQueries_append_eq, clausesQueries_append_eq]
    exact (alike setting depth).bind fun _ _ first =>
      (following setting depth).bind fun _ _ second => .done (first.append second) .nil
  group connective {members others} each setting depth := by
    rw [groupQueries_eq, groupQueries_eq]
    have inner := Diagnosed.Mirrored.mapM
      (each.imp fun _ _ alike => query_alike setting (depth + 1) alike)
    exact inner.map _ _ fun _ _ => Query.allAlike_group connective

/-- Clauses in another order are alike. -/
theorem alike_of_perm {clauses others : List Clause} (permuted : clauses.Perm others) :
    Alike clauses others := by
  intro setting depth
  rw [clausesQueries_eq, clausesQueries_eq]
  exact (Diagnosed.Mirrored.mapM_perm _ permuted).map _ _ fun _ _ results =>
    Query.allAlike_of_perm results.flatten

/-- A group of sub-specifications in another order is alike. -/
theorem alike_group_of_perm (connective : Connective) {members others : List (List Clause)}
    (permuted : members.Perm others) :
    Alike [.group connective members] [.group connective others] := by
  intro setting depth
  rw [groupQueries_eq, groupQueries_eq]
  exact (Diagnosed.Mirrored.mapM_perm _ permuted).map _ _ fun _ _ =>
    Query.allAlike_group_of_perm connective

/-- A condition selects the same documents in whatever order its lists are. What it is resolved to is
compared by its meaning, because the sets of values in the queries differ. -/
theorem alike_field {field : String} {value other : Value} (reordered : value.Reordered other)
    {shape otherShape : Operand} (shaped : Operand.ofValue field value = .ok shape)
    (otherShaped : Operand.ofValue field other = .ok otherShape)
    (shapes : shape.Reordered otherShape) :
    Alike [.field field shape] [.field field otherShape] := by
  intro setting depth
  rw [clausesQueries_singleton, clausesQueries_singleton, clauseQueries, clauseQueries]
  intro queries warnings done
  obtain ⟨others, raised, otherDone, -, permuted⟩ :=
    Resolve.operand_indifferent setting field (setting.limit - depth) shape otherShape shapes queries
      warnings done
  refine ⟨others, raised, otherDone, fun document => ?_, permuted⟩
  rw [Resolve.operand_faithful setting field _ value shape queries warnings shaped done document,
    Resolve.operand_faithful setting field _ other otherShape others raised otherShaped otherDone
      document]
  exact Meaning.condition_reordered setting.capabilities _ reordered

/-! ### Entries in another order -/

/-- Entries in another order are read into the same clauses in another order. -/
theorem entriesClauses_perm (enter : List (String × Value) → Except CompileError Where)
    {entries others : List (String × Value)} (permuted : entries.Perm others) :
    Check.Mirrored List.Perm (entriesClauses enter entries) (entriesClauses enter others) :=
  (Check.Mirrored.mapM_perm _ permuted).map _ _ fun _ _ parts => parts.flatten

/-- Entries in another order are entered into clauses in another order. -/
theorem entering_perm (limit levels : Nat) {entries others : List (String × Value)}
    (permuted : entries.Perm others) :
    Check.Mirrored List.Perm (entering limit levels entries) (entering limit levels others) := by
  cases levels with
  | zero => exact .of_error _ _
  | succ levels =>
    rw [entering, ofEntries_eq_entriesClauses]
    exact entriesClauses_perm _ permuted

end Where

/-- An entry with the siblings inside its operand in another order. -/
inductive Reordering : String × Value → String × Value → Prop
  /-- The values in a list of the condition on a field. -/
  | values {value other : Value} (key : String) (field : Combinator.ofKey? key = none)
      (reordered : value.Reordered other) : Reordering (key, value) (key, other)
  /-- The sub-specifications in the list of a combinator, or its groups. -/
  | members {items others : List Value} (key : String) (combinator : Combinator)
      (combining : Combinator.ofKey? key = some combinator) (permuted : items.Perm others) :
      Reordering (key, .list items) (key, .list others)
  /-- The sub-specifications in one group. -/
  | group {items others : List Value} (key : String) (combinator : Combinator)
      (combining : Combinator.ofKey? key = some combinator)
      (nested : combinator.takesGroups = true) (before after : List Value)
      (permuted : items.Perm others) :
      Reordering (key, .list (before ++ .list items :: after))
        (key, .list (before ++ .list others :: after))
  /-- The entries of a sub-specification. -/
  | entries {entries others : List (Key × Value)} (key : String) (combinator : Combinator)
      (combining : Combinator.ofKey? key = some combinator) (place : Value → Value)
      (stands : Where.Place combinator place) (permuted : entries.Perm others) :
      Reordering (key, place (.map entries)) (key, place (.map others))

/-- An order of siblings is undone by another one. -/
theorem Reordering.symm {entry other : String × Value} (reordering : Reordering entry other) :
    Reordering other entry := by
  cases reordering with
  | values key field reordered => exact .values key field reordered.symm
  | members key combinator combining permuted =>
    exact .members key combinator combining permuted.symm
  | group key combinator combining nested before after permuted =>
    exact .group key combinator combining nested before after permuted.symm
  | entries key combinator combining place stands permuted =>
    exact .entries key combinator combining place stands permuted.symm

namespace Where

/-- Siblings in another order inside the operand of an entry leave what the entry is read into as it
is, up to clauses that select the same documents. -/
theorem entryClauses_reordering (limit levels : Nat) (entry other : String × Value)
    (reordering : Reordering entry other) :
    Check.Mirrored Alike (entryClauses (entering limit levels) entry)
      (entryClauses (entering limit levels) other) := by
  have specs (key : String) {items others : List Value} (permuted : items.Perm others) :=
    Check.Mirrored.mapM_perm (specOf (entering limit levels) key) permuted
  cases reordering with
  | @values value other key field reordered =>
    simp only [entryClauses, field]
    intro clauses read
    obtain ⟨shape, shaped, last⟩ := (bind_eq_ok_iff _ _ _).mp read
    obtain rfl := (Check.pure_eq_ok_iff _ _).mp last
    obtain ⟨otherShape, otherShaped, shapes⟩ :=
      Operand.ofValue_reordered (pathOf key) reordered shape shaped
    exact ⟨_, (bind_eq_ok_iff _ _ _).mpr ⟨otherShape, otherShaped, rfl⟩,
      alike_field reordered shaped otherShaped shapes⟩
  | members key combinator combining permuted =>
    simp only [entryClauses, combining]
    cases nested : combinator.takesGroups with
    | true =>
      rw [clausesOf_groups _ combinator nested, clausesOf_groups _ combinator nested]
      exact (Check.Mirrored.mapM_perm _ permuted).mono fun _ _ => alike_of_perm
    | false =>
      rw [clausesOf_list _ combinator nested, clausesOf_list _ combinator nested]
      exact (specs key permuted).bind fun _ _ are =>
        .ok (alike_group_of_perm combinator.connective are)
  | group key combinator combining nested before after permuted =>
    simp only [entryClauses, combining]
    refine clausesOf_groups_replaced .alike nested ?_ before after
    exact (specs key permuted).bind fun _ _ are =>
      .ok (alike_group_of_perm combinator.connective are)
  | entries key combinator combining place stands permuted =>
    simp only [entryClauses, combining]
    refine clausesOf_place .alike stands ?_
    exact (Check.Mirrored.mapM_perm (nameEntry key) permuted).bind fun _ _ names =>
      (entering_perm limit levels names).mono fun _ _ => alike_of_perm

end Where

namespace FilterSpec

/-- One reordering of siblings, of the entries themselves or inside one of them at any depth. -/
inductive ReorderedOnce : List (String × Value) → List (String × Value) → Prop
  | entries {entries others : List (String × Value)} (permuted : entries.Perm others) :
      ReorderedOnce entries others
  | inside {entries others : List (String × Value)}
      (rewritten : Where.RewrittenAmong Reordering entries others) : ReorderedOnce entries others

/-- One step of reordering is undone by another one. -/
theorem ReorderedOnce.symm {entries others : List (String × Value)}
    (once : ReorderedOnce entries others) : ReorderedOnce others entries := by
  have swapped : flip Reordering = Reordering :=
    funext₂ fun _ _ => propext ⟨Reordering.symm, Reordering.symm⟩
  cases once with
  | entries permuted => exact .entries permuted.symm
  | inside rewritten => exact .inside (swapped ▸ rewritten.reverse)

/-- Whether two specifications differ only in the order of siblings, at any number of places. -/
def Reordered (spec other : FilterSpec) : Prop :=
  Relation.ReflTransGen ReorderedOnce spec.entries other.entries

/-- Specifications that are reorderings of each other are so both ways. -/
theorem Reordered.symm {spec other : FilterSpec} (reordered : spec.Reordered other) :
    other.Reordered spec := by
  have onceSymm : Std.Symm ReorderedOnce := ⟨fun _ _ => ReorderedOnce.symm⟩
  exact Relation.ReflTransGen.stdSymm.symm _ _ reordered

/-- One step of reordering leads to clauses that are alike, or neither specification is read. -/
theorem ofEntries_reorderedOnce (limit levels : Nat) {entries others : List (String × Value)}
    (once : ReorderedOnce entries others) :
    Check.Mirrored Where.Alike (Where.ofEntries limit levels entries)
      (Where.ofEntries limit levels others) := by
  cases once with
  | entries permuted =>
    rw [Where.ofEntries_eq_entriesClauses]
    exact (Where.entriesClauses_perm _ permuted).mono fun _ _ => Where.alike_of_perm
  | inside rewritten =>
    exact Where.ofEntries_rewritten .alike limit (Where.entryClauses_reordering limit) levels
      rewritten

/-- The induction is on the reorderings one after the other. -/
theorem ofEntries_reordered (limit levels : Nat) {entries others : List (String × Value)}
    (reordered : Relation.ReflTransGen ReorderedOnce entries others) :
    Check.Mirrored Where.Alike (Where.ofEntries limit levels entries)
      (Where.ofEntries limit levels others) := by
  induction reordered with
  | refl => exact .refl Where.Alike Where.Congruence.alike.refl _
  | tail _ once inductionHypothesis =>
    exact inductionHypothesis.trans (ofEntries_reorderedOnce limit levels once)
      fun _ _ _ => Where.Alike.trans

variable (fields : FieldContext) (capabilities : Capabilities) (limit : Nat)

/-- A reordered specification compiles where the given one does, selects the same and warns of the
same in some order. The other direction is this one with the reordering undone. -/
theorem compile_reordered (spec other : FilterSpec) (reordered : spec.Reordered other)
    (compiled : CompiledQuery) (compiles : compile spec fields capabilities limit = .ok compiled) :
    ∃ otherCompiled, compile other fields capabilities limit = .ok otherCompiled ∧
      (∀ document, compiled.root.selects document = otherCompiled.root.selects document) ∧
        compiled.warnings.Perm otherCompiled.warnings := by
  obtain ⟨clauses, read, built⟩ := (compile_eq_ok_iff _ _ _ _ _).mp compiles
  obtain ⟨others, otherRead, alike⟩ := ofEntries_reordered limit limit reordered clauses read
  obtain ⟨root, warnings, otherBuilt, selects, permuted⟩ :=
    Where.query_alike ⟨fields, capabilities, limit⟩ 0 alike _ _ built
  exact ⟨⟨root, warnings⟩, (compile_eq_ok_iff _ _ _ _ _).mpr ⟨others, otherRead, otherBuilt⟩,
    selects, permuted⟩

/-- Specifications that differ only in the order of siblings, at any depth, compile alike: both or
neither does, and the queries select the same documents with the same warnings up to their order. -/
theorem reordered_compile_alike (spec other : FilterSpec) (reordered : spec.Reordered other) :
    ((∃ compiled, compile spec fields capabilities limit = .ok compiled) ↔
        ∃ compiled, compile other fields capabilities limit = .ok compiled) ∧
      ∀ compiled otherCompiled, compile spec fields capabilities limit = .ok compiled →
        compile other fields capabilities limit = .ok otherCompiled →
          (∀ document, compiled.root.selects document = otherCompiled.root.selects document) ∧
            compiled.warnings.Perm otherCompiled.warnings := by
  refine ⟨⟨?_, ?_⟩, fun compiled otherCompiled compiles otherCompiles => ?_⟩
  · rintro ⟨compiled, compiles⟩
    obtain ⟨otherCompiled, otherCompiles, -⟩ :=
      compile_reordered fields capabilities limit spec other reordered compiled compiles
    exact ⟨otherCompiled, otherCompiles⟩
  · rintro ⟨compiled, compiles⟩
    obtain ⟨otherCompiled, otherCompiles, -⟩ :=
      compile_reordered fields capabilities limit other spec reordered.symm compiled compiles
    exact ⟨otherCompiled, otherCompiles⟩
  · obtain ⟨again, againCompiles, alike⟩ :=
      compile_reordered fields capabilities limit spec other reordered compiled compiles
    obtain rfl := Except.ok.inj (againCompiles.symm.trans otherCompiles)
    exact alike

/-- The entries of a sub-specification inside a group, each of which raises a warning, and the values
of a negated list beside it. -/
theorem reordered_compile_alike_of_nested :
    let unanchored (name source : String) : Key × Value := (.name name, .pattern ⟨source, false⟩)
    let values (items : List Value) : Value :=
      .map [(.op .negation, .map [(.op .oneOf, .list items)])]
    let spec := FilterSpec.ofPairs
      [("or", .list [.list [.map [unanchored "a" "x", unanchored "b" "y"]]]),
        ("n", values [.null, .scalar (.int 1)])]
    let other := FilterSpec.ofPairs
      [("n", values [.scalar (.int 1), .null]),
        ("or", .list [.list [.map [unanchored "b" "y", unanchored "a" "x"]]])]
    spec.Reordered other ∧
      ∃ compiled otherCompiled, compile spec .empty ⟨fun _ => true⟩ 2 = .ok compiled ∧
        compile other .empty ⟨fun _ => true⟩ 2 = .ok otherCompiled ∧
          (∀ document, compiled.root.selects document = otherCompiled.root.selects document) ∧
            compiled.warnings.Perm otherCompiled.warnings := by
  intro unanchored values spec other
  have inGroup : ReorderedOnce spec.entries _ :=
    .inside (.intro [] _ (.here (.entries "or" .or rfl _ (.grouped .or rfl [] [] [] [])
      (List.Perm.swap (unanchored "b" "y") (unanchored "a" "x") []))))
  have inList : (values [.null, .scalar (.int 1)]).Reordered (values [.scalar (.int 1), .null]) :=
    .operand .negation rfl [] [] (.operand .oneOf rfl [] [] (.list (.swap _ _ [])))
  have reordered : spec.Reordered other :=
    ((Relation.ReflTransGen.single inGroup).tail
      (.inside (.intro [_] [] (.here (.values "n" rfl inList))))).tail
        (.entries (List.Perm.swap _ _ []))
  have compiles : ∃ compiled, compile spec .empty ⟨fun _ => true⟩ 2 = .ok compiled := ⟨_, rfl⟩
  have alike := reordered_compile_alike .empty ⟨fun _ => true⟩ 2 spec other reordered
  obtain ⟨otherCompiled, otherCompiles⟩ := alike.1.mp compiles
  obtain ⟨compiled, specCompiles⟩ := compiles
  exact ⟨reordered, compiled, otherCompiled, specCompiles, otherCompiles,
    alike.2 compiled otherCompiled specCompiles otherCompiles⟩

end FilterSpec

end SearchFilter
