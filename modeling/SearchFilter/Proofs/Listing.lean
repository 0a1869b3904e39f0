import SearchFilter.Proofs.Easing

/-!
# A specification alone in a list

A whole specification can stand alone in the flat list of a combinator. It is read there one level
further down, and compiles to its query in a group under the connective. One more level is enough for
it.
-/

namespace SearchFilter.FilterSpec

open Check (bind_eq_ok_iff map_eq_ok_iff mapM_eq_ok_iff)

/-- The specification that has another one alone in the list under a key. -/
def listed (key : String) (spec : FilterSpec) : FilterSpec := .ofPairs [(key, .list [spec.toValue])]

/-- Entries taken as entries of a map have plain names, so the map is read as a sub-specification
with the same entries. -/
theorem names_of_named (key : String) (entries : List (String × Value)) :
    (entries.map Where.named).mapM (Where.nameEntry key) = .ok entries :=
  Check.mapM_map_eq_ok (Where.nameEntry key) Where.named (fun _ => rfl) entries

variable (spec : FilterSpec) (key : String) (combinator : Combinator)
  (combining : Combinator.ofKey? key = some combinator) (flat : combinator.takesGroups = false)
include combining flat

/-- A listed specification is read as a group of what the specification is read as one level further
down. -/
theorem normalize_listed_eq_ok_iff (limit : Nat) (clauses : Where) :
    (spec.listed key).normalize limit = .ok clauses ↔
      ∃ levels inner, limit = levels + 1 ∧ Where.ofEntries limit levels spec.entries = .ok inner ∧
        clauses = [.group combinator.connective [inner]] := by
  have read (enter : List (String × Value) → Except CompileError Where) :
      Where.entriesClauses enter [(key, .list [spec.toValue])] = .ok clauses ↔
        ∃ inner, enter spec.entries = .ok inner ∧
          clauses = [.group combinator.connective [inner]] := by
    have given : spec.toValue = .map (spec.entries.map Where.named) := rfl
    simp only [Where.entriesClauses, map_eq_ok_iff, mapM_eq_ok_iff, List.forall₂_cons_left_iff,
      List.forall₂_nil_left_iff, Where.entryClauses, combining, given,
      Where.clausesOf_list enter combinator flat, Where.specOf, names_of_named, bind_eq_ok_iff,
      Check.pure_eq_ok_iff, Except.ok.injEq]
    constructor
    · rintro ⟨parts, ⟨part, _, ⟨_, ⟨inner, _, ⟨_, rfl, entered⟩, rfl, rfl⟩, rfl⟩, rfl, rfl⟩, rfl⟩
      exact ⟨inner, entered, rfl⟩
    · rintro ⟨inner, entered, rfl⟩
      exact ⟨_, ⟨_, _, ⟨_, ⟨inner, _, ⟨_, rfl, entered⟩, rfl, rfl⟩, rfl⟩, rfl, rfl⟩, rfl⟩
  cases limit with
  | zero =>
    refine (read _).trans ⟨?_, ?_⟩
    · rintro ⟨inner, entered, -⟩
      cases entered
    · rintro ⟨levels, inner, none, -⟩
      cases none
  | succ levels =>
    refine (read _).trans ⟨?_, ?_⟩
    · rintro ⟨inner, entered, rfl⟩
      exact ⟨levels, inner, rfl, entered, rfl⟩
    · rintro ⟨_, inner, same, entered, rfl⟩
      obtain rfl := Nat.succ.inj same
      exact ⟨inner, entered, rfl⟩

variable (fields : FieldContext) (capabilities : Capabilities)

/-- A listed specification compiles to the group of the query one level further down. -/
theorem compile_listed_eq_ok_iff (limit : Nat) (compiled : CompiledQuery) :
    compile (spec.listed key) fields capabilities limit = .ok compiled ↔
      ∃ levels inner query, limit = levels + 1 ∧
        Where.ofEntries limit levels spec.entries = .ok inner ∧
        Where.query ⟨fields, capabilities, limit⟩ 1 inner = .done query compiled.warnings ∧
        compiled.root = .group .and [.group combinator.connective [query]] := by
  have built (inner : List Clause) (root : Query) (warnings : List Warning) :
      Where.query ⟨fields, capabilities, limit⟩ 0 [.group combinator.connective [inner]] =
          .done root warnings ↔
        ∃ query, Where.query ⟨fields, capabilities, limit⟩ 1 inner = .done query warnings ∧
          root = .group .and [.group combinator.connective [query]] := by
    rw [Where.query, Where.clauseQueries, Where.clausesQueries, Where.queries, Where.queries]
    simp only [bind_assoc, pure_bind, List.append_nil]
    rw [← map_eq_pure_bind, Diagnosed.map_eq_done_iff]
    simp only [eq_comm]
  rw [compile_eq_ok_iff]
  constructor
  · rintro ⟨clauses, read, done⟩
    obtain ⟨levels, inner, rest, entered, rfl⟩ :=
      (normalize_listed_eq_ok_iff spec key combinator combining flat limit clauses).mp read
    obtain ⟨query, queryDone, root⟩ := (built inner _ _).mp done
    exact ⟨levels, inner, query, rest, entered, queryDone, root⟩
  · rintro ⟨levels, inner, query, rest, entered, queryDone, root⟩
    exact ⟨_, (normalize_listed_eq_ok_iff spec key combinator combining flat limit _).mpr
      ⟨levels, inner, rest, entered, rfl⟩, (built inner _ _).mpr ⟨query, queryDone, root⟩⟩

/-- One more level is enough to list a specification. -/
theorem compile_listed (limit : Nat) (given : CompiledQuery)
    (compiles : compile spec fields capabilities limit = .ok given) :
    compile (spec.listed key) fields capabilities (limit + 1) =
      .ok ⟨.group .and [.group combinator.connective [given.root]], given.warnings⟩ := by
  obtain ⟨clauses, read, built⟩ := (compile_eq_ok_iff _ _ _ _ _).mp compiles
  refine (compile_listed_eq_ok_iff spec key combinator combining flat fields capabilities
    (limit + 1) _).mpr ⟨limit, clauses, given.root, rfl, ?_, ?_, rfl⟩
  · exact Where.ofEntries_persists limit (limit + 1) limit limit (Nat.le_refl limit) spec.entries
      clauses read
  · exact Where.query_persists _ _ (.of_limit fields capabilities limit (limit + 1)) 0 1
      (Nat.le_refl limit) clauses (fun _ _ _ => Nat.le_succ limit) given.root given.warnings built

/-- A specification that compiles in a list compiles alone at the same limit, to the query in the
list. -/
theorem compile_of_compile_listed (limit : Nat) (compiled : CompiledQuery)
    (compiles : compile (spec.listed key) fields capabilities limit = .ok compiled) :
    ∃ given, compile spec fields capabilities limit = .ok given ∧
      compiled = ⟨.group .and [.group combinator.connective [given.root]], given.warnings⟩ := by
  obtain ⟨levels, inner, query, rfl, entered, built, root⟩ := (compile_listed_eq_ok_iff spec key
    combinator combining flat fields capabilities limit compiled).mp compiles
  refine ⟨⟨query, compiled.warnings⟩, (compile_eq_ok_iff _ _ _ _ _).mpr ⟨inner, ?_, ?_⟩,
    congrArg (CompiledQuery.mk · compiled.warnings) root⟩
  · exact Where.ofEntries_persists _ _ levels (levels + 1) (Nat.le_succ levels) spec.entries inner
      entered
  · exact Where.query_persists _ _ (.of_limit _ _ _ _) 1 0 (Nat.sub_le _ _) inner
      (fun _ _ _ => Nat.le_refl _) query compiled.warnings built

/-- Where no shape is asked for, a specification that compiles in a list compiles alone with one level
less. The levels of coordinates are the only ones that a list does not take up. -/
theorem compile_of_compile_listed_of_shapeless (shapeless : ¬spec.Asks .geoShape) (limit : Nat)
    (compiled : CompiledQuery)
    (compiles : compile (spec.listed key) fields capabilities (limit + 1) = .ok compiled) :
    ∃ given, compile spec fields capabilities limit = .ok given := by
  obtain ⟨levels, inner, query, same, entered, built, -⟩ := (compile_listed_eq_ok_iff spec key
    combinator combining flat fields capabilities (limit + 1) compiled).mp compiles
  obtain rfl := Nat.succ.inj same
  have none (clause : Clause) (stands : clause ∈ inner) (asks : clause.Asks .geoShape) :
      limit + 1 ≤ limit :=
    absurd (Where.ofEntries_tells .geoShape _ limit spec.entries inner entered clause stands asks)
      shapeless
  refine ⟨⟨query, compiled.warnings⟩, (compile_eq_ok_iff _ _ _ _ _).mpr ⟨inner, ?_, ?_⟩⟩
  · exact Where.ofEntries_persists _ _ limit limit (Nat.le_refl limit) spec.entries inner entered
  · exact Where.query_persists _ _ (.of_limit fields capabilities (limit + 1) limit) 1 0
      (Nat.le_refl limit) inner none query compiled.warnings built

end SearchFilter.FilterSpec
