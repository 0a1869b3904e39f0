import SearchFilter.Compile
import SearchFilter.Proofs.OperandMeaning

/-!
# Specifications compile to what they mean

The second half of the compiler: entries are read into clauses, and clauses are built into queries.
Each reading step is paired here with the building step for what it has read, and both together with
the meaning of the value that was read. The pairing never mentions how deep a clause stands or how
many levels may still be entered, so that one induction on these levels closes the whole walk.
-/

namespace SearchFilter

namespace Where

open Check (bind_eq_ok_iff map_eq_ok_iff mapM_eq_ok_iff)
open Resolve (Setting)

/-- The entry of a specification as it stands in a value. -/
def named (entry : String × Value) : Key × Value := (.name entry.1, entry.2)

/-- A map is read as a sub-specification exactly when all of its keys are plain names. -/
theorem names_eq_ok (key : String) (given : List (Key × Value)) (entries : List (String × Value))
    (read : given.mapM (nameEntry key) = .ok entries) : given = entries.map named := by
  refine Check.eq_map_of_mapM_eq_ok (nameEntry key) named (fun pair entry accepted => ?_) given
    entries read
  obtain ⟨key, value⟩ := pair
  cases key with
  | name text => exact (Except.ok.inj accepted) ▸ rfl
  | op op => cases accepted

/-- Whether sub-specifications under a connective hold as it asks. -/
def grouped (capabilities : Capabilities) (document : Json) (connective : Connective)
    (items : List Value) : Bool :=
  match connective with
  | .and => Meaning.allHold capabilities document items
  | .or => Meaning.anyHolds capabilities document items
  | .not => !Meaning.anyHolds capabilities document items

section Building

variable (setting : Setting) (depth : Nat) (document : Json)

/-- A specification is the conjunction of the queries of its clauses. -/
theorem query_eq_done (clauses : List Clause) (query : Query) (warnings : List Warning)
    (done : Where.query setting depth clauses = .done query warnings) :
    ∃ queries, clausesQueries setting depth clauses = .done queries warnings ∧
      query.selects document = Query.selectedByAll queries document := by
  cases clauses with
  | nil =>
    rw [Where.query] at done
    obtain ⟨rfl, rfl⟩ := (Diagnosed.pure_eq_done_iff _ _ _).mp done
    refine ⟨[], ?_, rfl⟩
    rw [clausesQueries, Diagnosed.pure_eq]
  | cons clause rest =>
    rw [Where.query] at done
    obtain ⟨first, earlier, _, firstDone, remaining, rfl⟩ :=
      (Diagnosed.bind_eq_done_iff _ _ _ _).mp done
    obtain ⟨others, later, _, othersDone, last, rfl⟩ :=
      (Diagnosed.bind_eq_done_iff _ _ _ _).mp remaining
    obtain ⟨rfl, rfl⟩ := (Diagnosed.pure_eq_done_iff _ _ _).mp last
    refine ⟨first ++ others, ?_, rfl⟩
    rw [clausesQueries, firstDone, Diagnosed.done_bind, othersDone]
    rfl

/-- Clauses from two sources are built one after the other. -/
theorem clausesQueries_append (clauses others : List Clause) (queries : List Query)
    (warnings : List Warning)
    (done : clausesQueries setting depth (clauses ++ others) = .done queries warnings) :
    ∃ first earlier second later, clausesQueries setting depth clauses = .done first earlier ∧
      clausesQueries setting depth others = .done second later ∧ queries = first ++ second ∧
        warnings = earlier ++ later := by
  induction clauses generalizing queries warnings with
  | nil =>
    refine ⟨[], [], queries, warnings, ?_, done, rfl, rfl⟩
    rw [clausesQueries, Diagnosed.pure_eq]
  | cons clause rest inductionHypothesis =>
    rw [List.cons_append, clausesQueries] at done
    obtain ⟨built, raised, _, builtDone, remaining, rfl⟩ :=
      (Diagnosed.bind_eq_done_iff _ _ _ _).mp done
    obtain ⟨following, raisedAfter, _, followingDone, last, rfl⟩ :=
      (Diagnosed.bind_eq_done_iff _ _ _ _).mp remaining
    obtain ⟨rfl, rfl⟩ := (Diagnosed.pure_eq_done_iff _ _ _).mp last
    obtain ⟨first, earlier, second, later, firstDone, secondDone, rfl, rfl⟩ :=
      inductionHypothesis following raisedAfter followingDone
    refine ⟨built ++ first, raised ++ earlier, second, later, ?_, secondDone, by simp, by simp⟩
    rw [clausesQueries, builtDone, Diagnosed.done_bind, firstDone]
    simp [Diagnosed.done_bind]

/-- A single clause is built as the list of it. -/
theorem clauseQueries_of_singleton (clause : Clause) (queries : List Query)
    (warnings : List Warning)
    (done : clausesQueries setting depth [clause] = .done queries warnings) :
    clauseQueries setting depth clause = .done queries warnings := by
  rw [clausesQueries] at done
  obtain ⟨built, raised, _, builtDone, remaining, rfl⟩ :=
    (Diagnosed.bind_eq_done_iff _ _ _ _).mp done
  rw [clausesQueries] at remaining
  obtain ⟨rfl, rfl⟩ := (Diagnosed.pure_eq_done_iff _ _ _).mp remaining
  rw [builtDone]
  simp

/-- A group clause gives one group of the queries of its members. -/
theorem groupQueries_eq_done (connective : Connective) (members : List (List Clause))
    (queries : List Query) (warnings : List Warning)
    (done : clauseQueries setting depth (.group connective members) = .done queries warnings) :
    ∃ inner, Where.queries setting (depth + 1) members = .done inner warnings ∧
      queries = [.group connective inner] := by
  rw [clauseQueries] at done
  obtain ⟨inner, earlier, _, innerDone, last, rfl⟩ := (Diagnosed.bind_eq_done_iff _ _ _ _).mp done
  obtain ⟨rfl, rfl⟩ := (Diagnosed.pure_eq_done_iff _ _ _).mp last
  exact ⟨inner, by simpa using innerDone, rfl⟩

/-- Whether entries are read into clauses whose queries mean the same. -/
def Sound (enter : List (String × Value) → Except CompileError Where) : Prop :=
  ∀ entries clauses, enter entries = .ok clauses → ∀ depth queries warnings,
    clausesQueries setting depth clauses = .done queries warnings →
      Query.selectedByAll queries document =
        Meaning.allEntries setting.capabilities document (entries.map named)

variable (enter : List (String × Value) → Except CompileError Where)

/-- A sub-specification means what its query selects. -/
theorem selects_specOf (sound : Sound setting document enter) (key : String) (value : Value)
    (clauses : List Clause) (read : specOf enter key value = .ok clauses) (query : Query)
    (warnings : List Warning) (done : Where.query setting depth clauses = .done query warnings) :
    query.selects document = Meaning.specification setting.capabilities document value := by
  cases value with
  | map given =>
    obtain ⟨entries, keysRead, entered⟩ := (bind_eq_ok_iff _ _ _).mp read
    obtain ⟨queries, built, selects⟩ := query_eq_done setting depth document clauses query _ done
    rw [names_eq_ok key given entries keysRead, Meaning.specification, selects]
    exact sound entries clauses entered depth queries warnings built
  | _ => cases read

/-- All, or some, of several sub-specifications hold exactly when their queries select. -/
theorem selected_specsOf (sound : Sound setting document enter) (key : String) (items : List Value)
    (members : List (List Clause)) (read : items.mapM (specOf enter key) = .ok members)
    (inner : List Query) (warnings : List Warning)
    (done : Where.queries setting depth members = .done inner warnings) :
    (inner.all fun query => query.selects document) =
        Meaning.allHold setting.capabilities document items ∧
      (inner.any fun query => query.selects document) =
        Meaning.anyHolds setting.capabilities document items := by
  have pointwise := (mapM_eq_ok_iff _ _ _).mp read
  clear read
  induction pointwise generalizing inner warnings with
  | nil =>
    rw [Where.queries] at done
    obtain ⟨rfl, -⟩ := (Diagnosed.pure_eq_done_iff _ _ _).mp done
    exact ⟨rfl, rfl⟩
  | @cons item member items members first _ inductionHypothesis =>
    rw [Where.queries] at done
    obtain ⟨query, earlier, _, queryDone, remaining, -⟩ :=
      (Diagnosed.bind_eq_done_iff _ _ _ _).mp done
    obtain ⟨others, later, _, othersDone, last, -⟩ :=
      (Diagnosed.bind_eq_done_iff _ _ _ _).mp remaining
    obtain ⟨rfl, -⟩ := (Diagnosed.pure_eq_done_iff _ _ _).mp last
    obtain ⟨all, any⟩ := inductionHypothesis others later othersDone
    have selects := selects_specOf setting depth document enter sound key item member first query
      earlier queryDone
    constructor
    · rw [List.all_cons, all, selects, Meaning.allHold]
    · rw [List.any_cons, any, selects, Meaning.anyHolds]

/-- A list of sub-specifications under a connective means what the group of their queries
selects. -/
theorem selected_group (sound : Sound setting document enter) (key : String)
    (connective : Connective) (items : List Value) (members : List (List Clause))
    (read : items.mapM (specOf enter key) = .ok members) (queries : List Query)
    (warnings : List Warning)
    (done : clauseQueries setting depth (.group connective members) = .done queries warnings) :
    Query.selectedByAll queries document =
      grouped setting.capabilities document connective items := by
  obtain ⟨inner, innerDone, rfl⟩ := groupQueries_eq_done setting depth _ _ _ _ done
  obtain ⟨all, any⟩ := selected_specsOf setting (depth + 1) document enter sound key items members
    read inner warnings innerDone
  rw [Resolve.selected_singleton]
  cases connective with
  | and => rw [Query.selects_and, all, grouped]
  | or => rw [Query.selects_or, any, grouped]
  | not => rw [Query.selects_not, any, grouped]

/-- A list of groups gives one clause for each, all of which have to hold. -/
theorem selected_groups (sound : Sound setting document enter) (key : String)
    (connective : Connective) (positive : connective ≠ .not) (groups : List Value)
    (clauses : List Clause) (read : groups.mapM (groupOf enter key connective) = .ok clauses)
    (queries : List Query) (warnings : List Warning)
    (done : clausesQueries setting depth clauses = .done queries warnings) :
    Query.selectedByAll queries document =
      Meaning.everyGroup setting.capabilities document connective groups := by
  have pointwise := (mapM_eq_ok_iff _ _ _).mp read
  clear read
  -- The induction is on the groups beside the clauses they are read into, since both lists shrink
  -- together.
  induction pointwise generalizing queries warnings with
  | nil =>
    rw [clausesQueries] at done
    obtain ⟨rfl, -⟩ := (Diagnosed.pure_eq_done_iff _ _ _).mp done
    rfl
  | @cons value clause groups clauses first _ inductionHypothesis =>
    rw [clausesQueries] at done
    obtain ⟨built, earlier, _, builtDone, remaining, -⟩ :=
      (Diagnosed.bind_eq_done_iff _ _ _ _).mp done
    obtain ⟨others, later, _, othersDone, last, -⟩ :=
      (Diagnosed.bind_eq_done_iff _ _ _ _).mp remaining
    obtain ⟨rfl, -⟩ := (Diagnosed.pure_eq_done_iff _ _ _).mp last
    have rest := inductionHypothesis others later othersDone
    cases value with
    | list items =>
      obtain ⟨members, membersRead, grouped⟩ := (bind_eq_ok_iff _ _ _).mp first
      obtain rfl := (Check.pure_eq_ok_iff _ _).mp grouped
      have group := selected_group setting depth document enter sound key connective items members
        membersRead built earlier builtDone
      rw [Query.selectedByAll_eq_all] at rest group ⊢
      rw [List.all_append, rest, group, Meaning.everyGroup]
      cases connective with
      | and => rfl
      | or => rfl
      | not => exact absurd rfl positive
    | _ => cases first

/-- The clauses of a combinator mean what the combinator asks of its sub-specifications, in each of
its spellings. -/
theorem selected_clausesOf (sound : Sound setting document enter) (combinator : Combinator)
    (key : String) (value : Value) (clauses : List Clause)
    (read : clausesOf enter combinator key value = .ok clauses) (queries : List Query)
    (warnings : List Warning)
    (done : clausesQueries setting depth clauses = .done queries warnings) :
    Query.selectedByAll queries document =
      Meaning.combination setting.capabilities document combinator value := by
  -- The spellings without groups come to one clause, a group with all sub-specifications.
  have listed (connective : Connective) (items : List Value) (members : List (List Clause))
      (membersRead : items.mapM (specOf enter key) = .ok members)
      (single : clauses = [.group connective members]) :
      Query.selectedByAll queries document =
        grouped setting.capabilities document connective items := by
    subst single
    exact selected_group setting depth document enter sound key connective items members
      membersRead queries warnings (clauseQueries_of_singleton setting depth _ _ _ done)
  cases combinator with
  | and =>
    cases value with
    | list groups =>
      exact selected_groups setting depth document enter sound key .and (by decide) groups clauses
        read queries warnings done
    | _ => cases read
  | or =>
    cases value with
    | list groups =>
      exact selected_groups setting depth document enter sound key .or (by decide) groups clauses
        read queries warnings done
    | _ => cases read
  | flatAnd =>
    cases value with
    | list items =>
      obtain ⟨members, membersRead, last⟩ := (bind_eq_ok_iff _ _ _).mp read
      exact listed .and items members membersRead ((Check.pure_eq_ok_iff _ _).mp last).symm
    | _ => cases read
  | flatOr =>
    cases value with
    | list items =>
      obtain ⟨members, membersRead, last⟩ := (bind_eq_ok_iff _ _ _).mp read
      exact listed .or items members membersRead ((Check.pure_eq_ok_iff _ _).mp last).symm
    | _ => cases read
  | not =>
    cases value with
    | list items =>
      obtain ⟨members, membersRead, last⟩ := (bind_eq_ok_iff _ _ _).mp read
      exact listed .not items members membersRead ((Check.pure_eq_ok_iff _ _).mp last).symm
    | map entries =>
      -- One sub-specification alone is negated as the list of it.
      obtain ⟨member, memberRead, last⟩ := (bind_eq_ok_iff _ _ _).mp read
      rw [listed .not [.map entries] [member] ((mapM_eq_ok_iff _ _ _).mpr (.cons memberRead .nil))
        ((Check.pure_eq_ok_iff _ _).mp last).symm]
      simp [grouped, Meaning.anyHolds, Meaning.specification, Meaning.combination]
    | _ => cases read

/-- The clauses of an entry mean what the entry asks. -/
theorem selected_entry (sound : Sound setting document enter) (entry : String × Value)
    (clauses : List Clause) (read : entryClauses enter entry = .ok clauses) (queries : List Query)
    (warnings : List Warning)
    (done : clausesQueries setting depth clauses = .done queries warnings) :
    Query.selectedByAll queries document =
      Meaning.allEntries setting.capabilities document [named entry] := by
  obtain ⟨key, value⟩ := entry
  simp only [named, Meaning.allEntries, Key.text, Bool.and_true]
  cases combining : Combinator.ofKey? key with
  | some combinator =>
    simp only [entryClauses, combining] at read
    exact selected_clausesOf setting depth document enter sound combinator key value clauses read
      queries warnings done
  | none =>
    simp only [entryClauses, combining] at read
    obtain ⟨operand, shaped, last⟩ := (bind_eq_ok_iff _ _ _).mp read
    obtain rfl := (Check.pure_eq_ok_iff _ _).mp last
    have resolved := clauseQueries_of_singleton setting depth _ _ _ done
    rw [clauseQueries] at resolved
    exact Resolve.operand_faithful setting (pathOf key) (setting.limit - depth) value operand
      queries warnings shaped resolved document

/-- Entries mean what their clauses select, all of which have to hold. -/
theorem entriesClauses_sound (sound : Sound setting document enter) :
    Sound setting document (entriesClauses enter) := by
  intro entries clauses read depth queries warnings done
  obtain ⟨parts, partsRead, rfl⟩ := (map_eq_ok_iff _ _ _).mp read
  have pointwise := (mapM_eq_ok_iff _ _ _).mp partsRead
  clear read partsRead
  induction pointwise generalizing queries warnings with
  | nil =>
    rw [List.flatten_nil, clausesQueries] at done
    obtain ⟨rfl, -⟩ := (Diagnosed.pure_eq_done_iff _ _ _).mp done
    rfl
  | @cons entry part entries parts first _ inductionHypothesis =>
    rw [List.flatten_cons] at done
    obtain ⟨built, earlier, others, later, builtDone, othersDone, rfl, -⟩ :=
      clausesQueries_append setting depth _ _ _ _ done
    have rest := inductionHypothesis others later othersDone
    have head := selected_entry setting depth document enter sound entry part first built earlier
      builtDone
    rw [Query.selectedByAll_eq_all] at head rest ⊢
    rw [List.all_append, head, rest]
    simp [named, Meaning.allEntries]

omit setting document in
/-- What holds where no sub-specification may be entered and is kept by every level of them holds of
the reader under any limit. -/
theorem ofEntries_of_levels (limit : Nat)
    (kept : (List (String × Value) → Except CompileError Where) → Prop)
    (refused : kept fun _ => .error (.depthLimitExceeded limit))
    (level : ∀ enter, kept enter → kept (entriesClauses enter)) (levels : Nat) :
    kept (ofEntries limit levels) := by
  induction levels with
  | zero => exact level _ refused
  | succ levels inductionHypothesis => exact level _ inductionHypothesis

/-- What is read at any number of levels means what its queries select. -/
theorem ofEntries_sound (limit levels : Nat) :
    Sound setting document (ofEntries limit levels) := by
  have refused : Sound setting document fun _ => .error (.depthLimitExceeded limit) := by
    intro entries clauses read
    cases read
  exact ofEntries_of_levels limit _ refused
    (fun enter sound => entriesClauses_sound setting document enter sound) levels

end Building

end Where

/-- A specification compiles exactly when it can be read and its clauses can be built, and the
outcome is the query of its clauses. -/
theorem compile_eq_ok_iff (spec : FilterSpec) (fields : FieldContext) (capabilities : Capabilities)
    (limit : Nat) (compiled : CompiledQuery) :
    compile spec fields capabilities limit = .ok compiled ↔
      ∃ clauses, spec.normalize limit = .ok clauses ∧
        Where.query ⟨fields, capabilities, limit⟩ 0 clauses =
          .done compiled.root compiled.warnings := by
  unfold compile
  cases spec.normalize limit with
  | error error => simp
  | ok clauses =>
    simp only [Except.ok.injEq, exists_eq_left']
    cases Where.query ⟨fields, capabilities, limit⟩ 0 clauses with
    | failed error => simp
    | done root warnings =>
      simp only [Except.ok.injEq, Diagnosed.done.injEq]
      constructor
      · rintro rfl
        exact ⟨rfl, rfl⟩
      · rintro ⟨rfl, rfl⟩
        rfl

/-- Compiler correctness: a compiled query selects exactly the documents that the specification,
read by itself, holds of. -/
theorem compile_selects_eq_holds (spec : FilterSpec) (fields : FieldContext)
    (capabilities : Capabilities) (limit : Nat) (compiled : CompiledQuery)
    (compiles : compile spec fields capabilities limit = .ok compiled) (document : Json) :
    compiled.root.selects document = spec.holds capabilities document := by
  obtain ⟨clauses, read, built⟩ := (compile_eq_ok_iff _ _ _ _ _).mp compiles
  obtain ⟨queries, gathered, selects⟩ :=
    Where.query_eq_done ⟨fields, capabilities, limit⟩ 0 document clauses _ _ built
  rw [selects]
  exact Where.ofEntries_sound ⟨fields, capabilities, limit⟩ document limit limit spec.entries
    clauses read 0 queries _ gathered

/-- Two bounds for one value of an array, a negated operator map and a disjunction of a null with a
negated sub-specification. -/
theorem compile_selects_eq_holds_of_nested :
    let spec := FilterSpec.ofPairs
      [("n", .map [(.op .greater, .scalar (.int 1)), (.op .less, .scalar (.int 5)),
        (.op .negation, .map [(.op .oneOf, .list [.null, .scalar (.int 9)])])]),
      ("_or", .list [.map [(.name "id", .null)],
        .map [(.name "not", .map [(.name "a.b", .scalar (.str "x"))])]])]
    let document := Json.object
      [("n", .array [.integer 2, .integer 7]), ("a", .object [("b", .string "y")])]
    ∃ compiled, compile spec .empty ⟨fun _ => true⟩ = .ok compiled ∧
      compiled.root.selects document = spec.holds ⟨fun _ => true⟩ document ∧
      spec.holds ⟨fun _ => true⟩ document = true :=
  ⟨_, rfl, compile_selects_eq_holds _ .empty ⟨fun _ => true⟩ defaultDepth _ rfl _, by decide⟩

end SearchFilter
