import SearchFilter.Proofs.Listing
import SearchFilter.Spec.Ingest

/-!
# The top level and the levels below it

The keys of a whole specification and those of the objects inside it are read differently. A key that
begins with a dollar sign names a field at the top level, whereas inside it names an operator or a
literal, which no sub-specification may have. Apart from such keys a document is the same
specification at the top level and as the only member of a conjunction.
-/

namespace SearchFilter

open Check (Persists bind_eq_ok_iff map_eq_ok_iff)

namespace FilterSpec

/-! ### Values do not depend on the field -/

section Fields

variable (field other : String)

/-- An end of an interval is read in the same way for every field. -/
theorem endpoint_persists (json : Option Json) :
    Persists (endpoint field json) (endpoint other json) := by
  unfold endpoint
  split <;> first | exact .refl _ | exact .of_error _ _

/-- The content of an interval is read in the same way for every field. -/
theorem rangeOf_persists (json : Json) : Persists (rangeOf field json) (rangeOf other json) := by
  cases json with
  | object entries =>
    have ends (finish : Option Scalar → Option Scalar → Except CompileError Interval) :=
      Persists.bind _ _ _ _ (endpoint_persists field other (Entries.find? "from" entries))
        fun lower => Persists.bind _ _ _ _
          (endpoint_persists field other (Entries.find? "to" entries))
          fun upper => Persists.refl (finish lower upper)
    simp only [rangeOf]
    split
    · exact .of_error _ _
    · split
      · exact ends _
      · exact ends _
      · exact .of_error _ _
  | _ => exact .of_error _ _

/-- The content of a pattern is read in the same way for every field. -/
theorem patternOf_persists (json : Json) :
    Persists (patternOf field json) (patternOf other json) := by
  cases json with
  | object entries =>
    simp only [patternOf]
    split
    · simp only [pure_bind]
      split <;> first | exact .refl _ | exact .of_error _ _
    · exact .of_error _ _
  | string source => exact .refl _
  | _ => exact .of_error _ _

/-- Whether an object is a literal depends on its keys alone. -/
theorem literal?_persists (entries : List (String × Json)) :
    (literal? field entries = none ∧ literal? other entries = none) ∨
      ∃ literal otherLiteral, literal? field entries = some literal ∧
        literal? other entries = some otherLiteral ∧ Persists literal otherLiteral := by
  match entries with
  | [] | _ :: _ :: _ => exact .inl ⟨rfl, rfl⟩
  | [(key, json)] =>
    simp only [literal?]
    split
    · exact .inr ⟨_, _, rfl, rfl, Persists.map _ _ _ (rangeOf_persists field other json)⟩
    · split
      · exact .inr ⟨_, _, rfl, rfl, Persists.map _ _ _ (patternOf_persists field other json)⟩
      · exact .inl ⟨rfl, rfl⟩

mutual

/-- The field stands in errors only. -/
theorem valueOf_persists : (json : Json) → Persists (valueOf field json) (valueOf other json)
  | .null | .bool _ | .number _ | .string _ => by
    simp only [valueOf]
    exact .refl _
  | .array items => by
    simp only [valueOf]
    exact Persists.map _ _ _ (valuesOf_persists items)
  | .object entries => by
    have members := entriesOf_persists entries
    rw [valueOf, valueOf]
    obtain ⟨noLiteral, noOther⟩ | ⟨literal, otherLiteral, isLiteral, isOther, persists⟩ :=
      literal?_persists field other entries
    · rw [noLiteral, noOther]
      exact Persists.map _ _ _ members
    · rw [isLiteral, isOther]
      exact persists

/-- The items of a list are read in the same way for every field. -/
theorem valuesOf_persists :
    (items : List Json) → Persists (valuesOf field items) (valuesOf other items)
  | [] => .refl _
  | item :: rest => by
    simp only [valuesOf]
    exact Persists.bind _ _ _ _ (valueOf_persists item) fun _ =>
      Persists.bind _ _ _ _ (valuesOf_persists rest) fun _ => .refl _

/-- The members of an object are read in the same way for every field. -/
theorem entriesOf_persists :
    (entries : List (String × Json)) → Persists (entriesOf field entries) (entriesOf other entries)
  | [] => .refl _
  | (key, item) :: rest => by
    simp only [entriesOf]
    exact Persists.bind _ _ _ _ (.refl _) fun _ =>
      Persists.bind _ _ _ _ (valueOf_persists item) fun _ =>
        Persists.bind _ _ _ _ (entriesOf_persists rest) fun _ => .refl _

end

end Fields

/-! ### Keys with a dollar sign -/

/-- Whether a key begins with a dollar sign. -/
def isMarked (key : String) : Bool := key.toList.head? = some '$'

/-- A key without a dollar sign is a plain name, also where it spells an operator. -/
theorem keyOf_of_unmarked (key : String) (unmarked : isMarked key = false) :
    keyOf key = .ok (.name key) := by
  unfold keyOf
  split
  · rename_i rest spelled
    simp [isMarked, spelled] at unmarked
  · rfl

/-- A key with a dollar sign never is a plain name below the top level. -/
theorem unmarked_of_keyOf (key name : String) (read : keyOf key = .ok (.name name)) :
    isMarked key = false ∧ name = key := by
  unfold keyOf at read
  split at read
  · split at read <;> cases read
  · rename_i noDollar
    cases read
    refine ⟨decide_eq_false fun marked => ?_, rfl⟩
    obtain ⟨rest, spelled⟩ := List.head?_eq_some_iff.mp marked
    exact noDollar rest spelled

/-- An object is no literal unless it has the key of one and no other. -/
theorem literal?_eq_none (field : String) {entries : List (String × Json)}
    (noRange : ∀ json, entries ≠ [("$range", json)])
    (noRegex : ∀ json, entries ≠ [("$regex", json)]) : literal? field entries = none := by
  match entries, noRange, noRegex with
  | [], _, _ | _ :: _ :: _, _, _ => rfl
  | [(key, json)], noRange, noRegex =>
    have notRange : key ≠ "$range" := fun same => noRange json (same ▸ rfl)
    have notRegex : key ≠ "$regex" := fun same => noRegex json (same ▸ rfl)
    simp [literal?, notRange, notRegex]

/-- An object without dollar signs among its keys is no literal. -/
theorem literal?_of_unmarked (field : String) (entries : List (String × Json))
    (unmarked : ∀ key ∈ Entries.keys entries, isMarked key = false) :
    literal? field entries = none := by
  apply literal?_eq_none
  · rintro json rfl
    exact absurd (unmarked "$range" List.mem_cons_self) (by decide)
  · rintro json rfl
    exact absurd (unmarked "$regex" List.mem_cons_self) (by decide)

/-- The keys of a specification are those of its document, in order. -/
theorem keys_of_pairsOf (entries : List (String × Json)) (pairs : List (String × Value))
    (read : pairsOf entries = .ok pairs) : Entries.keys pairs = Entries.keys entries := by
  induction entries generalizing pairs with
  | nil =>
    obtain rfl := Except.ok.inj read
    rfl
  | cons entry rest inductionHypothesis =>
    obtain ⟨value, -, remaining⟩ := (bind_eq_ok_iff _ _ _).mp read
    obtain ⟨others, othersRead, last⟩ := (bind_eq_ok_iff _ _ _).mp remaining
    obtain rfl := (Check.pure_eq_ok_iff _ _).mp last
    have later := inductionHypothesis others othersRead
    simp only [Entries.keys] at later
    simp only [Entries.keys, List.map_cons, later]

/-- Without marked keys the entries of an object are the same at the top level and below it. -/
theorem entriesOf_of_pairsOf (field : String) (entries : List (String × Json))
    (pairs : List (String × Value)) (read : pairsOf entries = .ok pairs)
    (unmarked : ∀ key ∈ Entries.keys entries, isMarked key = false) :
    entriesOf field entries = .ok (pairs.map Where.named) := by
  induction entries generalizing pairs with
  | nil =>
    obtain rfl := Except.ok.inj read
    rfl
  | cons entry rest inductionHypothesis =>
    obtain ⟨key, json⟩ := entry
    obtain ⟨value, valueRead, remaining⟩ := (bind_eq_ok_iff _ _ _).mp read
    obtain ⟨others, othersRead, last⟩ := (bind_eq_ok_iff _ _ _).mp remaining
    obtain rfl := (Check.pure_eq_ok_iff _ _).mp last
    obtain ⟨plain, plainLater⟩ := List.forall_mem_cons.mp unmarked
    refine (bind_eq_ok_iff _ _ _).mpr ⟨.name key, keyOf_of_unmarked key plain, ?_⟩
    refine (bind_eq_ok_iff _ _ _).mpr ⟨value, valueOf_persists key field json value valueRead, ?_⟩
    exact (bind_eq_ok_iff _ _ _).mpr
      ⟨_, inductionHypothesis others othersRead plainLater, rfl⟩

/-- An object below the top level all of whose keys are names has no marked key, and is read the same
at the top level. -/
theorem pairsOf_of_entriesOf (field : String) (entries : List (String × Json))
    (pairs : List (String × Value))
    (read : entriesOf field entries = .ok (pairs.map Where.named)) :
    (∀ key ∈ Entries.keys entries, isMarked key = false) ∧ pairsOf entries = .ok pairs := by
  induction entries generalizing pairs with
  | nil =>
    obtain rfl := List.map_eq_nil_iff.mp (Except.ok.inj read).symm
    exact ⟨fun _ member => absurd member List.not_mem_nil, rfl⟩
  | cons entry rest inductionHypothesis =>
    obtain ⟨key, json⟩ := entry
    obtain ⟨given, keyRead, remaining⟩ := (bind_eq_ok_iff _ _ _).mp read
    obtain ⟨value, valueRead, remaining⟩ := (bind_eq_ok_iff _ _ _).mp remaining
    obtain ⟨others, othersRead, last⟩ := (bind_eq_ok_iff _ _ _).mp remaining
    obtain ⟨pair, later, rfl, first, rfl⟩ :=
      List.map_eq_cons_iff.mp ((Check.pure_eq_ok_iff _ _).mp last).symm
    obtain ⟨rfl, rfl⟩ := Prod.mk.inj first
    obtain ⟨plain, same⟩ := unmarked_of_keyOf key pair.1 keyRead
    obtain ⟨plainLater, laterRead⟩ := inductionHypothesis later othersRead
    refine ⟨List.forall_mem_cons.mpr ⟨plain, plainLater⟩, ?_⟩
    refine (bind_eq_ok_iff _ _ _).mpr ⟨pair.2, valueOf_persists field key json _ valueRead, ?_⟩
    exact (bind_eq_ok_iff _ _ _).mpr ⟨later, laterRead, congrArg Except.ok (same ▸ rfl)⟩

/-! ### Documents in a conjunction -/

/-- The document with another one as the only member of a conjunction. -/
def conjunct (json : Json) : Json := .object [("_and", .array [json])]

/-- Compiles the specification that a document stands for. -/
def compileJson (json : Json) (fields : FieldContext) (capabilities : Capabilities) (limit : Nat) :
    Except CompileError CompiledQuery := do
  compile (← ofJson json) fields capabilities limit

/-- A conjunction is read as the list of the one value that its member stands for. -/
theorem ofJson_conjunct (json : Json) :
    ofJson (conjunct json) =
      (valueOf "_and" json).map fun value => .ofPairs [("_and", .list [value])] := by
  simp only [conjunct, ofJson, pairsOf]
  rw [valueOf, valuesOf, valuesOf]
  cases valueOf "_and" json <;> rfl

section Conjunct

variable (entries : List (String × Json))

/-- Without marked keys the conjunction is that of the specification. -/
theorem ofJson_conjunct_of_unmarked (distinct : (Entries.keys entries).Nodup)
    (unmarked : ∀ key ∈ Entries.keys entries, isMarked key = false) (spec : FilterSpec)
    (read : ofJson (.object entries) = .ok spec) :
    ofJson (conjunct (.object entries)) = .ok (spec.listed "_and") := by
  obtain ⟨pairs, pairsRead, rfl⟩ := (map_eq_ok_iff _ _ _).mp read
  have kept : (ofPairs pairs).toValue = .map (pairs.map Where.named) := by
    have keys := keys_of_pairsOf entries pairs pairsRead
    exact congrArg (fun given => Value.map (given.map Where.named))
      (Entries.ofPairs_of_nodup pairs (keys ▸ distinct))
  have member : valueOf "_and" (.object entries) = .ok (ofPairs pairs).toValue := by
    rw [valueOf, literal?_of_unmarked "_and" entries unmarked, kept]
    simp [entriesOf_of_pairsOf "_and" entries pairs pairsRead unmarked, Except.map]
  rw [ofJson_conjunct, member]
  rfl

/-- A literal is no sub-specification. -/
theorem specOf_literal (field key : String) (literal : Except CompileError Value)
    (isLiteral : literal? field entries = some literal) (value : Value)
    (read : literal = .ok value) (enter : List (String × Value) → Except CompileError Where)
    (clauses : Where) : Where.specOf enter key value ≠ .ok clauses := by
  unfold literal? at isLiteral
  split at isLiteral
  · split at isLiteral
    · obtain rfl := Option.some.inj isLiteral
      obtain ⟨interval, -, rfl⟩ := (map_eq_ok_iff _ _ _).mp read
      exact nofun
    · split at isLiteral
      · obtain rfl := Option.some.inj isLiteral
        obtain ⟨pattern, -, rfl⟩ := (map_eq_ok_iff _ _ _).mp read
        exact nofun
      · cases isLiteral
  · cases isLiteral

/-- The member of a conjunction that compiles has no marked key, and is read at the top level too. -/
theorem unmarked_of_compile (fields : FieldContext) (capabilities : Capabilities) (limit : Nat)
    (compiled : CompiledQuery)
    (compiles :
      compileJson (conjunct (.object entries)) fields capabilities limit = .ok compiled) :
    (∀ key ∈ Entries.keys entries, isMarked key = false) ∧
      ∃ spec, ofJson (.object entries) = .ok spec := by
  obtain ⟨nested, read, compiles⟩ := (bind_eq_ok_iff _ _ _).mp compiles
  rw [ofJson_conjunct] at read
  obtain ⟨value, valueRead, rfl⟩ := (map_eq_ok_iff _ _ _).mp read
  obtain ⟨clauses, normal, -⟩ := (compile_eq_ok_iff _ _ _ _ _).mp compiles
  obtain ⟨inner, innerRead⟩ : ∃ inner,
      Where.specOf (Where.entering limit limit) "_and" value = .ok inner := by
    rw [normalize, Where.ofEntries_eq_entriesClauses] at normal
    obtain ⟨parts, partsRead, -⟩ := (map_eq_ok_iff _ _ _).mp normal
    obtain ⟨part, partRead, -⟩ := (bind_eq_ok_iff _ _ _).mp partsRead
    obtain ⟨members, membersRead, -⟩ := (bind_eq_ok_iff _ _ _).mp partRead
    obtain ⟨inner, innerRead, -⟩ := (bind_eq_ok_iff _ _ _).mp membersRead
    exact ⟨inner, innerRead⟩
  rw [valueOf] at valueRead
  split at valueRead
  · rename_i literal isLiteral
    exact absurd innerRead (specOf_literal entries "_and" "_and" literal isLiteral value valueRead _ _)
  · obtain ⟨given, givenRead, rfl⟩ := (map_eq_ok_iff _ _ _).mp valueRead
    obtain ⟨pairs, pairsRead, -⟩ := (bind_eq_ok_iff _ _ _).mp innerRead
    obtain rfl := Where.names_eq_ok "_and" given pairs pairsRead
    obtain ⟨unmarked, topRead⟩ := pairsOf_of_entriesOf "_and" entries pairs givenRead
    exact ⟨unmarked, _, (map_eq_ok_iff _ _ _).mpr ⟨pairs, topRead, rfl⟩⟩

variable (distinct : (Entries.keys entries).Nodup) (fields : FieldContext)
  (capabilities : Capabilities) (limit : Nat)
include distinct

/-- A document in a conjunction compiles as its specification alone in a list, as long as no key has
a dollar sign. -/
theorem compileJson_conjunct (unmarked : ∀ key ∈ Entries.keys entries, isMarked key = false)
    (spec : FilterSpec) (read : ofJson (.object entries) = .ok spec) :
    compileJson (conjunct (.object entries)) fields capabilities limit =
      compile (spec.listed "_and") fields capabilities limit := by
  rw [compileJson, ofJson_conjunct_of_unmarked entries distinct unmarked spec read]
  rfl

/-- A document and the conjunction with it as the only member, which takes up one more level. The
conjunction compiles if the document does and no key at the top begins with a dollar sign. No other
conjunction compiles, and if the document asks for no shape, only such as have a document that does.
Where both compile they select the same documents, with the same warnings. -/
theorem conjunct_compiles_alike :
    ((∃ compiled, compileJson (.object entries) fields capabilities limit = .ok compiled) →
        (∀ key ∈ Entries.keys entries, isMarked key = false) →
          ∃ compiled, compileJson (conjunct (.object entries)) fields capabilities (limit + 1) =
            .ok compiled) ∧
      ((∃ compiled, compileJson (conjunct (.object entries)) fields capabilities (limit + 1) =
          .ok compiled) →
        (∀ key ∈ Entries.keys entries, isMarked key = false) ∧
          ((∀ spec, ofJson (.object entries) = .ok spec → ¬spec.Asks .geoShape) →
            ∃ compiled,
              compileJson (.object entries) fields capabilities limit = .ok compiled)) ∧
      ∀ compiled other, compileJson (.object entries) fields capabilities limit = .ok compiled →
        compileJson (conjunct (.object entries)) fields capabilities (limit + 1) = .ok other →
          (∀ document, compiled.root.selects document = other.root.selects document) ∧
            compiled.warnings = other.warnings := by
  -- The conjunction is read into a specification that has that of the document as its only member,
  -- so all three parts are about these two.
  have listed (spec : FilterSpec) (compiled : CompiledQuery)
      (compiles : compile spec fields capabilities limit = .ok compiled) :=
    compile_listed spec "_and" .flatAnd rfl rfl fields capabilities limit compiled compiles
  refine ⟨?_, ?_, fun compiled other compiles otherCompiles => ?_⟩
  · rintro ⟨compiled, compiles⟩ unmarked
    obtain ⟨spec, read, specCompiles⟩ := (bind_eq_ok_iff _ _ _).mp compiles
    rw [compileJson_conjunct entries distinct fields capabilities _ unmarked spec read]
    exact ⟨_, listed spec compiled specCompiles⟩
  · rintro ⟨other, otherCompiles⟩
    obtain ⟨unmarked, spec, read⟩ :=
      unmarked_of_compile entries fields capabilities _ other otherCompiles
    refine ⟨unmarked, fun shapeless => ?_⟩
    rw [compileJson_conjunct entries distinct fields capabilities _ unmarked spec read]
      at otherCompiles
    obtain ⟨given, compiles⟩ := compile_of_compile_listed_of_shapeless spec "_and" .flatAnd rfl rfl
      fields capabilities (shapeless spec read) limit other otherCompiles
    exact ⟨given, (bind_eq_ok_iff _ _ _).mpr ⟨spec, read, compiles⟩⟩
  · obtain ⟨unmarked, -⟩ := unmarked_of_compile entries fields capabilities _ other otherCompiles
    obtain ⟨spec, read, specCompiles⟩ := (bind_eq_ok_iff _ _ _).mp compiles
    rw [compileJson_conjunct entries distinct fields capabilities _ unmarked spec read,
      listed spec compiled specCompiles] at otherCompiles
    obtain rfl := Except.ok.inj otherCompiles
    exact ⟨fun document => by simp [Combinator.connective], rfl⟩

end Conjunct

/-- A disjunction and a condition that is null, which compile in a conjunction and by themselves. -/
theorem conjunct_compiles_alike_of_disjunction :
    let json := Json.object [("_or", .array [.object [("a", .object [("$gte", .integer 10)])]]),
      ("b", .null)]
    (∀ spec, ofJson json = .ok spec → ¬spec.Asks .geoShape) ∧
      ∃ compiled other, compileJson json .empty ⟨fun _ => true⟩ 1 = .ok compiled ∧
        compileJson (conjunct json) .empty ⟨fun _ => true⟩ 2 = .ok other ∧
          (∀ document, compiled.root.selects document = other.root.selects document) ∧
            compiled.warnings = other.warnings := by
  intro json
  have alike := conjunct_compiles_alike
    [("_or", .array [.object [("a", .object [("$gte", .integer 10)])]]), ("b", .null)] (by decide)
    .empty ⟨fun _ => true⟩ 1
  have shapeless (spec : FilterSpec) (read : ofJson json = .ok spec) : ¬spec.Asks .geoShape := by
    obtain rfl := Except.ok.inj read
    simp [Asks, ofPairs, Entries.ofPairs, Entries.putAll, Entries.put, Key.leadsOn]
  have otherCompiles : ∃ other,
      compileJson (conjunct json) .empty ⟨fun _ => true⟩ 2 = .ok other := ⟨_, rfl⟩
  obtain ⟨compiled, compiles⟩ := (alike.2.1 otherCompiles).2 shapeless
  obtain ⟨other, otherCompiles⟩ := otherCompiles
  exact ⟨shapeless, compiled, other, compiles, otherCompiles,
    alike.2.2 compiled other compiles otherCompiles⟩

/-- An operator at the top level is taken for the name of a field, and is refused in a conjunction. -/
theorem conjunct_refused_of_operator_key :
    let json := Json.object [("$gte", .integer 10)]
    (∃ compiled, compileJson json .empty ⟨fun _ => true⟩ 1 = .ok compiled) ∧
      ¬∃ compiled, compileJson (conjunct json) .empty ⟨fun _ => true⟩ 2 = .ok compiled := by
  intro json
  refine ⟨⟨_, rfl⟩, ?_⟩
  rintro ⟨compiled, compiles⟩
  cases compiles

end FilterSpec

end SearchFilter
