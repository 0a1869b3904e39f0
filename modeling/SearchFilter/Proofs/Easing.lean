import SearchFilter.Proofs.Asking

/-!
# Limits and declarations only refuse

The nesting limit and the declared fields decide whether a specification compiles and nothing else.
Under a more generous setting every step that was done before is done again, with the same result
and the same warnings. This is stated for one step after the other, from the coordinates of shapes
up to whole specifications, as an instance of one relation between computations: the second one does
whatever the first one did.
-/

namespace SearchFilter

namespace Check

universe u
variable {ε α β : Type u}

/-- What passes the first check passes the second one, with the same result. -/
def Persists (check eased : Except ε α) : Prop := ∀ value, check = .ok value → eased = .ok value

namespace Persists

/-- A check persists against itself. -/
theorem refl (check : Except ε α) : Persists check check := fun _ passed => passed

/-- Of a check that fails nothing is asked. -/
theorem of_error (error : ε) (eased : Except ε α) : Persists (.error error) eased := by
  intro value passed
  cases passed

/-- Checks in sequence persist if each of them does, for every result of the first. -/
theorem bind (check eased : Except ε α) (next easedNext : α → Except ε β)
    (first : Persists check eased) (second : ∀ value, Persists (next value) (easedNext value)) :
    Persists (check >>= next) (eased >>= easedNext) := by
  intro result passed
  obtain ⟨value, checked, last⟩ := (bind_eq_ok_iff _ _ _).mp passed
  exact (bind_eq_ok_iff _ _ _).mpr ⟨value, first value checked, second value result last⟩

/-- Changing the result on both sides keeps a check persistent. -/
theorem map (check eased : Except ε α) (change : α → β) (first : Persists check eased) :
    Persists (check.map change) (eased.map change) := by
  intro result passed
  obtain ⟨value, checked, last⟩ := (map_eq_ok_iff _ _ _).mp passed
  exact (map_eq_ok_iff _ _ _).mpr ⟨value, first value checked, last⟩

/-- A traversal persists if its check does for every item. -/
theorem mapM (check eased : α → Except ε β) (items : List α)
    (each : ∀ item, Persists (check item) (eased item)) :
    Persists (items.mapM check) (items.mapM eased) := by
  intro results passed
  have pointwise := (mapM_eq_ok_iff _ _ _).mp passed
  exact (mapM_eq_ok_iff _ _ _).mpr
    (pointwise.imp fun item result checked => each item result checked)

end Persists

end Check

namespace Diagnosed

variable {α β : Type}

/-- What the first step is done with the second one is done with, raising the same warnings. -/
def Persists (step eased : Diagnosed α) : Prop :=
  ∀ value warnings, step = .done value warnings → eased = .done value warnings

namespace Persists

/-- A step persists against itself. -/
theorem refl (step : Diagnosed α) : Persists step step := fun _ _ done => done

/-- Of a step that fails nothing is asked. -/
theorem of_failed (error : CompileError) (eased : Diagnosed α) :
    Persists (.failed error) eased := by
  intro value warnings done
  cases done

/-- A check persists as a step, since it raises no warning. -/
theorem lift (check eased : Except CompileError α) (first : Check.Persists check eased) :
    Persists (Diagnosed.lift check) (Diagnosed.lift eased) := by
  intro value warnings done
  obtain ⟨passed, raised⟩ := (lift_eq_done_iff _ _ _).mp done
  exact (lift_eq_done_iff _ _ _).mpr ⟨first value passed, raised⟩

/-- The second steps have to be compared only at results of the first one. -/
theorem bind_of_done (step eased : Diagnosed α) (next easedNext : α → Diagnosed β)
    (first : Persists step eased)
    (second : ∀ value warnings, step = .done value warnings →
      Persists (next value) (easedNext value)) :
    Persists (step >>= next) (eased >>= easedNext) := by
  intro result warnings done
  obtain ⟨value, earlier, later, stepDone, last, rfl⟩ := (bind_eq_done_iff _ _ _ _).mp done
  exact (bind_eq_done_iff _ _ _ _).mpr ⟨value, earlier, later, first value earlier stepDone,
    second value earlier stepDone result later last, rfl⟩

/-- Steps in sequence persist with the warnings of both in order. -/
theorem bind (step eased : Diagnosed α) (next easedNext : α → Diagnosed β)
    (first : Persists step eased) (second : ∀ value, Persists (next value) (easedNext value)) :
    Persists (step >>= next) (eased >>= easedNext) :=
  bind_of_done step eased next easedNext first fun value _ _ => second value

/-- Changing the result on both sides keeps a step persistent. -/
theorem map (step eased : Diagnosed α) (change : α → β) (first : Persists step eased) :
    Persists (change <$> step) (change <$> eased) := by
  intro result warnings done
  obtain ⟨value, stepDone, last⟩ := (map_eq_done_iff _ _ _ _).mp done
  exact (map_eq_done_iff _ _ _ _).mpr ⟨value, first value warnings stepDone, last⟩

/-- A traversal persists if its step does for the items that are there. -/
theorem mapM (step eased : α → Diagnosed β) (items : List α)
    (each : ∀ item ∈ items, Persists (step item) (eased item)) :
    Persists (items.mapM step) (items.mapM eased) := by
  induction items with
  | nil => exact refl _
  | cons item rest inductionHypothesis =>
    obtain ⟨first, others⟩ := List.forall_mem_cons.mp each
    rw [List.mapM_cons, List.mapM_cons]
    exact bind _ _ _ _ first fun result =>
      bind _ _ _ _ (inductionHypothesis others) fun _ => refl _

end Persists

end Diagnosed

namespace Resolve

/-- A setting that refuses less, its limit apart: no field fails the check of its declared type that
passed it before. What the engine can do is the same. -/
structure Setting.Eased (setting eased : Setting) : Prop where
  capabilities : eased.capabilities = setting.capabilities
  places : ∀ field op, Check.Persists (requireGeo setting field op) (requireGeo eased field op)
  arrays : ∀ field, Check.Persists (requireArray setting field) (requireArray eased field)

/-- Changing only the limit eases a setting. How the two limits compare is asked where a limit is
looked at. -/
theorem Setting.Eased.of_limit (fields : FieldContext) (capabilities : Capabilities)
    (limit other : Nat) :
    Setting.Eased ⟨fields, capabilities, limit⟩ ⟨fields, capabilities, other⟩ :=
  ⟨rfl, fun _ _ => Check.Persists.refl _, fun _ => Check.Persists.refl _⟩

/-- Coordinates that are accepted at some depth are accepted at any greater one. -/
theorem coordinatesOf_persists (field : String) (levels more : Nat) (enough : levels ≤ more)
    (value : Value) :
    Check.Persists (coordinatesOf field levels value) (coordinatesOf field more value) := by
  induction levels generalizing more value with
  | zero => exact Check.Persists.of_error _ _
  | succ levels inductionHypothesis =>
    obtain ⟨more, rfl⟩ := Nat.exists_eq_add_one_of_ne_zero (Nat.ne_of_gt (Nat.lt_of_lt_of_le
      (Nat.succ_pos levels) enough))
    cases value with
    | map entries => exact Check.Persists.refl _
    | list items =>
      unfold coordinatesOf
      split
      · exact Check.Persists.refl _
      · exact Check.Persists.map _ _ _ (Check.Persists.mapM _ _ _ fun item =>
          inductionHypothesis more (Nat.le_of_succ_le_succ enough) item)
    | _ => exact Check.Persists.of_error _ _

/-- Shapes look at the limit only for how deep their coordinates nest, so more levels refuse nothing
that fewer levels let through. -/
theorem toShape_persists (field : String) (levels more : Nat) (enough : levels ≤ more)
    (value : Value) : Check.Persists (toShape field levels value) (toShape field more value) := by
  cases value with
  | map entries =>
    intro test passed
    obtain ⟨noForeign, kind, given, coordinates, relation, kindRead, found, read, related, built⟩ :=
      (toShape_eq_ok_iff _ _ _ _).mp passed
    have again := coordinatesOf_persists field levels more enough given coordinates read
    exact (toShape_eq_ok_iff _ _ _ _).mpr
      ⟨noForeign, kind, given, coordinates, relation, kindRead, found, again, related, built⟩
  | _ => exact Check.Persists.of_error _ _

section Operands

variable (setting eased : Setting) (enter easedEnter : Operand → Diagnosed (List Query))
  (field : String)

/-- Fewer declarations refuse no operator that more of them let through. -/
theorem placeCheck_persists (easing : setting.Eased eased) (op : Operator) :
    Check.Persists (placeCheck setting field op) (placeCheck eased field op) := by
  unfold placeCheck
  split
  · exact easing.places field op
  · exact Check.Persists.refl _

/-- An operand that is no operator map looks neither at the limit nor at declarations. -/
theorem plainOperand_persists (easing : setting.Eased eased) (operand : Operand) :
    Diagnosed.Persists (plainOperand setting field operand) (plainOperand eased field operand) := by
  cases operand with
  | pattern literal =>
    simp only [plainOperand, easing.capabilities]
    exact Diagnosed.Persists.refl _
  | _ => exact Diagnosed.Persists.refl _

/-- Only the declared array and the depth of coordinates matter to operators without operands
inside. -/
theorem simpleEntry_persists (easing : setting.Eased eased) (entries : List (Operator × Value))
    (op : Operator) (value : Value) (deep : op = .geoShape → setting.limit ≤ eased.limit) :
    Diagnosed.Persists (simpleEntry setting field entries op value)
      (simpleEntry eased field entries op value) := by
  cases op with
  | allOf =>
    exact Diagnosed.Persists.lift _ _ (Check.Persists.bind _ _ _ _ (easing.arrays field)
      fun _ => Check.Persists.refl _)
  | geoShape =>
    exact Diagnosed.Persists.lift _ _ (Check.Persists.bind _ _ _ _
      (toShape_persists field setting.limit eased.limit (deep rfl) value)
      fun _ => Check.Persists.refl _)
  | like | likeAnyCase | geoPolygon =>
    simp only [simpleEntry, easing.capabilities]
    exact Diagnosed.Persists.refl _
  | _ => exact Diagnosed.Persists.refl _

variable (entering : ∀ operand, (operand.Asks .geoShape → setting.limit ≤ eased.limit) →
  Diagnosed.Persists (enter operand) (easedEnter operand))
include entering

/-- An equality persists if what it enters does. -/
theorem equality_persists (value : Value)
    (deep : value.Asks .geoShape → setting.limit ≤ eased.limit) :
    Diagnosed.Persists (equality enter field value) (equality easedEnter field value) := by
  refine Diagnosed.Persists.bind_of_done _ _ _ _ (Diagnosed.Persists.refl _)
    fun operand _ shaped => ?_
  have operandDeep (asks : operand.Asks .geoShape) := deep (Operand.asks_of_ofValue .geoShape field
    value operand ((Diagnosed.lift_eq_done_iff _ _ _).mp shaped).1 asks)
  cases operand with
  | ops entries => exact Diagnosed.Persists.refl _
  | _ => exact entering _ operandDeep

/-- A negation persists if what it enters does. -/
theorem negation_persists (value : Value)
    (deep : value.Asks .geoShape → setting.limit ≤ eased.limit) :
    Diagnosed.Persists (negation enter field value) (negation easedEnter field value) := by
  refine Diagnosed.Persists.bind_of_done _ _ _ _ (Diagnosed.Persists.refl _)
    fun operand _ shaped => ?_
  have operandDeep (asks : operand.Asks .geoShape) := deep (Operand.asks_of_ofValue .geoShape field
    value operand ((Diagnosed.lift_eq_done_iff _ _ _).mp shaped).1 asks)
  cases operand with
  | interval _ | pattern _ | ops _ =>
    exact Diagnosed.Persists.bind _ _ _ _ (entering _ operandDeep)
      fun _ => Diagnosed.Persists.refl _
  | _ => exact Diagnosed.Persists.refl _

/-- What an entry contributes under a setting it contributes under an eased one. The limit matters
only if the entry asks for a shape. -/
theorem contribution_persists (easing : setting.Eased eased) (entries : List (Operator × Value))
    (entry : Operator × Value)
    (deep : (Operand.ops [entry]).Asks .geoShape → setting.limit ≤ eased.limit) :
    Diagnosed.Persists (contribution setting enter field entries entry)
      (contribution eased easedEnter field entries entry) := by
  obtain ⟨op, value⟩ := entry
  refine Diagnosed.Persists.bind _ _ _ _
    (Diagnosed.Persists.lift _ _ (placeCheck_persists setting eased field easing op)) fun _ => ?_
  unfold contributed
  dsimp only
  split
  · exact Diagnosed.Persists.refl _
  · split
    · exact Diagnosed.Persists.bind _ _ _ _
        (equality_persists setting eased enter easedEnter field entering value
          fun asks => deep (.inside List.mem_cons_self rfl asks))
        fun _ => Diagnosed.Persists.refl _
    · exact Diagnosed.Persists.bind _ _ _ _
        (negation_persists setting eased enter easedEnter field entering value
          fun asks => deep (.inside List.mem_cons_self rfl asks))
        fun _ => Diagnosed.Persists.refl _
    · exact Diagnosed.Persists.bind _ _ _ _
        (simpleEntry_persists setting eased field easing entries op value
          fun isShape => deep (isShape ▸ .entry List.mem_cons_self))
        fun _ => Diagnosed.Persists.refl _

/-- The queries of an operand persist if those of the operands inside it do. -/
theorem operandWith_persists (easing : setting.Eased eased) (operand : Operand)
    (deep : operand.Asks .geoShape → setting.limit ≤ eased.limit) :
    Diagnosed.Persists (operandWith setting enter field operand)
      (operandWith eased easedEnter field operand) := by
  have plain := plainOperand_persists setting eased field easing operand
  cases operand with
  | ops entries =>
    simp only [operandWith, takeUpAll_eq]
    have alone (entry : Operator × Value) (member : entry ∈ entries)
        (asks : (Operand.ops [entry]).Asks .geoShape) : (Operand.ops entries).Asks .geoShape := by
      cases asks with
      | entry given => exact .entry (List.mem_singleton.mp given ▸ member)
      | inside given leadsOn asks => exact .inside (List.mem_singleton.mp given ▸ member) leadsOn asks
    have contributions := Diagnosed.Persists.mapM _ _ entries fun entry member =>
      contribution_persists setting eased enter easedEnter field entering easing entries entry
        fun asks => deep (alone entry member asks)
    exact Diagnosed.Persists.bind _ _ _ _ (Diagnosed.Persists.map _ _ _ contributions)
      fun _ => Diagnosed.Persists.refl _
  | _ => exact plain

omit entering in
/-- An operand that is resolved is resolved in the same way under an eased setting with at least as
many levels. The limit itself matters to shapes alone. -/
theorem operand_persists (easing : setting.Eased eased) (levels more : Nat)
    (enough : levels ≤ more) (value : Operand)
    (deep : value.Asks .geoShape → setting.limit ≤ eased.limit) :
    Diagnosed.Persists (operand setting field levels value) (operand eased field more value) := by
  induction levels generalizing more value with
  | zero =>
    cases more with
    | zero =>
      exact operandWith_persists setting eased _ _ field
        (fun _ _ => Diagnosed.Persists.of_failed _ _) easing value deep
    | succ more =>
      exact operandWith_persists setting eased _ _ field
        (fun _ _ => Diagnosed.Persists.of_failed _ _) easing value deep
  | succ levels inductionHypothesis =>
    cases more with
    | zero => exact absurd enough (Nat.not_succ_le_zero levels)
    | succ more =>
      exact operandWith_persists setting eased _ _ field
        (inductionHypothesis more (Nat.le_of_succ_le_succ enough)) easing value deep

end Operands

end Resolve

namespace Where

section Reading

variable (enter easedEnter : List (String × Value) → Except CompileError Where)
  (entering : ∀ entries, Check.Persists (enter entries) (easedEnter entries))
include entering

/-- A sub-specification that is read stays readable if entering it persists. -/
theorem specOf_persists (key : String) (value : Value) :
    Check.Persists (specOf enter key value) (specOf easedEnter key value) := by
  cases value with
  | map given =>
    exact Check.Persists.bind _ _ _ _ (Check.Persists.refl _) fun entries => entering entries
  | _ => exact Check.Persists.refl _

/-- A list of sub-specifications stays readable if entering them persists. -/
theorem specsOf_persists (key : String) (items : List Value) :
    Check.Persists (items.mapM (specOf enter key)) (items.mapM (specOf easedEnter key)) :=
  Check.Persists.mapM _ _ _ (specOf_persists enter easedEnter entering key)

/-- A group stays readable if entering its members persists. -/
theorem groupOf_persists (key : String) (connective : Connective) (value : Value) :
    Check.Persists (groupOf enter key connective value)
      (groupOf easedEnter key connective value) := by
  cases value with
  | list items =>
    exact Check.Persists.bind _ _ _ _ (specsOf_persists enter easedEnter entering key items)
      fun _ => Check.Persists.refl _
  | _ => exact Check.Persists.refl _

/-- What stands under a combinator stays readable if entering sub-specifications persists. -/
theorem clausesOf_persists (combinator : Combinator) (key : String) (value : Value) :
    Check.Persists (clausesOf enter combinator key value)
      (clausesOf easedEnter combinator key value) := by
  have groups (connective : Connective) (values : List Value) :=
    Check.Persists.mapM _ _ values (groupOf_persists enter easedEnter entering key connective)
  have listed (connective : Connective) (items : List Value) :=
    Check.Persists.bind _ _ _ _ (specsOf_persists enter easedEnter entering key items)
      fun members => Check.Persists.refl (pure [Clause.group connective members])
  have alone (value : Value) :=
    Check.Persists.bind _ _ _ _ (specOf_persists enter easedEnter entering key value)
      fun member => Check.Persists.refl (pure [Clause.group .not [member]])
  cases combinator <;> cases value <;>
    first
    | exact groups _ _
    | exact listed _ _
    | exact alone _
    | exact Check.Persists.refl _

/-- Entries stay readable if entering sub-specifications persists. Conditions on fields are read
without the limit. -/
theorem entriesClauses_persists (entries : List (String × Value)) :
    Check.Persists (entriesClauses enter entries) (entriesClauses easedEnter entries) := by
  refine Check.Persists.map _ _ _ (Check.Persists.mapM _ _ _ fun entry => ?_)
  obtain ⟨key, value⟩ := entry
  unfold entryClauses
  dsimp only
  split
  · exact clausesOf_persists enter easedEnter entering _ key value
  · exact Check.Persists.refl _

omit entering in
/-- Entries that are read at some number of levels are read into the same clauses at any greater
one. -/
theorem ofEntries_persists (limit most levels more : Nat) (enough : levels ≤ more)
    (entries : List (String × Value)) :
    Check.Persists (ofEntries limit levels entries) (ofEntries most more entries) := by
  induction levels generalizing more entries with
  | zero =>
    cases more with
    | zero => exact entriesClauses_persists _ _ (fun _ => Check.Persists.of_error _ _) entries
    | succ more => exact entriesClauses_persists _ _ (fun _ => Check.Persists.of_error _ _) entries
  | succ levels inductionHypothesis =>
    cases more with
    | zero => exact absurd enough (Nat.not_succ_le_zero levels)
    | succ more =>
      exact entriesClauses_persists _ _
        (inductionHypothesis more (Nat.le_of_succ_le_succ enough)) entries

end Reading

section Building

open Resolve (Setting)

variable (setting eased : Setting)

mutual

/-- Clauses that are built at some depth are built in the same way wherever at least as many levels
are left. -/
theorem query_persists (easing : setting.Eased eased) (depth place : Nat)
    (enough : setting.limit - depth ≤ eased.limit - place) :
    (clauses : List Clause) →
    (deep : ∀ clause ∈ clauses, clause.Asks .geoShape → setting.limit ≤ eased.limit) →
      Diagnosed.Persists (query setting depth clauses) (query eased place clauses)
  | [], _ => by
    rw [query, query]
    exact Diagnosed.Persists.refl _
  | clause :: rest, deep => by
    obtain ⟨first, others⟩ := List.forall_mem_cons.mp deep
    rw [query, query]
    exact Diagnosed.Persists.bind _ _ _ _
      (clauseQueries_persists easing depth place enough clause first)
      fun _ => Diagnosed.Persists.bind _ _ _ _
        (clausesQueries_persists easing depth place enough rest others)
        fun _ => Diagnosed.Persists.refl _

/-- The queries of a clause persist as long as at least as many levels are left. Depths may differ,
since only what is left counts. -/
theorem clauseQueries_persists (easing : setting.Eased eased) (depth place : Nat)
    (enough : setting.limit - depth ≤ eased.limit - place) :
    (clause : Clause) → (deep : clause.Asks .geoShape → setting.limit ≤ eased.limit) →
      Diagnosed.Persists (clauseQueries setting depth clause) (clauseQueries eased place clause)
  | .group connective members, deep => by
    rw [clauseQueries, clauseQueries]
    exact Diagnosed.Persists.bind _ _ _ _
      (queries_persists easing (depth + 1) (place + 1) (by omega) members
        fun _ isMember _ stands asks => deep (.group isMember stands asks))
      fun inner => Diagnosed.Persists.refl _
  | .field path operand, deep => by
    rw [clauseQueries, clauseQueries]
    exact Resolve.operand_persists setting eased path easing _ _ enough operand
      fun asks => deep (.field asks)

/-- The queries of clauses in sequence persist as those of each clause do. -/
theorem clausesQueries_persists (easing : setting.Eased eased) (depth place : Nat)
    (enough : setting.limit - depth ≤ eased.limit - place) :
    (clauses : List Clause) →
    (deep : ∀ clause ∈ clauses, clause.Asks .geoShape → setting.limit ≤ eased.limit) →
      Diagnosed.Persists (clausesQueries setting depth clauses)
        (clausesQueries eased place clauses)
  | [], _ => by
    rw [clausesQueries, clausesQueries]
    exact Diagnosed.Persists.refl _
  | clause :: rest, deep => by
    obtain ⟨first, others⟩ := List.forall_mem_cons.mp deep
    rw [clausesQueries, clausesQueries]
    exact Diagnosed.Persists.bind _ _ _ _
      (clauseQueries_persists easing depth place enough clause first)
      fun _ => Diagnosed.Persists.bind _ _ _ _
        (clausesQueries_persists easing depth place enough rest others)
        fun _ => Diagnosed.Persists.refl _

/-- The members of a group persist as their clauses do. -/
theorem queries_persists (easing : setting.Eased eased) (depth place : Nat)
    (enough : setting.limit - depth ≤ eased.limit - place) :
    (members : List (List Clause)) →
    (deep : ∀ member ∈ members, ∀ clause ∈ member, clause.Asks .geoShape →
      setting.limit ≤ eased.limit) →
      Diagnosed.Persists (queries setting depth members) (queries eased place members)
  | [], _ => by
    rw [queries, queries]
    exact Diagnosed.Persists.refl _
  | member :: rest, deep => by
    obtain ⟨first, others⟩ := List.forall_mem_cons.mp deep
    rw [queries, queries]
    exact Diagnosed.Persists.bind _ _ _ _
      (query_persists easing depth place enough member first)
      fun _ => Diagnosed.Persists.bind _ _ _ _
        (queries_persists easing depth place enough rest others)
        fun _ => Diagnosed.Persists.refl _

end

end Building

end Where

/-- What compiles under a setting compiles to the same query with the same warnings under an eased
one with no smaller limit. -/
theorem compile_persists (spec : FilterSpec) (fields eased : FieldContext)
    (capabilities : Capabilities) (limit more : Nat)
    (easing : Resolve.Setting.Eased ⟨fields, capabilities, limit⟩ ⟨eased, capabilities, more⟩)
    (enough : limit ≤ more) :
    Check.Persists (compile spec fields capabilities limit)
      (compile spec eased capabilities more) := by
  intro compiled compiles
  obtain ⟨clauses, read, built⟩ := (compile_eq_ok_iff _ _ _ _ _).mp compiles
  refine (compile_eq_ok_iff _ _ _ _ _).mpr ⟨clauses, ?_, ?_⟩
  · exact Where.ofEntries_persists limit more limit more enough spec.entries clauses read
  · exact Where.query_persists _ _ easing 0 0 enough clauses (fun _ _ _ => enough) _ _ built

/-- The nesting limit only refuses. -/
theorem compile_persists_of_limit (spec : FilterSpec) (fields : FieldContext)
    (capabilities : Capabilities) (limit more : Nat) (enough : limit ≤ more) :
    Check.Persists (compile spec fields capabilities limit)
      (compile spec fields capabilities more) :=
  compile_persists spec fields fields capabilities limit more
    (.of_limit fields capabilities limit more) enough

end SearchFilter
