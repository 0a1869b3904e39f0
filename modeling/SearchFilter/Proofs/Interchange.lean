import SearchFilter.Proofs.Demands
import SearchFilter.Proofs.Negation
import SearchFilter.Proofs.SiblingOrder

/-!
# Conditions in the place of each other

A condition can be put into the place of another one that is resolved to related queries: on its
field, under negations in the operator map of the field, and in sub-specifications at any depth. The
whole specification is then compiled to a related query and raises the same warnings. What is needed
of the relation is that it is kept by everything that is ever done with the queries of a condition.
They are put among others, negated as a whole and put into groups; being equal is kept by that, and
so is selecting the same documents.
-/

namespace SearchFilter

open Check (bind_eq_ok_iff map_eq_ok_iff)

/-! ### What is done with queries -/

/-- A relation between queries that all have to hold which is kept when they are put among others,
negated together, put into groups and made the query of a specification. -/
structure Query.Compatible (related : List Query → List Query → Prop) : Prop where
  refl : ∀ queries, related queries queries
  append : ∀ {queries others following otherFollowing}, related queries others →
    related following otherFollowing → related (queries ++ following) (others ++ otherFollowing)
  negate : ∀ {queries others}, related queries others →
    related [(Query.allOf queries).negate] [(Query.allOf others).negate]
  conjoin : ∀ {queries others}, related queries others →
    related [.group .and queries] [.group .and others]
  group : ∀ connective {members others},
    List.Forall₂ (fun member other => related [member] [other]) members others →
      related [.group connective members] [.group connective others]

/-- Equal queries stay equal whatever is done with them. -/
theorem Query.Compatible.eq : Query.Compatible Eq where
  refl _ := rfl
  append same following := same ▸ following ▸ rfl
  negate same := same ▸ rfl
  conjoin same := same ▸ rfl
  group connective members others each := by
    have same : members = others := by
      rw [← List.forall₂_eq_eq_eq]
      exact each.imp fun _ _ => List.head_eq_of_cons_eq
    rw [same]

/-- Queries that select alike go on to do so among others, negated and in groups. -/
theorem Query.Compatible.allAlike : Query.Compatible Query.AllAlike where
  refl := AllAlike.refl
  append := AllAlike.append
  negate alike document := by
    have together := alike document
    simp only [selectedByAll_eq_all] at together
    simp only [selectedByAll_eq_all, List.all_cons, List.all_nil, Bool.and_true, selects_negate,
      selects_allOf, together]
  conjoin alike document := by
    have together := alike document
    simp only [selectedByAll_eq_all] at together
    simp only [selectedByAll_eq_all, List.all_cons, List.all_nil, Bool.and_true, selects_and,
      together]
  group connective members others each := by
    refine allAlike_group connective (each.imp fun member other alike document => ?_)
    simpa using alike document

/-! ### Contributions in the place of each other -/

namespace Resolve

open Diagnosed (Paired)

/-- An operator map is resolved by collecting what its entries contribute and arranging it. -/
theorem operand_ops_eq (setting : Setting) (field : String) (levels : Nat)
    (entries : List (Operator × Value)) :
    operand setting field levels (.ops entries) =
      (fun contributions =>
          (contributions.foldl (Progress.add field) .start).queries field) <$>
        entries.mapM (contribution setting (entering setting field levels) field entries) := by
  rw [operand_eq_operandWith, operandWith, takeUpAll_eq, ← map_eq_pure_bind, Functor.map_map]

/-- Once the contributions of a map are known, the map resolves to what they are arranged into. -/
theorem operand_eq_of_contributions (setting : Setting) (field : String) (levels : Nat)
    {entries : List (Operator × Value)} {contributions : List Contribution}
    {warnings : List Warning}
    (contributed : entries.mapM (contribution setting (entering setting field levels) field
      entries) = .done contributions warnings) :
    operand setting field levels (.ops entries) =
      .done ((contributions.foldl (Progress.add field) .start).queries field) warnings := by
  rw [operand_ops_eq, contributed]
  simp only [map_eq_pure_bind, Diagnosed.done_bind, Diagnosed.pure_eq, List.append_nil]

/-- Contributions of one entry of an operator map that are equal or related queries. -/
inductive Contribution.Related (related : List Query → List Query → Prop) :
    Contribution → Contribution → Prop
  | same (contribution : Contribution) : Related related contribution contribution
  | queries {queries others : List Query} (are : related queries others) :
    Related related (.queries queries) (.queries others)

/-- Progress that is the same up to related queries. -/
structure Progress.Related (related : List Query → List Query → Prop) (progress other : Progress) :
    Prop where
  settled : related progress.settled other.settled
  openRange : progress.openRange = other.openRange
  later : related progress.later other.later

section Arranging

variable {related : List Query → List Query → Prop} (compatible : Query.Compatible related)
  (field : String) {progress other : Progress}
include compatible

/-- The queries of related progresses are related as wholes. -/
theorem Progress.Related.queries (are : Progress.Related related progress other) :
    related (progress.queries field) (other.queries field) := by
  rw [Progress.queries, Progress.queries, are.openRange]
  cases other.openRange with
  | none => exact compatible.append are.settled are.later
  | some interval =>
    exact compatible.append are.settled (compatible.append (compatible.refl [_]) are.later)

/-- Related contributions keep progresses related. A bound is the same on both sides, so it goes to
the same place. -/
theorem Progress.Related.add {contribution otherContribution : Contribution}
    (are : Progress.Related related progress other)
    (contributions : Contribution.Related related contribution otherContribution) :
    Progress.Related related (progress.add field contribution)
      (other.add field otherContribution) := by
  cases contributions with
  | queries added => exact ⟨are.settled, are.openRange, compatible.append are.later added⟩
  | same =>
    cases contribution with
    | queries added =>
      exact ⟨are.settled, are.openRange, compatible.append are.later (compatible.refl added)⟩
    | bound side limit =>
      rw [Progress.add, Progress.add, Progress.bound, Progress.bound, are.openRange]
      cases other.openRange.bind (fill? side limit) with
      | some merged => exact ⟨are.settled, rfl, are.later⟩
      | none => exact ⟨are.queries compatible field, rfl, compatible.refl []⟩

/-- Contributions that are related one by one are arranged into related queries. -/
theorem Progress.Related.arranged {contributions others : List Contribution}
    (each : List.Forall₂ (Contribution.Related related) contributions others)
    (are : Progress.Related related progress other) :
    Progress.Related related (contributions.foldl (Progress.add field) progress)
      (others.foldl (Progress.add field) other) := by
  induction each generalizing progress other with
  | nil => exact are
  | cons first _ inductionHypothesis => exact inductionHypothesis (are.add compatible field first)

/-- Operator maps are resolved to related queries if their entries contribute related ones. -/
theorem operandWith_paired {setting : Setting}
    {enter otherEnter : Operand → Diagnosed (List Query)}
    {entries others : List (Operator × Value)}
    (each : List.Forall₂ (fun entry given => Paired Eq (Contribution.Related related)
        (contribution setting enter field entries entry)
        (contribution setting otherEnter field others given)) entries others) :
    Paired Eq related (operandWith setting enter field (.ops entries))
      (operandWith setting otherEnter field (.ops others)) := by
  have start : Progress.Related related .start .start :=
    ⟨compatible.refl [], rfl, compatible.refl []⟩
  simp only [operandWith, takeUpAll_eq]
  have arranged := (Paired.mapM each).map (List.foldl (Progress.add field) .start)
    (List.foldl (Progress.add field) .start) fun _ _ contributions =>
      start.arranged compatible field contributions
  exact arranged.bind fun _ _ are => .pure (are.queries compatible field)

end Arranging

/-- A negation enters its operand, unless that has a negation of its own. -/
theorem negation_eq_of_entered (enter : Operand → Diagnosed (List Query)) (field : String)
    {value : Value} (entered : value.hasOwnNegation = false) :
    negation enter field value =
      (fun queries => (Query.allOf queries).negate) <$>
        (Diagnosed.lift (Operand.ofValue field value) >>= enter) := by
  cases value with
  | null | scalar _ | list _ => cases entered
  | interval value =>
    simp only [negation, Operand.ofValue, Diagnosed.lift_ok_bind, map_eq_pure_bind]
  | pattern value =>
    simp only [negation, Operand.ofValue, Diagnosed.lift_ok_bind, map_eq_pure_bind]
  | map entries =>
    rw [negation, Operand.ofValue]
    cases entries.mapM Operand.entry with
    | error error => rfl
    | ok entries => simp only [Except.map, Diagnosed.lift_ok_bind, map_eq_pure_bind]

/-- A map is no operand for an operator that takes a sequence, whatever stands in it. -/
theorem not_sequence_of_map (field : String) (op : Operator) (given : List (Key × Value)) :
    ∃ error, sequenceOperand field op (.map given) = .error error := by
  rw [sequenceOperand, Operand.ofValue]
  cases given.mapM Operand.entry with
  | error error => exact ⟨_, rfl⟩
  | ok entries => exact ⟨_, rfl⟩

/-- Of the operators that are not on places, only the negation takes a map for its operand. -/
theorem contribution_of_map_refused (setting : Setting) (enter : Operand → Diagnosed (List Query))
    (field : String) (entries : List (Operator × Value)) {op : Operator}
    (notOnPlaces : op.isGeo = false) (notNegation : op ≠ .negation) (given : List (Key × Value)) :
    ∃ error, contribution setting enter field entries (op, .map given) = .failed error := by
  obtain ⟨_, noSequence⟩ := not_sequence_of_map field op given
  rw [contribution, placeCheck, notOnPlaces]
  cases op with
  | negation => exact absurd rfl notNegation
  | equal =>
    simp only [contributed, sideOf?, equality, Operand.ofValue]
    cases given.mapM Operand.entry with
    | error error => exact ⟨_, rfl⟩
    | ok entries => exact ⟨_, rfl⟩
  | oneOf =>
    simp only [contributed, sideOf?, simpleEntry, noSequence]
    exact ⟨_, rfl⟩
  | allOf =>
    simp only [contributed, sideOf?, simpleEntry, noSequence]
    cases requireArray setting field with
    | error error => exact ⟨_, rfl⟩
    | ok _ => exact ⟨_, rfl⟩
  | greater | greaterOrEqual | less | lessOrEqual => exact ⟨_, rfl⟩
  | present | startsWith | regexp | like | likeAnyCase => exact ⟨_, rfl⟩
  | _ => cases notOnPlaces

end Resolve

/-! ### Conditions -/

/-- Whether the queries that a condition is resolved to can be had from another condition up to a
relation, beside anything and under a negation. -/
structure Value.Exchanged (related : List Query → List Query → Prop) (value other : Value) :
    Prop where
  entered : value.hasOwnNegation = false
  otherEntered : other.hasOwnNegation = false
  shapes : ∀ field, Check.Mirrored
    (fun shape otherShape => ∀ setting field levels, Diagnosed.Paired Eq related
      (Resolve.operand setting field levels shape)
      (Resolve.operand setting field levels otherShape))
    (Operand.ofValue field value) (Operand.ofValue field other)

/-- Values may be exchanged if they have shapes that resolve to related queries with the same
warnings, and neither has a negation of its own. -/
theorem Value.Exchanged.of_shapes {related : List Query → List Query → Prop} {value other : Value}
    {shape otherShape : Operand} (entered : value.hasOwnNegation = false)
    (otherEntered : other.hasOwnNegation = false)
    (shaped : ∀ field, Operand.ofValue field value = .ok shape)
    (otherShaped : ∀ field, Operand.ofValue field other = .ok otherShape)
    (resolved : ∀ setting field levels, Diagnosed.Paired Eq related
      (Resolve.operand setting field levels shape)
      (Resolve.operand setting field levels otherShape)) :
    value.Exchanged related other := by
  refine ⟨entered, otherEntered, fun field => ?_⟩
  rw [shaped field, otherShaped field]
  exact .ok resolved

/-- A condition to which a rule is applied, or an operator map in which it is applied to the operand
of an operator, at any depth. -/
inductive Value.Applied (through : Operator → Prop) (rule : Value → Value → Prop) :
    Value → Value → Prop
  | here {value other : Value} (applies : rule value other) : Applied through rule value other
  | operand {value other : Value} (op : Operator) (enters : through op)
      (before after : List (Key × Value)) (applied : Applied through rule value other) :
      Applied through rule (.map (before ++ (.op op, value) :: after))
        (.map (before ++ (.op op, other) :: after))

/-- A rule applied somewhere inside a value is undone by the reversed rule in the same place. -/
theorem Value.Applied.reverse {through : Operator → Prop} {rule : Value → Value → Prop}
    {value other : Value} (applied : Value.Applied through rule value other) :
    Value.Applied through (flip rule) other value := by
  induction applied with
  | here applies => exact .here applies
  | operand op enters before after _ inductionHypothesis =>
    exact .operand op enters before after inductionHypothesis

section Exchanging

variable {related : List Query → List Query → Prop} (compatible : Query.Compatible related)
include compatible

open Diagnosed (Paired)
open Resolve (Setting)

/-- The negations of exchanged values are related as single queries. -/
theorem Value.Exchanged.negation {value other : Value} (exchanged : value.Exchanged related other)
    (setting : Setting) (field : String) (levels : Nat) :
    Paired Eq (fun query otherQuery => related [query] [otherQuery])
      (Resolve.negation (Resolve.entering setting field levels) field value)
      (Resolve.negation (Resolve.entering setting field levels) field other) := by
  rw [Resolve.negation_eq_of_entered _ _ exchanged.entered,
    Resolve.negation_eq_of_entered _ _ exchanged.otherEntered]
  refine Paired.map _ _ ?_ fun _ _ => compatible.negate
  intro queries warnings done
  obtain ⟨shape, earlier, later, lifted, resolved, rfl⟩ :=
    (Diagnosed.bind_eq_done_iff _ _ _ _).mp done
  obtain ⟨shaped, rfl⟩ := (Diagnosed.lift_eq_done_iff _ _ _).mp lifted
  obtain ⟨otherShape, otherShaped, are⟩ := exchanged.shapes field shape shaped
  rw [otherShaped, Diagnosed.lift_ok_bind]
  cases levels with
  | zero => cases resolved
  | succ levels => exact are setting field levels queries later resolved

/-- In the place of the operand of a negation, what can be exchanged keeps what the negation
contributes. -/
theorem Value.Exchanged.contribution {value other : Value}
    (exchanged : value.Exchanged related other) (setting : Setting) (field : String) (levels : Nat)
    (entries : List (Operator × Value)) :
    Paired Eq (Resolve.Contribution.Related related)
      (Resolve.contribution setting (Resolve.entering setting field levels) field entries
        (.negation, value))
      (Resolve.contribution setting (Resolve.entering setting field levels) field entries
        (.negation, other)) := by
  refine Paired.rfl.bind fun _ _ _ => ?_
  exact (exchanged.negation compatible setting field levels).bind fun _ _ are =>
    .pure (.queries are)

/-- A rule that keeps what a condition is resolved to does so at any depth in its operands. The
induction is on the operator maps around the condition to which the rule is applied. -/
theorem Value.Applied.exchanged {through : Operator → Prop} {rule : Value → Value → Prop}
    (kept : ∀ value other, rule value other → value.Exchanged related other)
    (notOnPlaces : ∀ op, through op → op.isGeo = false)
    (maps : ∀ op, through op → op ≠ .negation →
      ∀ value other, rule value other → ∃ entries, value = .map entries)
    {value other : Value} (applied : Value.Applied through rule value other) :
    value.Exchanged related other := by
  induction applied with
  | here applies => exact kept _ _ applies
  | @operand value other op enters before after applied inductionHypothesis =>
    refine ⟨rfl, rfl, fun field shape shaped => ?_⟩
    obtain ⟨entries, read, rfl⟩ := (map_eq_ok_iff _ _ _).mp shaped
    obtain ⟨earlier, later, rfl, again⟩ := Check.mapM_replaced Operand.entry Resolve.keyed
      Operand.entry_eq_ok_iff before after (op, value) entries read
    refine ⟨_, (map_eq_ok_iff _ _ _).mpr ⟨_, again (op, other), rfl⟩, ?_⟩
    intro setting field levels
    rw [Resolve.operand_eq_operandWith]
    apply Resolve.operandWith_paired compatible
    -- The entries that look for partners find them as before, since the changed one is no operator
    -- on places.
    have partners (wanted : Operator) (onPlaces : wanted.isGeo = true) :
        Resolve.partner? wanted (earlier ++ (op, value) :: later) =
          Resolve.partner? wanted (earlier ++ (op, other) :: later) := by
      apply Resolve.partner?_replaced
      rintro rfl
      exact absurd (notOnPlaces op enters) (by rw [onPlaces]; decide)
    rw [Resolve.contribution_congr setting _ field _ _ partners]
    apply forall₂_of_replaced
    · exact fun entry => .refl .same _
    -- An operand that is a map is resolved under a negation and refused everywhere else.
    · by_cases negates : op = .negation
      · subst negates
        exact inductionHypothesis.contribution compatible setting field levels _
      · obtain ⟨given, rfl⟩ : ∃ given, value = .map given := by
          cases applied with
          | here applies => exact maps op enters negates _ _ applies
          | operand => exact ⟨_, rfl⟩
        obtain ⟨error, refused⟩ := Resolve.contribution_of_map_refused setting
          (Resolve.entering setting field levels) field (earlier ++ (op, other) :: later)
          (notOnPlaces op enters) negates given
        rw [refused]
        exact .of_failed error _

end Exchanging

/-! ### Specifications -/

namespace Where

open Diagnosed (Paired)
open Resolve (Setting)

/-- Whether clauses are built into related queries wherever they stand. -/
structure Exchanged (related : List Query → List Query → Prop) (clauses others : List Clause) :
    Prop where
  empty : clauses = [] ↔ others = []
  queries : ∀ setting depth, Paired Eq related (clausesQueries setting depth clauses)
    (clausesQueries setting depth others)

/-- The query of at least one clause is the conjunction of what the clauses are built into. -/
theorem query_eq_of_ne_nil (setting : Setting) (depth : Nat) {clauses : List Clause}
    (some : clauses ≠ []) :
    query setting depth clauses = Query.group .and <$> clausesQueries setting depth clauses := by
  cases clauses with
  | nil => exact absurd rfl some
  | cons clause rest =>
    simp only [query, clausesQueries, map_eq_pure_bind, bind_assoc, pure_bind]

/-- A rule that is applied to the condition under a key that names a field. -/
inductive AtField (rule : Value → Value → Prop) : String × Value → String × Value → Prop
  | intro {value other : Value} (key : String) (isField : Combinator.ofKey? key = none)
      (applies : rule value other) : AtField rule (key, value) (key, other)

/-- A rule applied to the condition of a field is undone by the reversed rule. -/
theorem AtField.reverse {rule : Value → Value → Prop} {entry other : String × Value}
    (atField : AtField rule entry other) : AtField (flip rule) other entry := by
  obtain ⟨key, isField, applies⟩ := atField
  exact .intro key isField applies

section Exchanging

variable {related : List Query → List Query → Prop} (compatible : Query.Compatible related)
include compatible

/-- Exchanged clauses give related queries when they are put together into one, at every depth. -/
theorem Exchanged.query {clauses others : List Clause}
    (exchanged : Exchanged related clauses others) (setting : Setting) (depth : Nat) :
    Paired Eq (fun query otherQuery => related [query] [otherQuery])
      (query setting depth clauses) (query setting depth others) := by
  by_cases none : clauses = []
  · rw [none, exchanged.empty.mp none]
    exact .refl (fun query => compatible.refl [query]) _
  · rw [query_eq_of_ne_nil setting depth none,
      query_eq_of_ne_nil setting depth (mt exchanged.empty.mpr none)]
    exact (exchanged.queries setting depth).map _ _ fun _ _ => compatible.conjoin

/-- The assembly of clauses keeps what is built from them up to the relation. -/
theorem Congruence.exchanged : Congruence (Exchanged related) where
  refl clauses := ⟨Iff.rfl, fun _ _ => .refl compatible.refl _⟩
  append exchanged following := by
    constructor
    · rw [List.append_eq_nil_iff, List.append_eq_nil_iff, exchanged.empty, following.empty]
    · intro setting depth
      rw [clausesQueries_append_eq, clausesQueries_append_eq]
      exact (exchanged.queries setting depth).bind fun _ _ first =>
        (following.queries setting depth).bind fun _ _ second =>
          .pure (compatible.append first second)
  group connective members others each := by
    constructor
    · exact iff_of_false (List.cons_ne_nil _ _) (List.cons_ne_nil _ _)
    · intro setting depth
      rw [groupQueries_eq, groupQueries_eq]
      have inner := Paired.mapM
        (each.imp fun _ _ exchanged => exchanged.query compatible setting (depth + 1))
      exact inner.map _ _ fun _ _ => compatible.group connective

variable {rule : Value → Value → Prop}
  (kept : ∀ value other, rule value other → value.Exchanged related other) (limit : Nat)
include kept

omit compatible in
/-- An entry whose condition is exchanged is read into exchanged clauses, or neither entry is
read. -/
theorem entryClauses_exchanged (levels : Nat) (entry other : String × Value)
    (applied : AtField rule entry other) :
    Check.Mirrored (Exchanged related) (entryClauses (entering limit levels) entry)
      (entryClauses (entering limit levels) other) := by
  obtain ⟨key, isField, applies⟩ := applied
  simp only [entryClauses, isField]
  refine ((kept _ _ applies).shapes (pathOf key)).bind fun shape otherShape are => .ok ?_
  constructor
  · exact iff_of_false (List.cons_ne_nil _ _) (List.cons_ne_nil _ _)
  · intro setting depth
    rw [clausesQueries_singleton, clausesQueries_singleton]
    exact are setting (pathOf key) (setting.limit - depth)

/-- Entries of which one has an exchanged condition somewhere inside are read into exchanged
clauses, at every number of levels. -/
theorem ofEntries_exchanged (levels : Nat) {entries others : List (String × Value)}
    (rewritten : RewrittenAmong (AtField rule) entries others) :
    Check.Mirrored (Exchanged related) (ofEntries limit levels entries)
      (ofEntries limit levels others) :=
  ofEntries_rewritten (.exchanged compatible) limit (entryClauses_exchanged kept limit) levels
    rewritten

omit kept in
/-- The rule can be applied backwards if what it gives can be exchanged for what it is given. -/
theorem ofEntries_exchanged_reverse
    (kept : ∀ value other, rule value other → other.Exchanged related value) (levels : Nat)
    {entries others : List (String × Value)}
    (rewritten : RewrittenAmong (AtField rule) entries others) :
    Check.Mirrored (Exchanged related) (ofEntries limit levels others)
      (ofEntries limit levels entries) :=
  ofEntries_rewritten (.exchanged compatible) limit
    (fun levels entry other applied =>
      entryClauses_exchanged (fun value other => kept other value) limit levels entry other
        applied.reverse)
    levels rewritten.reverse

omit kept in
/-- Clauses that can be exchanged for others are built into a related query. -/
theorem query_exchanged {check other : Except CompileError Where}
    (read : Check.Mirrored (Exchanged related) check other) {setting : Setting} {depth : Nat}
    {root : Query} {warnings : List Warning}
    (built : ∃ clauses, check = .ok clauses ∧
      Where.query setting depth clauses = .done root warnings) :
    ∃ otherRoot, (∃ others, other = .ok others ∧
      Where.query setting depth others = .done otherRoot warnings) ∧
        related [root] [otherRoot] := by
  obtain ⟨clauses, checked, done⟩ := built
  obtain ⟨others, otherChecked, exchanged⟩ := read clauses checked
  obtain ⟨otherRoot, _, otherDone, are, rfl⟩ := exchanged.query compatible setting depth _ _ done
  exact ⟨otherRoot, ⟨others, otherChecked, otherDone⟩, are⟩

end Exchanging

end Where

end SearchFilter
