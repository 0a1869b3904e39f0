import SearchFilter.Proofs.ResolvedLeaves

/-!
# The shapes of compiled trees

Of all operators only that for shapes gives tests for shapes. Negations and groups keep the tests
below them and bounds are merged into ranges, so every test for a shape in a compiled tree was read
from an operand of that operator, on a field that passed the check of its declared type and under
the nesting limit of the compilation.
-/

namespace SearchFilter

namespace Query

/-- Whether the tests in queries have a property, whatever the signs of their predicates. -/
def Leafwise (property : Test → Prop) (queries : List Query) : Prop :=
  ∀ predicate ∈ leavesOfAll queries, property predicate.test

namespace Leafwise

variable {property : Test → Prop} {queries others : List Query}

/-- Of no queries every property holds. -/
theorem nil : Leafwise property [] := List.forall_mem_nil _

/-- Queries put together have a property if both parts do. -/
theorem append_iff :
    Leafwise property (queries ++ others) ↔
      Leafwise property queries ∧ Leafwise property others := by
  rw [Leafwise, leavesOfAll_append, List.forall_mem_append]
  rfl

/-- Queries have a property if the first one and the others do. -/
theorem cons_iff {query : Query} :
    Leafwise property (query :: queries) ↔ Leafwise property [query] ∧ Leafwise property queries :=
  (append_iff : Leafwise property ([query] ++ queries) ↔ _)

/-- A single test has a property if the test itself does. -/
theorem test {test : Test} (has : property test) (field : String) :
    Leafwise property [Query.test field test] :=
  List.forall_mem_singleton.mpr has

/-- A failed test has a property if the test itself does. -/
theorem testNot {test : Test} (has : property test) (field : String) :
    Leafwise property [Query.testNot field test] :=
  List.forall_mem_singleton.mpr has

/-- A group has a property if its members do, whatever its connective is. -/
theorem group_iff (connective : Connective) :
    Leafwise property [.group connective queries] ↔ Leafwise property queries := by
  rw [Leafwise, leavesOfAll_singleton, leaves]
  rfl

/-- Queries put together into one keep a property. -/
theorem allOf (leafwise : Leafwise property queries) : Leafwise property [Query.allOf queries] := by
  rwa [Leafwise, leavesOfAll_singleton, leaves_allOf]

/-- The negation of a query keeps a property of its tests. -/
theorem negate {query : Query} (leafwise : Leafwise property [query]) :
    Leafwise property [query.negate] := by
  cases query with
  | matchAll => exact leafwise
  | group connective members => exact (group_iff .not).mpr leafwise
  | leaf predicate =>
    by_cases negated : predicate.negated = true
    · have grouped : (Query.leaf predicate).negate = .group .not [.leaf predicate] := if_pos negated
      rw [grouped]
      exact (group_iff .not).mpr leafwise
    · have flipped : (Query.leaf predicate).negate = .leaf predicate.flip := if_neg negated
      rw [flipped]
      exact List.forall_mem_singleton.mpr (leafwise predicate (List.mem_singleton_self _))

end Leafwise

end Query

namespace Resolve

open Query (Leafwise)

/-- Whether a test, if it is one for a shape, was read from an operand on a field that may hold
places. -/
def ShapeRead (setting : Setting) (field : String) (test : Test) : Prop :=
  ∀ shape relation, test = .geoShape shape relation →
    requireGeo setting field .geoShape = .ok () ∧
      ∃ given, toShape field setting.limit given = .ok test

/-- A range is no test for a shape, so nothing has to have been read. -/
theorem ShapeRead.range (setting : Setting) (field : String) (interval : Interval) :
    ShapeRead setting field (.range interval) := by
  intro _ _ shaped
  cases shaped

/-! ### Bounds -/

/-- Whether the tests in contributed queries have a property. Bounds become ranges. -/
def Contribution.Leafwise (property : Test → Prop) : Contribution → Prop
  | .bound _ _ => True
  | .queries added => Query.Leafwise property added

section Arranging

variable {property : Test → Prop} (ranges : ∀ interval, property (.range interval)) (field : String)
include ranges

/-- The open range has the property anyway, so only the queries around it are asked. -/
theorem leafwise_queries_iff (progress : Progress) :
    Leafwise property (progress.queries field) ↔
      Leafwise property progress.settled ∧ Leafwise property progress.later := by
  unfold Progress.queries
  split
  · exact Leafwise.append_iff
  · rw [Leafwise.append_iff, Leafwise.cons_iff]
    exact and_congr_right fun _ => and_iff_right (Leafwise.test (ranges _) field)

/-- Arranged contributions have their tests and ranges. The induction is on the contributions. -/
theorem leafwise_arranged (contributions : List Contribution) (progress : Progress)
    (before : Leafwise property (progress.queries field))
    (each : ∀ contribution ∈ contributions, contribution.Leafwise property) :
    Leafwise property
      ((contributions.foldl (Progress.add field) progress).queries field) := by
  induction contributions generalizing progress with
  | nil => exact before
  | cons contribution rest inductionHypothesis =>
    obtain ⟨first, others⟩ := List.forall_mem_cons.mp each
    refine inductionHypothesis _ ?_ others
    cases contribution with
    | queries added =>
      obtain ⟨settled, later⟩ := (leafwise_queries_iff ranges field progress).mp before
      exact (leafwise_queries_iff ranges field _).mpr
        ⟨settled, Leafwise.append_iff.mpr ⟨later, first⟩⟩
    | bound side limit =>
      rw [Progress.add, Progress.bound]
      split
      · exact (leafwise_queries_iff ranges field _).mpr
          ((leafwise_queries_iff ranges field progress).mp before)
      · exact (leafwise_queries_iff ranges field _).mpr ⟨before, Leafwise.nil⟩

end Arranging

/-! ### Conditions without operands inside -/

section Plain

variable {setting : Setting} {field : String}

/-- A predicate has a property if its test does, negated or not. -/
theorem leafwise_leaf {property : Test → Prop} {test : Test} (has : property test)
    (negated : Bool) : Leafwise property [.leaf ⟨field, negated, test⟩] :=
  List.forall_mem_singleton.mpr has

/-- Membership in a sequence gives no test for a shape. -/
theorem MembershipForm.shapeRead {negated : Bool} {items : List (Option Scalar)} {query : Query}
    (form : MembershipForm field negated items query) :
    Leafwise (ShapeRead setting field) [query] := by
  have present : Leafwise (ShapeRead setting field) [.leaf ⟨field, !negated, .present⟩] :=
    leafwise_leaf nofun _
  have members : Leafwise (ShapeRead setting field)
      [.leaf ⟨field, negated, .termSet .any (items.filterMap id)⟩] := leafwise_leaf nofun _
  cases form with
  | members _ => exact members
  | missing => exact present
  | either _ => exact (Leafwise.group_iff _).mpr (Leafwise.cons_iff.mpr ⟨present, members⟩)

/-- An operand that is no operator map gives no test for a shape. -/
theorem PlainForm.shapeRead {shape : Operand} {queries : List Query} {warnings : List Warning}
    (form : PlainForm setting field shape queries warnings) :
    Leafwise (ShapeRead setting field) queries := by
  cases form with
  | null => exact Leafwise.testNot nofun field
  | scalar _ | interval _ => exact Leafwise.test nofun field
  | list _ membership => exact membership.shapeRead
  | pattern built =>
    obtain rfl := patternLiteral_eq_done _ _ _ _ _ built
    exact Leafwise.test nofun field

/-- The operator for shapes reads its operand, and the other operators give no test for a shape. -/
theorem OperatorForm.shapeRead {entries : List (Operator × Value)} {op : Operator} {value : Value}
    {queries : List Query} {warnings : List Warning}
    (form : OperatorForm setting field entries op value queries warnings)
    (permitted : placeCheck setting field op = .ok ()) :
    Leafwise (ShapeRead setting field) queries := by
  cases form with
  | within _ | bottomRight _ | bottomLeft _ => exact Leafwise.nil
  | oneOf _ membership => exact membership.shapeRead
  | present wanted => exact leafwise_leaf nofun _
  | geoShape built => exact Leafwise.test (fun _ _ _ => ⟨permitted, value, built⟩) field
  | _ => exact Leafwise.test nofun field

end Plain

/-! ### Conditions with operands inside -/

section Entries

variable (setting : Setting) (enter : Operand → Diagnosed (List Query)) (field : String)

/-- Whether the shapes in the queries of operands were read. -/
def ReadsShapes : Prop :=
  ∀ shape queries warnings, enter shape = .done queries warnings →
    Leafwise (ShapeRead setting field) queries

variable (reads : ReadsShapes setting enter field)
include reads

/-- A negation gives tests for shapes only where the operand inside it does. -/
theorem NegationForm.shapeRead {shape : Operand} {query : Query} {warnings : List Warning}
    (form : NegationForm enter field shape query warnings) :
    Leafwise (ShapeRead setting field) [query] := by
  cases form with
  | null => exact Leafwise.test nofun field
  | scalar _ => exact Leafwise.testNot nofun field
  | list _ membership => exact membership.shapeRead
  | @entered shape queries warnings resolved =>
    exact (reads shape queries warnings resolved).allOf.negate

/-- What an entry contributes has tests for shapes that were read, with the check of the field
behind it. -/
theorem ContributionForm.shapeRead {entries : List (Operator × Value)} {op : Operator}
    {value : Value} {contribution : Contribution} {warnings : List Warning}
    (form : ContributionForm setting enter field entries op value contribution warnings)
    (permitted : placeCheck setting field op = .ok ()) :
    contribution.Leafwise (ShapeRead setting field) := by
  cases form with
  | bound _ _ => trivial
  | @equality shape queries warnings _ resolved => exact reads shape queries warnings resolved
  | negation form => exact form.shapeRead setting enter field reads
  | simple form => exact form.shapeRead permitted

/-- The contributions of entries have tests for shapes that were read, one by one. -/
theorem contributions_shapeRead (entries rest : List (Operator × Value))
    (contributions : List Contribution) (warnings : List Warning)
    (done : rest.mapM (contribution setting enter field entries) = .done contributions warnings) :
    ∀ contribution ∈ contributions, contribution.Leafwise (ShapeRead setting field) := by
  have pointwise := Diagnosed.forall₂_of_mapM_eq_done _ _ _ _ done
  clear done
  induction pointwise with
  | nil => exact List.forall_mem_nil _
  | cons first _ inductionHypothesis =>
    obtain ⟨raised, step⟩ := first
    obtain ⟨permitted, form⟩ := contribution_form step
    exact List.forall_mem_cons.mpr
      ⟨form.shapeRead setting enter field reads permitted, inductionHypothesis⟩

/-- The queries of an operand have tests for shapes that were read if those of the operands inside
it do. -/
theorem operandWith_readsShapes : ReadsShapes setting (operandWith setting enter field) field := by
  intro shape queries warnings done
  cases operandWith_form done with
  | ops contributed =>
    exact leafwise_arranged (ShapeRead.range setting field) field _ .start Leafwise.nil
      (contributions_shapeRead setting enter field reads _ _ _ warnings contributed)
  | plain form => exact form.shapeRead

omit reads in
/-- Shapes were read, however deep the operands nest. -/
theorem operand_readsShapes (levels : Nat) :
    ReadsShapes setting (operand setting field levels) field := by
  have refused : ReadsShapes setting (fun _ => .failed (.depthLimitExceeded setting.limit))
      field := by
    intro shape queries warnings done
    cases done
  exact operand_of_levels setting field (fun _ enter => ReadsShapes setting enter field) refused
    (fun _ enter reads => operandWith_readsShapes setting enter field reads) levels

end Entries

end Resolve

/-- Whatever test for a shape is in a compiled tree, its field is what a key other than a combinator
stands for, and the test was read from an operand on that field. -/
theorem shapeRead_of_compile (spec : FilterSpec) (fields : FieldContext)
    (capabilities : Capabilities) (limit : Nat) (compiled : CompiledQuery)
    (compiles : compile spec fields capabilities limit = .ok compiled) :
    ∀ predicate ∈ compiled.root.leaves,
      (∃ key, Combinator.ofKey? key = none ∧ predicate.field = Where.pathOf key) ∧
        Resolve.ShapeRead ⟨fields, capabilities, limit⟩ predicate.field predicate.test := by
  intro predicate member
  obtain ⟨item, listed, predicates, _, done, resolved⟩ :=
    Diagnosed.exists_of_mem_of_collect_eq_done _ _ _ _
      (resolved_of_compile spec fields capabilities limit compiled compiles) predicate member
  have keyed := Outline.keyed_ofEntries 0 _ item listed
  cases item with
  | spec depth =>
    obtain ⟨rfl, -⟩ := Diagnosed.done.inj done
    cases resolved
  | condition depth field value =>
    obtain ⟨shape, _, _, -, entered, -⟩ := (Diagnosed.bind_eq_done_iff _ _ _ _).mp done
    obtain ⟨queries, operandDone, rfl⟩ := (Diagnosed.map_eq_done_iff _ _ _ _).mp entered
    obtain rfl := (Resolve.operand_fits _ field _ shape queries _ operandDone).fields predicate
      resolved
    exact ⟨keyed, Resolve.operand_readsShapes _ _ _ shape queries _ operandDone predicate resolved⟩

end SearchFilter
