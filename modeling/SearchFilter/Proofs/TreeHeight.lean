import SearchFilter.Proofs.BoundPlacement
import SearchFilter.Proofs.Gates
import SearchFilter.Proofs.ShapeLeaves
import SearchFilter.Proofs.ShapeReturn

/-!
# The height of compiled trees

The limit on nesting bounds the height of what is compiled. A sub-specification adds two nodes to a
path, the group it stands in and the conjunction of its clauses; an operand inside a negation adds
at most two, the conjunction of its queries and the negation; and a list with a null in it adds one
at the end. Both kinds of nesting draw on the same limit, so no path has more than two nodes for
each level and three more (`compiled_height_le`). What recurs on a compiled tree, such as the
selection of documents or the body for the engine, therefore never nests more calls than that.
-/

namespace SearchFilter

/-! ### Heights -/

mutual

/-- The number of nodes on the longest path from the root of a query. -/
def Query.height : Query → Nat
  | .group _ members => 1 + Query.tallest members
  | .matchAll | .leaf _ => 1

/-- The height of the tallest of several queries. -/
def Query.tallest : List Query → Nat
  | [] => 0
  | query :: rest => max query.height (Query.tallest rest)

end

mutual

/-- How deep coordinates nest, where a point counts one. -/
def Coordinates.height : Coordinates → Nat
  | .point _ => 1
  | .list items => 1 + Coordinates.deepest items

/-- The height of the deepest of several coordinates. -/
def Coordinates.deepest : List Coordinates → Nat
  | [] => 0
  | item :: rest => max item.height (Coordinates.deepest rest)

end

namespace Query

/-- The tallest of some queries stays within a bound if each of them does. -/
theorem tallest_le_iff (queries : List Query) (bound : Nat) :
    tallest queries ≤ bound ↔ ∀ query ∈ queries, query.height ≤ bound := by
  induction queries with
  | nil => simp [tallest]
  | cons query rest inductionHypothesis =>
    rw [tallest, Nat.max_le, inductionHypothesis, List.forall_mem_cons]

/-- A tree has at least one node. -/
theorem height_pos (query : Query) : 0 < query.height := by
  cases query with
  | group connective members =>
    rw [height]
    omega
  | _ => simp [height]

/-- Of queries put together the tallest one counts. -/
@[simp] theorem tallest_append (queries others : List Query) :
    tallest (queries ++ others) = max (tallest queries) (tallest others) := by
  induction queries with
  | nil => simp [tallest]
  | cons query rest inductionHypothesis =>
    simp only [List.cons_append, tallest, inductionHypothesis, max_assoc]

/-- One query is the tallest of itself. -/
@[simp] theorem tallest_singleton (query : Query) : tallest [query] = query.height :=
  Nat.max_zero _

/-- A negation adds at most one node. -/
theorem height_negate_le (query : Query) : query.negate.height ≤ 1 + query.height := by
  cases query with
  | leaf predicate =>
    rw [negate]
    split <;> simp [height]
  | _ => simp [negate, height]

/-- All queries together have at most one node above them. -/
theorem height_allOf_le (queries : List Query) : (allOf queries).height ≤ 1 + tallest queries := by
  match queries with
  | [] => exact Nat.le_refl _
  | [query] =>
    rw [allOf, tallest_singleton]
    omega
  | _ :: _ :: _ => exact Nat.le_refl _

end Query

namespace Coordinates

/-- Coordinates have at least one node. -/
theorem height_pos (coordinates : Coordinates) : 0 < coordinates.height := by
  cases coordinates with
  | point value => simp [height]
  | list items =>
    rw [height]
    omega

/-- The deepest of some coordinates stays within a bound if each of them does. -/
theorem deepest_le_iff (items : List Coordinates) (bound : Nat) :
    deepest items ≤ bound ↔ ∀ item ∈ items, item.height ≤ bound := by
  induction items with
  | nil => simp [deepest]
  | cons item rest inductionHypothesis =>
    rw [deepest, Nat.max_le, inductionHypothesis, List.forall_mem_cons]

end Coordinates

/-! ### Conditions without operands inside -/

namespace Resolve

open Query (tallest)

section Plain

variable {setting : Setting} {field : String}

/-- Membership in a sequence is a predicate, or a group of two for a sequence with a null. -/
theorem MembershipForm.height {negated : Bool} {items : List (Option Scalar)} {query : Query}
    (form : MembershipForm field negated items query) : query.height ≤ 2 := by
  cases form with
  | members _ | missing => exact Nat.le_succ 1
  | either _ => exact Nat.le_refl 2

/-- An operand that is no operator map adds at most the group for a null. -/
theorem PlainForm.height {shape : Operand} {queries : List Query} {warnings : List Warning}
    (form : PlainForm setting field shape queries warnings) : tallest queries ≤ 2 := by
  cases form with
  | list _ membership => exact (Query.tallest_singleton _).trans_le membership.height
  | _ => exact Nat.le_succ 1

/-- An operator whose operand is not entered gives a predicate, or a group of two for a list with a
null in it. -/
theorem OperatorForm.height {entries : List (Operator × Value)} {op : Operator} {value : Value}
    {queries : List Query} {warnings : List Warning}
    (form : OperatorForm setting field entries op value queries warnings) :
    tallest queries ≤ 2 := by
  cases form with
  | within _ | bottomRight _ | bottomLeft _ => exact Nat.zero_le 2
  | oneOf _ membership => exact (Query.tallest_singleton _).trans_le membership.height
  | _ => exact Nat.le_succ 1

end Plain

/-! ### Conditions with operands inside -/

section Entries

variable (setting : Setting) (enter : Operand → Diagnosed (List Query)) (field : String)
  (bound : Nat)

/-- Whether the queries of operands are at most this tall. -/
def Bounded : Prop :=
  ∀ shape queries warnings, enter shape = .done queries warnings → tallest queries ≤ bound

variable {setting enter field bound} (bounded : Bounded enter bound)
include bounded

/-- A negation adds at most two nodes to its operand, the conjunction and the negation of it. -/
theorem NegationForm.height {shape : Operand} {query : Query} {warnings : List Warning}
    (form : NegationForm enter field shape query warnings) : query.height ≤ bound + 2 := by
  cases form with
  | null | scalar _ => exact Nat.le_add_left 1 (bound + 1)
  | list _ membership => exact membership.height.trans (Nat.le_add_left 2 bound)
  | @entered shape queries warnings resolved =>
    have inner := bounded shape queries warnings resolved
    have conjoined := Query.height_allOf_le queries
    have negated := Query.height_negate_le (Query.allOf queries)
    omega

/-- What an entry contributes is at most two nodes taller than operands that are entered. -/
theorem ContributionForm.height {entries : List (Operator × Value)} {op : Operator} {value : Value}
    {given : List Query} {warnings : List Warning}
    (form : ContributionForm setting enter field entries op value (.queries given) warnings) :
    tallest given ≤ bound + 2 := by
  cases form with
  | @equality shape _ _ _ resolved =>
    exact (bounded shape given warnings resolved).trans (Nat.le_add_right bound 2)
  | negation form => exact (Query.tallest_singleton _).trans_le (form.height bounded)
  | simple form => exact form.height.trans (Nat.le_add_left 2 bound)

/-- One level of operands adds at most two nodes. Ranges made from bounds are single predicates. -/
theorem operandWith_bounded : Bounded (operandWith setting enter field) (bound + 2) := by
  intro shape queries warnings done
  cases operandWith_form done with
  | @ops entries _ _ _ =>
    obtain ⟨progress, parts, arranged, same⟩ := arranged_of_operandWith done
    rw [same, Query.tallest_le_iff]
    intro query member
    obtain ⟨part, partMember, among⟩ := List.mem_flatMap.mp member
    have stands := arranged.given part partMember
    cases part with
    | own place given =>
      obtain ⟨entry, _, -, -, taken⟩ := stands
      rw [takeUp_eq, Diagnosed.map_eq_done_iff] at taken
      obtain ⟨contributed, done, added⟩ := taken
      cases contributed with
      | bound _ _ => cases added
      | queries others =>
        obtain rfl : others = given := congrArg Progress.later added
        exact (Query.tallest_le_iff others _).mp
          ((contribution_form done).2.height bounded) query among
    | single _ _ | pair _ _ _ _ =>
      obtain rfl := List.mem_singleton.mp among
      exact Nat.le_add_left 1 (bound + 1)
  | plain form => exact form.height.trans (Nat.le_add_left 2 bound)

omit bounded in
/-- Every level of operands that may be entered adds at most two nodes. -/
theorem operand_bounded (levels : Nat) :
    Bounded (operand setting field levels) (2 * levels + 2) := by
  have refused : Bounded (fun _ => .failed (.depthLimitExceeded setting.limit)) 0 := by
    intro shape queries warnings done
    cases done
  exact operand_of_levels setting field (fun levels enter => Bounded enter (2 * levels)) refused
    (fun _ _ bounded => operandWith_bounded bounded) levels

end Entries

end Resolve

/-! ### Specifications -/

namespace Where

open Demand (Within)
open Query (tallest)

variable (setting : Resolve.Setting)

mutual

/-- A sub-specification adds two nodes, the group that it stands in and its own conjunction. -/
theorem query_height (depth : Nat) (inside : depth ≤ setting.limit) :
    (clauses : List Clause) → Within setting.limit (Demand.ofClauses depth clauses) →
      ∀ root warnings, query setting depth clauses = .done root warnings →
        root.height + 2 * depth ≤ 2 * setting.limit + 3
  | [], _, root, warnings, done => by
    obtain ⟨rfl, -⟩ := (Diagnosed.pure_eq_done_iff _ _ _).mp done
    simp only [Query.height]
    omega
  | clause :: rest, within, root, warnings, done => by
    obtain ⟨first, _, _, firstDone, following, -⟩ := (Diagnosed.bind_eq_done_iff _ _ _ _).mp done
    obtain ⟨others, _, _, othersDone, last, -⟩ := (Diagnosed.bind_eq_done_iff _ _ _ _).mp following
    obtain ⟨rfl, -⟩ := (Diagnosed.pure_eq_done_iff _ _ _).mp last
    rw [Demand.ofClauses, Demand.within_append] at within
    have firstLow := clauseQueries_height depth inside clause within.1 first _ firstDone
    have othersLow := clausesQueries_height depth inside rest within.2 others _ othersDone
    rw [Query.height, Query.tallest_append]
    omega

/-- Every clause that stands at a depth leaves two nodes for each level below it. A group adds one,
and the conjunctions of its members another one. -/
theorem clauseQueries_height (depth : Nat) (inside : depth ≤ setting.limit) :
    (clause : Clause) → Within setting.limit (Demand.ofClause depth clause) →
      ∀ added warnings, clauseQueries setting depth clause = .done added warnings →
        tallest added + 2 * depth ≤ 2 * setting.limit + 2
  | .group connective members, within, added, warnings, done => by
    obtain ⟨inner, _, _, innerDone, last, -⟩ := (Diagnosed.bind_eq_done_iff _ _ _ _).mp done
    obtain ⟨rfl, -⟩ := (Diagnosed.pure_eq_done_iff _ _ _).mp last
    have innerLow := queries_height depth inside members within inner _ innerDone
    rw [Query.tallest_singleton, Query.height]
    omega
  | .field path shape, _, added, warnings, done => by
    have low := Resolve.operand_bounded (setting.limit - depth) shape added warnings done
    omega

/-- The queries of clauses in sequence are as tall as those of the tallest clause. -/
theorem clausesQueries_height (depth : Nat) (inside : depth ≤ setting.limit) :
    (clauses : List Clause) → Within setting.limit (Demand.ofClauses depth clauses) →
      ∀ added warnings, clausesQueries setting depth clauses = .done added warnings →
        tallest added + 2 * depth ≤ 2 * setting.limit + 2
  | [], _, added, warnings, done => by
    obtain ⟨rfl, -⟩ := (Diagnosed.pure_eq_done_iff _ _ _).mp done
    simp only [tallest]
    omega
  | clause :: rest, within, added, warnings, done => by
    obtain ⟨first, _, _, firstDone, following, -⟩ := (Diagnosed.bind_eq_done_iff _ _ _ _).mp done
    obtain ⟨others, _, _, othersDone, last, -⟩ := (Diagnosed.bind_eq_done_iff _ _ _ _).mp following
    obtain ⟨rfl, -⟩ := (Diagnosed.pure_eq_done_iff _ _ _).mp last
    rw [Demand.ofClauses, Demand.within_append] at within
    have firstLow := clauseQueries_height depth inside clause within.1 first _ firstDone
    have othersLow := clausesQueries_height depth inside rest within.2 others _ othersDone
    rw [Query.tallest_append]
    omega

/-- The members of a group, which stand one level further down. -/
theorem queries_height (depth : Nat) (inside : depth ≤ setting.limit) :
    (members : List (List Clause)) → Within setting.limit (Demand.ofSpecs depth members) →
      ∀ inner warnings, queries setting (depth + 1) members = .done inner warnings →
        tallest inner + 2 * depth ≤ 2 * setting.limit + 1
  | [], _, inner, warnings, done => by
    obtain ⟨rfl, -⟩ := (Diagnosed.pure_eq_done_iff _ _ _).mp done
    simp only [tallest]
    omega
  | member :: rest, within, inner, warnings, done => by
    obtain ⟨first, _, _, firstDone, following, -⟩ := (Diagnosed.bind_eq_done_iff _ _ _ _).mp done
    obtain ⟨others, _, _, othersDone, last, -⟩ := (Diagnosed.bind_eq_done_iff _ _ _ _).mp following
    obtain ⟨rfl, -⟩ := (Diagnosed.pure_eq_done_iff _ _ _).mp last
    rw [Demand.ofSpecs, Demand.within_cons_spec, Demand.within_append] at within
    have firstLow := query_height (depth + 1) within.1 member within.2.1 first _ firstDone
    have othersLow := queries_height depth inside rest within.2.2 others _ othersDone
    rw [tallest]
    omega

end

end Where

/-! ### Shapes -/

namespace Resolve

/-- Coordinates are read at most as deep as the levels allow. -/
theorem coordinatesOf_height (field : String) (levels : Nat) (value : Value) :
    Check.Ensures (coordinatesOf field levels value) fun coordinates =>
      coordinates.height ≤ levels := by
  intro coordinates read
  induction levels generalizing value coordinates with
  | zero => cases read
  | succ levels inductionHypothesis =>
    have atPoint (given : Value) (same : (shapePoint field given).map .point = .ok coordinates) :
        coordinates.height ≤ levels + 1 := by
      obtain ⟨point, -, rfl⟩ := (Check.map_eq_ok_iff _ _ _).mp same
      exact Nat.le_add_left 1 levels
    cases value with
    | map entries => exact atPoint _ read
    | list items =>
      rw [coordinatesOf] at read
      split at read
      · exact atPoint _ read
      · obtain ⟨members, membersRead, rfl⟩ := (Check.map_eq_ok_iff _ _ _).mp read
        have low : Coordinates.deepest members ≤ levels := by
          rw [Coordinates.deepest_le_iff]
          intro member isMember
          obtain ⟨item, -, itemRead⟩ :=
            Check.exists_of_mem_of_mapM_eq_ok _ _ _ membersRead member isMember
          exact inductionHypothesis item member itemRead
        rw [Coordinates.height]
        omega
    | _ => cases read

/-- The coordinates of a shape that was read nest at most as deep as the limit allows. -/
theorem ShapeRead.height {setting : Setting} {field : String} {shape : GeoShape}
    {relation : ShapeRelation} (read : ShapeRead setting field (.geoShape shape relation)) :
    shape.coordinates.height ≤ setting.limit := by
  obtain ⟨-, given, accepted⟩ := read shape relation rfl
  cases given with
  | map entries =>
    obtain ⟨-, _, found, coordinates, _, -, -, coordinatesRead, -, same⟩ :=
      (toShape_eq_ok_iff _ _ _ _).mp accepted
    obtain ⟨rfl, -⟩ := Test.geoShape.inj same
    exact coordinatesOf_height field _ found coordinates coordinatesRead
  | _ => cases accepted

end Resolve

/-! ### Bounded recursion -/

/-- A traversal in which some items have no result has one exactly if all of its items have. -/
theorem mapM_guarded {α β : Type} (condition : α → Prop) [DecidablePred condition]
    (result : α → β) (items : List α) :
    items.mapM (fun item => if condition item then some (result item) else none) =
      if ∀ item ∈ items, condition item then some (items.map result) else none := by
  induction items with
  | nil => simp
  | cons item rest inductionHypothesis =>
    rw [List.mapM_cons, inductionHypothesis]
    by_cases first : condition item
    · by_cases others : ∀ item ∈ rest, condition item
      · rw [if_pos others, if_pos first, if_pos (List.forall_mem_cons.mpr ⟨first, others⟩)]
        rfl
      · rw [if_neg others, if_pos first, if_neg fun all => others (List.forall_mem_cons.mp all).2]
        rfl
    · rw [if_neg first, if_neg fun all => first (List.forall_mem_cons.mp all).1]
      rfl

namespace Query

section Recursion

variable {α : Type} (everything : α) (single : Predicate → α) (combined : Connective → List α → α)

/-- The result of a recursion over a query in which only so many calls may stand inside each other.
Without any call left there is no result. -/
def recursed? : (calls : Nat) → Query → Option α
  | 0, _ => none
  | _ + 1, .matchAll => some everything
  | calls + 1, .group connective members =>
    (members.mapM (recursed? calls)).map (combined connective)
  | _ + 1, .leaf predicate => some (single predicate)

/-- A recursion needs exactly as many calls inside each other as the query is tall. The induction is
on the calls that are left. -/
theorem recursed?_eq (result : Query → α) (atAll : result .matchAll = everything)
    (atLeaf : ∀ predicate, result (.leaf predicate) = single predicate)
    (atGroup : ∀ connective members,
      result (.group connective members) = combined connective (members.map result))
    (calls : Nat) (query : Query) :
    recursed? everything single combined calls query =
      if query.height ≤ calls then some (result query) else none := by
  induction calls generalizing query with
  | zero => rw [recursed?, if_neg (Nat.not_le.mpr query.height_pos)]
  | succ calls inductionHypothesis =>
    cases query with
    | matchAll => rw [recursed?, atAll, height, if_pos (Nat.le_add_left 1 calls)]
    | leaf predicate => rw [recursed?, atLeaf, height, if_pos (Nat.le_add_left 1 calls)]
    | group connective members =>
      have low : 1 + tallest members ≤ calls + 1 ↔ ∀ member ∈ members, member.height ≤ calls := by
        rw [← tallest_le_iff]
        omega
      rw [recursed?, funext inductionHypothesis, mapM_guarded, height]
      by_cases enough : ∀ member ∈ members, member.height ≤ calls
      · rw [if_pos enough, if_pos (low.mpr enough), Option.map_some, atGroup]
      · rw [if_neg enough, if_neg (mt low.mp enough), Option.map_none]

end Recursion

/-- The answer of a group by the answers of its members. -/
def joined : Connective → List Bool → Bool
  | .and, answers => answers.all id
  | .or, answers => answers.any id
  | .not, answers => !answers.any id

/-- Whether a query selects a document, asked with so many calls inside each other. -/
def selectsWithin? (query : Query) (document : Json) (calls : Nat) : Option Bool :=
  recursed? true (fun predicate => predicate.selects document) joined calls query

/-- The body of a query, rendered with so many calls inside each other. -/
def bodyWithin? (query : Query) (calls : Nat) : Option Json :=
  recursed? matchAllBody Predicate.body groupBody calls query

/-- Selecting documents takes as many nested calls as the tree is tall. -/
theorem selectsWithin?_eq (query : Query) (document : Json) (calls : Nat) :
    query.selectsWithin? document calls =
      if query.height ≤ calls then some (query.selects document) else none := by
  refine recursed?_eq _ _ _ (fun query => query.selects document) rfl (fun _ => rfl) ?_ calls query
  intro connective members
  cases connective <;> simp [selects, joined]

/-- The members of a group are rendered one by one. -/
theorem bodies_eq_map (queries : List Query) : bodies queries = queries.map body := by
  induction queries with
  | nil => rfl
  | cons query rest inductionHypothesis => rw [bodies, inductionHypothesis, List.map_cons]

/-- Rendering a tree takes as many nested calls as the tree is tall. -/
theorem bodyWithin?_eq (query : Query) (calls : Nat) :
    query.bodyWithin? calls = if query.height ≤ calls then some query.body else none :=
  recursed?_eq _ _ _ body rfl (fun _ => rfl)
    (fun connective members => congrArg (groupBody connective) (bodies_eq_map members)) calls query

end Query

namespace Coordinates

/-- The body of coordinates, rendered with so many calls inside each other. -/
def bodyWithin? : (calls : Nat) → Coordinates → Option Json
  | 0, _ => none
  | _ + 1, .point value => some (Coordinates.point value).body
  | calls + 1, .list items => (items.mapM (bodyWithin? calls)).map .array

/-- Rendering coordinates takes as many nested calls as they are deep. -/
theorem bodyWithin?_eq (coordinates : Coordinates) (calls : Nat) :
    coordinates.bodyWithin? calls =
      if coordinates.height ≤ calls then some coordinates.body else none := by
  induction calls generalizing coordinates with
  | zero => rw [bodyWithin?, if_neg (Nat.not_le.mpr coordinates.height_pos)]
  | succ calls inductionHypothesis =>
    cases coordinates with
    | point value => rw [bodyWithin?, height, if_pos (Nat.le_add_left 1 calls)]
    | list items =>
      have low : 1 + deepest items ≤ calls + 1 ↔ ∀ item ∈ items, item.height ≤ calls := by
        rw [← deepest_le_iff]
        omega
      rw [bodyWithin?, funext inductionHypothesis, mapM_guarded, height]
      by_cases enough : ∀ item ∈ items, item.height ≤ calls
      · rw [if_pos enough, if_pos (low.mpr enough), Option.map_some, body, bodies_eq_map]
      · rw [if_neg enough, if_neg (mt low.mp enough), Option.map_none]

end Coordinates

/-! ### Compiled trees -/

section Compiling

variable (spec : FilterSpec) (fields : FieldContext) (capabilities : Capabilities) (limit : Nat)
  (compiled : CompiledQuery) (compiles : compile spec fields capabilities limit = .ok compiled)
include compiles

/-- What compiles was read into clauses whose sub-specifications are within the limit. -/
theorem normalized_within_of_compile :
    ∃ clauses, Demand.Within limit (Demand.ofClauses 0 clauses) ∧
      Where.query ⟨fields, capabilities, limit⟩ 0 clauses =
        .done compiled.root compiled.warnings := by
  unfold compile at compiles
  split at compiles
  · cases compiles
  · rename_i clauses normalized
    split at compiles
    · cases compiles
    · rename_i root warnings built
      obtain rfl := Except.ok.inj compiles
      refine ⟨clauses, ?_, built⟩
      rw [Where.ofEntries_keeps limit limit spec.entries clauses normalized 0]
      exact ((spec.normalize_gated limit limit).passes_iff normalized).mp ⟨clauses, normalized⟩

/-- The limit on nesting bounds what is compiled: no path from the root to a leaf has more than two
nodes for each level and three more, and the coordinates of shapes nest at most as deep as the limit
says. So the selection of documents, the body of the tree and the bodies of its shapes never need
more calls inside each other. -/
theorem compiled_height_le :
    compiled.root.height ≤ 2 * limit + 3 ∧
      (∀ document, compiled.root.selectsWithin? document (2 * limit + 3) =
        some (compiled.root.selects document)) ∧
      compiled.root.bodyWithin? (2 * limit + 3) = some compiled.root.body ∧
      ∀ predicate ∈ compiled.root.leaves, ∀ shape relation,
        predicate.test = .geoShape shape relation →
          shape.coordinates.height ≤ limit ∧
            shape.coordinates.bodyWithin? limit = some shape.coordinates.body := by
  obtain ⟨clauses, within, built⟩ :=
    normalized_within_of_compile spec fields capabilities limit compiled compiles
  have low : compiled.root.height ≤ 2 * limit + 3 :=
    Where.query_height _ 0 (Nat.zero_le limit) clauses within _ _ built
  refine ⟨low, fun document => ?_, ?_, fun predicate member shape relation shaped => ?_⟩
  · rw [Query.selectsWithin?_eq, if_pos low]
  · rw [Query.bodyWithin?_eq, if_pos low]
  · have read := (shapeRead_of_compile spec fields capabilities limit compiled compiles predicate
      member).2
    rw [shaped] at read
    have shallow : shape.coordinates.height ≤ limit := read.height
    exact ⟨shallow, by rw [Coordinates.bodyWithin?_eq, if_pos shallow]⟩

end Compiling

set_option maxRecDepth 2000 in
/-- The bound is reached by a negated map that has a list with a null in it. -/
theorem compiled_height_le_of_negated :
    let spec := FilterSpec.ofPairs
      [("f", .map [(.op .negation, .map [(.op .oneOf, .list [.null, .scalar (.int 1)]),
        (.op .present, .scalar (.bool true))])]),
      ("p", .map [(.op .geoShape, .map [(.name "type", .scalar (.str "point")),
        (.name "coordinates", .list [.scalar (.int 10), .scalar (.int 50)])])])]
    ∃ compiled, compile spec .empty ⟨fun _ => true⟩ 1 = .ok compiled ∧
      compiled.root.height = 2 * 1 + 3 ∧
      compiled.root.bodyWithin? 4 = none ∧
      compiled.root.bodyWithin? 5 = some compiled.root.body ∧
      ∀ predicate ∈ compiled.root.leaves, ∀ shape relation,
        predicate.test = .geoShape shape relation → shape.coordinates.height ≤ 1 := by
  intro spec
  refine ⟨_, rfl, rfl, rfl, ?_⟩
  obtain ⟨-, -, rendered, shallow⟩ :=
    compiled_height_le spec .empty ⟨fun _ => true⟩ 1 _ rfl
  exact ⟨rendered, fun predicate member shape relation shaped =>
    (shallow predicate member shape relation shaped).1⟩

end SearchFilter
