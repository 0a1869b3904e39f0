import SearchFilter.Resolve
import SearchFilter.Proofs.Selection
import SearchFilter.Proofs.Steps

/-!
# What the entries of an operator map contribute

Taking up an entry of an operator map reads the progress made so far only to place its result: what
the entry contributes, a bound or some queries, is settled without it. A whole map is therefore a
traversal that collects the contributions, followed by a pure loop that arranges them
(`takeUpAll_eq`). The traversal carries success and warnings, the loop carries the meaning: the
queries that come out hold exactly when the contributed queries do and each range that the bounds
form contains a value (`selected_arranged`).

The loop keeps the open range beside the queries around it. Keeping all queries in one list and the
open range as an index into it comes to the same at every step, so it gives the same queries for
every operator map (`operandWith_ops_eq_indexed`).
-/

namespace SearchFilter.Resolve

/-- What one entry of an operator map adds to its condition. -/
inductive Contribution
  | bound (side : Side) (bound : Bound)
  | queries (queries : List Query)

/-- The check that an operator on places makes of the declared type of its field. -/
def placeCheck (setting : Setting) (field : String) (op : Operator) : Except CompileError Unit :=
  if op.isGeo then requireGeo setting field op else .ok ()

/-- The contribution of an operator whose check has passed, with `enter` for operands inside it and
all entries at hand for partners. -/
def contributed (setting : Setting) (enter : Operand → Diagnosed (List Query)) (field : String)
    (entries : List (Operator × Value)) (op : Operator) (value : Value) :
    Diagnosed Contribution :=
  match sideOf? op with
  | some (side, close) => do
    let operand ← Diagnosed.lift (boundOperand field op value)
    return .bound side (close operand)
  | none =>
    match op with
    | .equal => return .queries (← equality enter field value)
    | .negation => return .queries [← negation enter field value]
    | _ => return .queries (← simpleEntry setting field entries op value)

/-- The contribution of an entry. -/
def contribution (setting : Setting) (enter : Operand → Diagnosed (List Query)) (field : String)
    (entries : List (Operator × Value)) (entry : Operator × Value) : Diagnosed Contribution := do
  Diagnosed.lift (placeCheck setting field entry.1)
  contributed setting enter field entries entry.1 entry.2

namespace Contribution

/-- The bound that is contributed, if it is one. -/
def bound? : Contribution → Option (Side × Bound)
  | .bound side limit => some (side, limit)
  | .queries _ => none

/-- Whether contributed queries hold of a document. A bound says nothing by itself. -/
def selects (document : Json) : Contribution → Bool
  | .bound _ _ => true
  | .queries added => Query.selectedByAll added document

end Contribution

/-- Places a contribution among the queries resolved so far. -/
def Progress.add (field : String) (progress : Progress) : Contribution → Progress
  | .bound side bound => progress.bound field side bound
  | .queries queries => progress.append queries

/-- One entry is taken up by placing its contribution. -/
theorem takeUp_eq (setting : Setting) (enter : Operand → Diagnosed (List Query)) (field : String)
    (entries : List (Operator × Value)) (progress : Progress) (entry : Operator × Value) :
    takeUp setting enter field entries progress entry =
      progress.add field <$> contribution setting enter field entries entry := by
  obtain ⟨op, value⟩ := entry
  cases op <;>
    simp only [takeUp, contribution, contributed, placeCheck, sideOf?, Operator.isGeo,
      Bool.false_eq_true, if_true, if_false, Progress.add, map_eq_pure_bind, bind_assoc, pure_bind,
      Diagnosed.lift_ok_bind]

/-- A map is taken up by collecting the contributions of its entries and arranging them in order. -/
theorem takeUpAll_eq (setting : Setting) (enter : Operand → Diagnosed (List Query))
    (field : String) (entries : List (Operator × Value)) (progress : Progress)
    (rest : List (Operator × Value)) :
    takeUpAll setting enter field entries progress rest =
      (fun contributions => contributions.foldl (Progress.add field) progress) <$>
        rest.mapM (contribution setting enter field entries) := by
  induction rest generalizing progress with
  | nil => rfl
  | cons entry rest inductionHypothesis =>
    simp only [takeUpAll, takeUp_eq, inductionHypothesis, List.mapM_cons, map_eq_pure_bind,
      bind_assoc, pure_bind, List.foldl_cons]

/-- The entries of a map are looked through for partners only, which are operators on places. -/
theorem contribution_congr (setting : Setting) (enter : Operand → Diagnosed (List Query))
    (field : String) (entries others : List (Operator × Value))
    (same : ∀ op, op.isGeo = true → partner? op entries = partner? op others) :
    contribution setting enter field entries = contribution setting enter field others := by
  have simple (op : Operator) (value : Value) :
      simpleEntry setting field entries op value = simpleEntry setting field others op value := by
    cases op <;> simp only [simpleEntry, requirePartner, same .within rfl, same .near rfl,
      same .topLeft rfl, same .bottomRight rfl, same .topRight rfl, same .bottomLeft rfl]
  funext entry
  simp only [contribution, contributed, simple]

/-- The ranges that bounds form one after the other, beginning with a range that may be open. -/
def rangesFrom : Option Interval → List (Side × Bound) → List Interval
  | opened, [] => opened.toList
  | opened, (side, bound) :: rest =>
    match opened.bind (fill? side bound) with
    | some merged => rangesFrom (some merged) rest
    | none => opened.toList ++ rangesFrom (some (oneSided side bound)) rest

/-- Whether a value of the field lies in every one of the ranges. -/
def rangesHold (field : String) (document : Json) (ranges : List Interval) : Bool :=
  ranges.all fun range => (Query.test field (.range range)).selects document

/-- The order in which the settled queries, the open range and the later queries stand does not
matter for what they select. -/
theorem selected_queries (field : String) (progress : Progress) (document : Json) :
    Query.selectedByAll (progress.queries field) document =
      (Query.selectedByAll progress.settled document &&
        Query.selectedByAll progress.later document &&
          rangesHold field document progress.openRange.toList) := by
  simp only [Query.selectedByAll_eq_all, Progress.queries, rangesHold]
  cases progress.openRange with
  | none => simp
  | some range =>
    simp only [List.all_append, List.all_cons, Option.toList_some, List.all_nil, Bool.and_true,
      Bool.and_assoc]
    congr 1
    exact Bool.and_comm _ _

/-- The queries arranged from contributions hold exactly when the contributed queries do, with those
that were there before, and the field has a value in each of the ranges formed by the bounds. The
induction is on the contributions; a bound either fills the open range, which changes none of the
queries around it, or settles all of them and opens the next range. -/
theorem selected_arranged (field : String) (contributions : List Contribution)
    (progress : Progress) (document : Json) :
    Query.selectedByAll ((contributions.foldl (Progress.add field) progress).queries field)
        document =
      (Query.selectedByAll progress.settled document &&
        Query.selectedByAll progress.later document &&
          (contributions.all fun contribution => contribution.selects document) &&
            rangesHold field document
              (rangesFrom progress.openRange (contributions.filterMap Contribution.bound?))) := by
  induction contributions generalizing progress with
  | nil =>
    rw [List.foldl_nil, selected_queries]
    simp [rangesFrom]
  | cons contribution rest inductionHypothesis =>
    rw [List.foldl_cons, inductionHypothesis]
    cases contribution with
    | queries added =>
      simp [Progress.add, Progress.append, Contribution.bound?, Contribution.selects,
        List.filterMap_cons, Bool.and_assoc]
    | bound side bound =>
      simp only [Progress.add, Progress.bound, Contribution.bound?, Contribution.selects,
        List.filterMap_cons, List.all_cons, Bool.true_and, rangesFrom]
      cases filled : progress.openRange.bind (fill? side bound) with
      | some merged => rfl
      | none =>
        have settled := selected_queries field progress document
        simp only [settled, rangesHold, List.all_append, Query.selectedByAll, Bool.and_true]
        simp only [Bool.and_assoc, Bool.and_left_comm]

/-! ### The open range by its index -/

/-- The queries resolved so far in one list, with the index of the range that later bounds may still
be put into. -/
structure Indexed where
  queries : List Query
  openIndex? : Option Nat

namespace Indexed

/-- Nothing is resolved yet, and no range is open. -/
def start : Indexed := ⟨[], none⟩

/-- Puts a bound into a query. Only a range whose side is still free takes one. -/
def fillQuery? (side : Side) (bound : Bound) : Query → Option Query
  | .leaf ⟨field, negated, .range interval⟩ =>
    (fill? side bound interval).map fun merged => .leaf ⟨field, negated, .range merged⟩
  | _ => none

/-- The query at the open index with a bound put into it, and that index. -/
def filled? (side : Side) (bound : Bound) (indexed : Indexed) : Option (Nat × Query) := do
  let index ← indexed.openIndex?
  let query ← indexed.queries[index]?
  return (index, ← fillQuery? side bound query)

/-- Appends queries from an operator that is no bound. -/
def append (indexed : Indexed) (added : List Query) : Indexed :=
  { indexed with queries := indexed.queries ++ added }

/-- Takes up a bound: the query at the open index is replaced, or a range is pushed and its index
becomes the open one. -/
def bound (field : String) (side : Side) (bound : Bound) (indexed : Indexed) : Indexed :=
  match indexed.filled? side bound with
  | some (index, query) => { indexed with queries := indexed.queries.set index query }
  | none => ⟨indexed.queries ++ [Query.test field (.range (oneSided side bound))],
      some indexed.queries.length⟩

/-- Places a contribution. -/
def add (field : String) (indexed : Indexed) : Contribution → Indexed
  | .bound side bound => indexed.bound field side bound
  | .queries queries => indexed.append queries

end Indexed

namespace Progress

/-- The queries of a progress as one list. The open range has the index at which the settled queries
end. -/
def indexed (field : String) (progress : Progress) : Indexed :=
  ⟨progress.queries field, progress.openRange.map fun _ => progress.settled.length⟩

/-- At the open index stands the open range and nothing else, whatever has been appended since. -/
theorem queries_openIndex (field : String) (progress : Progress) (index : Nat)
    (isOpen : (progress.indexed field).openIndex? = some index) :
    ∃ interval, progress.openRange = some interval ∧
      (progress.queries field)[index]? = some (Query.test field (.range interval)) := by
  obtain ⟨interval, range, rfl⟩ := Option.map_eq_some_iff.mp isOpen
  exact ⟨interval, range, by simp [queries, range]⟩

/-- A bound is put into the query at the open index exactly when it is put into the open range. -/
theorem filled_indexed (field : String) (side : Side) (bound : Bound) (progress : Progress) :
    (progress.indexed field).filled? side bound =
      (progress.openRange.bind (fill? side bound)).map fun merged =>
        (progress.settled.length, Query.test field (.range merged)) := by
  cases range : progress.openRange with
  | none => simp [Indexed.filled?, indexed, range]
  | some interval =>
    obtain ⟨_, same, stands⟩ := queries_openIndex field progress progress.settled.length (by
      rw [indexed, range, Option.map_some])
    obtain rfl := Option.some.inj (range.symm.trans same)
    cases filled : fill? side bound interval <;>
      simp [Indexed.filled?, indexed, range, stands, Query.test, Predicate.of,
        Indexed.fillQuery?, filled]

/-- Queries are appended behind the open range, whose index stays as it is. -/
theorem indexed_append (field : String) (progress : Progress) (added : List Query) :
    (progress.append added).indexed field = (progress.indexed field).append added := by
  cases range : progress.openRange <;>
    simp [indexed, append, Indexed.append, queries, range]

/-- A bound taken up by index gives the same queries as one taken up beside the open range. -/
theorem indexed_bound (field : String) (side : Side) (bound : Bound) (progress : Progress) :
    (progress.bound field side bound).indexed field =
      (progress.indexed field).bound field side bound := by
  rw [Progress.bound, Indexed.bound, filled_indexed]
  cases filled : progress.openRange.bind (fill? side bound) with
  | none => simp [indexed, queries]
  | some merged =>
    obtain ⟨interval, range, -⟩ := Option.bind_eq_some_iff.mp filled
    simp [indexed, queries, range]

/-- Every contribution is placed in the same way by index and beside the open range. -/
theorem indexed_add (field : String) (progress : Progress) (contribution : Contribution) :
    (progress.add field contribution).indexed field =
      (progress.indexed field).add field contribution := by
  cases contribution with
  | bound side bound => exact indexed_bound field side bound progress
  | queries added => exact indexed_append field progress added

/-- The loop over contributions keeps its queries in one list and the open range as an index into
it. The induction is on the contributions, with the index carried by `indexed_add`. -/
theorem indexed_run (field : String) (contributions : List Contribution) (progress : Progress) :
    (contributions.foldl (add field) progress).indexed field =
      contributions.foldl (Indexed.add field) (progress.indexed field) := by
  induction contributions generalizing progress with
  | nil => rfl
  | cons contribution rest inductionHypothesis =>
    rw [List.foldl_cons, List.foldl_cons, inductionHypothesis, indexed_add]

end Progress

/-- An operator map is resolved by one list of queries and the index of the range that is open: what
its entries contribute is placed there in order, and the list is the result. -/
theorem operandWith_ops_eq_indexed (setting : Setting)
    (enter : Operand → Diagnosed (List Query)) (field : String)
    (entries : List (Operator × Value)) :
    operandWith setting enter field (.ops entries) =
      (fun contributions => (contributions.foldl (Indexed.add field) .start).queries) <$>
        entries.mapM (contribution setting enter field entries) := by
  have arranged (contributions : List Contribution) :
      (contributions.foldl (Progress.add field) .start).queries field =
        (contributions.foldl (Indexed.add field) .start).queries :=
    congrArg Indexed.queries (Progress.indexed_run field contributions .start)
  simp only [operandWith, takeUpAll_eq, map_eq_pure_bind, bind_assoc, pure_bind, arranged]

end SearchFilter.Resolve
