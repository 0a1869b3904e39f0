import SearchFilter.Proofs.ResolvedLeaves

/-!
# Compiled trees are well formed

Whatever compiles gives a tree all of whose predicates are well-formed tests on fields that the
specification has conditions on. The literals in the tree are those of the specification, each as
often as it is written there.
-/

namespace SearchFilter

open Diagnosed (collect)
open Outline (Item)
open Resolve (Setting)

/-- The literals that an item of an outline compares values with. -/
def Outline.Item.literals : Item → List Scalar
  | .spec _ => []
  | .condition _ _ value => value.literals

/-- The literals in the conditions of a specification. -/
def FilterSpec.scalars (spec : FilterSpec) : List Scalar := spec.outline.flatMap Item.literals

namespace Outline

/-- What an item resolves to fits its condition. -/
theorem Item.resolve_fits (setting : Setting) (item : Item) (predicates : List Predicate)
    (warnings : List Warning) (done : item.resolve setting = .done predicates warnings) :
    (∀ predicate ∈ predicates,
      predicate.field ∈ item.condition?.toList.map Prod.fst ∧ predicate.test.WellFormed) ∧
    (predicates.flatMap fun predicate => predicate.test.literals).Perm item.literals := by
  cases item with
  | spec depth =>
    obtain ⟨rfl, -⟩ := Diagnosed.done.inj done
    exact ⟨List.forall_mem_nil _, .nil⟩
  | condition depth field value =>
    obtain ⟨shape, _, _, lifted, resolved, -⟩ := (Diagnosed.bind_eq_done_iff _ _ _ _).mp done
    obtain ⟨shaped, -⟩ := (Diagnosed.lift_eq_done_iff _ _ _).mp lifted
    obtain ⟨queries, entered, rfl⟩ := (Diagnosed.map_eq_done_iff _ _ _ _).mp resolved
    have fits := Resolve.operand_fits setting field _ shape queries _ entered
    rw [Operand.toValue_of_ofValue field value shape shaped] at fits
    refine ⟨fun predicate member => ⟨?_, fits.wellFormed predicate member⟩, fits.literals⟩
    exact List.mem_singleton.mpr (fits.fields predicate member)

/-- What an outline resolves to fits its conditions, one after the other. -/
theorem collect_fits (setting : Setting) (items : List Item) (predicates : List Predicate)
    (warnings : List Warning)
    (done : collect (Item.resolve setting) items = .done predicates warnings) :
    (∀ predicate ∈ predicates,
      predicate.field ∈ (items.filterMap Item.condition?).map Prod.fst ∧
        predicate.test.WellFormed) ∧
    (predicates.flatMap fun predicate => predicate.test.literals).Perm
      (items.flatMap Item.literals) := by
  induction items generalizing predicates warnings with
  | nil =>
    obtain ⟨rfl, -⟩ := Diagnosed.done.inj done
    exact ⟨List.forall_mem_nil _, .nil⟩
  | cons item rest inductionHypothesis =>
    obtain ⟨first, _, others, _, firstDone, othersDone, rfl, -⟩ :=
      Diagnosed.collect_cons_eq_done _ item rest predicates warnings done
    obtain ⟨firstFits, firstLiterals⟩ := item.resolve_fits setting first _ firstDone
    obtain ⟨othersFit, otherLiterals⟩ := inductionHypothesis others _ othersDone
    have listed : ((item :: rest).filterMap Item.condition?).map Prod.fst =
        item.condition?.toList.map Prod.fst ++ (rest.filterMap Item.condition?).map Prod.fst := by
      cases found : item.condition? <;> simp [found]
    refine ⟨List.forall_mem_append.mpr ⟨fun predicate member => ?_, fun predicate member => ?_⟩, ?_⟩
    · exact ⟨listed ▸ List.mem_append_left _ (firstFits predicate member).1,
        (firstFits predicate member).2⟩
    · exact ⟨listed ▸ List.mem_append_right _ (othersFit predicate member).1,
        (othersFit predicate member).2⟩
    · rw [List.flatMap_append, List.flatMap_cons]
      exact firstLiterals.append otherLiterals

end Outline

section Compiling

variable (spec : FilterSpec) (fields : FieldContext) (capabilities : Capabilities) (limit : Nat)
  (compiled : CompiledQuery) (compiles : compile spec fields capabilities limit = .ok compiled)
include compiles

/-- What is known of the outline is known of the compiled tree. -/
theorem fits_of_compile :
    (∀ predicate ∈ compiled.root.leaves,
      predicate.field ∈ spec.conditions.map Prod.fst ∧ predicate.test.WellFormed) ∧
    (compiled.root.leaves.flatMap fun predicate => predicate.test.literals).Perm spec.scalars :=
  Outline.collect_fits _ _ _ _
    (resolved_of_compile spec fields capabilities limit compiled compiles)

/-- Every predicate of a compiled tree is a well-formed test on a field that has a condition in the
specification or in one of its sub-specifications. -/
theorem leaf_wellFormed_of_compile :
    ∀ predicate ∈ compiled.root.leaves,
      predicate.field ∈ spec.conditions.map Prod.fst ∧ predicate.test.WellFormed :=
  (fits_of_compile spec fields capabilities limit compiled compiles).1

end Compiling

set_option maxRecDepth 2000 in
/-- A look-up and a range under two negations, a box given by its other corners, a circle without a
radius of its own and a pattern literal. -/
theorem leaf_wellFormed_of_compile_of_nested :
    let place (lat lon : Int) : Value := .list [.scalar (.int lat), .scalar (.int lon)]
    let spec := FilterSpec.ofPairs
      [("not", .list [.map [(.name "id", .map [(.op .negation, .map
        [(.op .less, .scalar (.int 5)), (.op .oneOf, .list [.null, .scalar (.str "a")])])])]]),
      ("p", .map [(.op .topRight, place 50 10), (.op .bottomLeft, place 40 (-20)),
        (.op .near, place (-90) 180)]),
      ("q", .pattern ⟨"^a$", true⟩)]
    ∃ compiled, compile spec .empty ⟨fun _ => true⟩ 2 = .ok compiled ∧
      compiled.root.leaves.map Predicate.field = ["_id", "_id", "_id", "p", "p", "q"] ∧
      ∀ predicate ∈ compiled.root.leaves, predicate.test.WellFormed := by
  intro place spec
  refine ⟨_, rfl, rfl, fun predicate member => ?_⟩
  exact (leaf_wellFormed_of_compile spec .empty ⟨fun _ => true⟩ 2 _ rfl predicate member).2

end SearchFilter
