import SearchFilter.Proofs.Leaves
import SearchFilter.Proofs.Selection
import Mathlib.Logic.Relation

/-!
# Nested arrays and missing values

To a test on values an array is nothing but its items, and a null or an empty array is nothing at
all. A document can therefore be flattened anywhere inside it, one step after the other, and the
answer of a query stays. What a path leads to is the same after such a step, apart from objects at
the end of the path, whose inside may have changed: no test on values looks into an object.

Tests on places are left out. They tell a pair of numbers from a list of places by its brackets.
-/

namespace SearchFilter

namespace Json

/-- One step that flattens a document, at its top or anywhere inside it. A member that is removed
from an object is the only one with its key, as in every document that was read from text. -/
inductive Flattens : Json → Json → Prop
  | spliced (before inner after : List Json) :
      Flattens (.array (before ++ .array inner :: after)) (.array (before ++ inner ++ after))
  | nullRemoved (before after : List Json) :
      Flattens (.array (before ++ .null :: after)) (.array (before ++ after))
  | memberRemoved (key : String) (value : Json) (before after : List (String × Json))
      (missing : value = .null ∨ value = .array [])
      (alone : key ∉ Entries.keys (before ++ after)) :
      Flattens (.object (before ++ (key, value) :: after)) (.object (before ++ after))
  | unwrapped (value : Json) : Flattens (.array [value]) value
  | wrapped (value : Json) : Flattens value (.array [value])
  | insideItem {value other : Json} (before after : List Json) (step : Flattens value other) :
      Flattens (.array (before ++ value :: after)) (.array (before ++ other :: after))
  | insideMember {value other : Json} (key : String) (before after : List (String × Json))
      (step : Flattens value other) :
      Flattens (.object (before ++ (key, value) :: after))
        (.object (before ++ (key, other) :: after))

/-- Whether two values are the same to every test on values. Objects are, whatever is in them. -/
inductive Resembles : Json → Json → Prop
  | same (value : Json) : Resembles value value
  | objects (entries others : List (String × Json)) : Resembles (.object entries) (.object others)

/-- Values resemble themselves. -/
theorem resembles_all (values : List Json) : List.Forall₂ Resembles values values :=
  List.forall₂_same.mpr fun value _ => .same value

/-! ### What a path leads to -/

/-- What two lists of items lead to is put together in order. -/
theorem leavesOfItems_append (items others : List Json) (path : List String) :
    leavesOfItems (items ++ others) path = leavesOfItems items path ++ leavesOfItems others path := by
  induction items with
  | nil => rfl
  | cons item rest inductionHypothesis =>
    rw [List.cons_append, leavesOfItems, inductionHypothesis, leavesOfItems, List.append_assoc]

/-- The first item leads first. -/
theorem leavesOfItems_cons (item : Json) (rest : List Json) (path : List String) :
    leavesOfItems (item :: rest) path = leaves item path ++ leavesOfItems rest path := by
  rw [leavesOfItems]

/-- A null and an empty array lead nowhere, whatever path is taken from them. -/
theorem leaves_of_missing {value : Json} (missing : value = .null ∨ value = .array [])
    (path : List String) : leaves value path = [] := by
  obtain rfl | rfl := missing
  · rw [leaves]
  · rw [leaves, leavesOfItems]

/-- A path that begins with a key that is not there leads nowhere. -/
theorem leavesOfMember_of_not_mem {head : String} {entries : List (String × Json)}
    (absent : head ∉ Entries.keys entries) (rest : List String) :
    leavesOfMember entries head rest = [] := by
  induction entries with
  | nil => rw [leavesOfMember]
  | cons entry others inductionHypothesis =>
    obtain ⟨different, absentLater⟩ := not_or.mp (mt List.mem_cons.mpr absent)
    have distinct : ¬entry.1 = head := fun same => different same.symm
    rw [leavesOfMember, if_neg distinct, inductionHypothesis absentLater]

/-- A member without a value can be removed, if no other member comes to light in its place. -/
theorem leavesOfMember_removed {key : String} {value : Json} (before : List (String × Json))
    {after : List (String × Json)} (missing : value = .null ∨ value = .array [])
    (alone : key ∉ Entries.keys (before ++ after)) (head : String) (rest : List String) :
    leavesOfMember (before ++ (key, value) :: after) head rest =
      leavesOfMember (before ++ after) head rest := by
  induction before with
  | nil =>
    rw [List.nil_append, List.nil_append, leavesOfMember]
    by_cases isKey : key = head
    · have absent : head ∉ Entries.keys after := isKey ▸ alone
      rw [if_pos isKey, leaves_of_missing missing, leavesOfMember_of_not_mem absent]
    · rw [if_neg isKey]
  | cons entry others inductionHypothesis =>
    have aloneLater : key ∉ Entries.keys (others ++ after) :=
      fun member => alone (List.mem_cons_of_mem _ member)
    rw [List.cons_append, List.cons_append, leavesOfMember, leavesOfMember,
      inductionHypothesis aloneLater]

/-- If one member of an object leads to alike values on every path, the object does. Only a path
through the key of that member can tell the two objects apart. -/
theorem leavesOfMember_resembles {key : String} {value other : Json}
    (resemble : ∀ path, List.Forall₂ Resembles (leaves value path) (leaves other path))
    (before after : List (String × Json)) (head : String) (rest : List String) :
    List.Forall₂ Resembles (leavesOfMember (before ++ (key, value) :: after) head rest)
      (leavesOfMember (before ++ (key, other) :: after) head rest) := by
  induction before with
  | nil =>
    rw [List.nil_append, List.nil_append, leavesOfMember, leavesOfMember]
    split
    · exact resemble rest
    · exact resembles_all _
  | cons entry others inductionHypothesis =>
    rw [List.cons_append, List.cons_append, leavesOfMember, leavesOfMember]
    split
    · exact resembles_all _
    · exact inductionHypothesis

/-- A step changes what a path leads to in the inside of objects only. The induction is on the place
of the step. -/
theorem Flattens.leaves {document other : Json} (step : Flattens document other)
    (path : List String) :
    List.Forall₂ Resembles (document.leaves path) (other.leaves path) := by
  induction step generalizing path with
  | spliced before inner after =>
    have same : (Json.array (before ++ .array inner :: after)).leaves path =
        (Json.array (before ++ inner ++ after)).leaves path := by
      rw [Json.leaves, Json.leaves, leavesOfItems_append, leavesOfItems_append,
        leavesOfItems_append, leavesOfItems_cons, Json.leaves, List.append_assoc]
    rw [same]
    exact resembles_all _
  | nullRemoved before after =>
    have same : (Json.array (before ++ .null :: after)).leaves path =
        (Json.array (before ++ after)).leaves path := by
      rw [Json.leaves, Json.leaves, leavesOfItems_append, leavesOfItems_append,
        leavesOfItems_cons, Json.leaves, List.nil_append]
    rw [same]
    exact resembles_all _
  | memberRemoved key value before after missing alone =>
    cases path with
    | nil =>
      rw [Json.leaves, Json.leaves]
      · exact .cons (.objects _ _) .nil
      all_goals simp
    | cons head rest =>
      rw [Json.leaves, Json.leaves, leavesOfMember_removed before missing alone]
      exact resembles_all _
  | unwrapped value =>
    rw [Json.leaves, leavesOfItems, leavesOfItems, List.append_nil]
    exact resembles_all _
  | wrapped value =>
    rw [Json.leaves, leavesOfItems, leavesOfItems, List.append_nil]
    exact resembles_all _
  | insideItem before after _ inductionHypothesis =>
    rw [Json.leaves, Json.leaves, leavesOfItems_append, leavesOfItems_append, leavesOfItems_cons,
      leavesOfItems_cons]
    exact List.rel_append (resembles_all _)
      (List.rel_append (inductionHypothesis path) (resembles_all _))
  | insideMember key before after _ inductionHypothesis =>
    cases path with
    | nil =>
      rw [Json.leaves, Json.leaves]
      · exact .cons (.objects _ _) .nil
      all_goals simp
    | cons head rest =>
      rw [Json.leaves, Json.leaves]
      exact leavesOfMember_resembles inductionHypothesis before after head rest

end Json

/-! ### What a test says of values -/

open Json (Resembles Flattens)

/-- Values that resemble each other compare alike with every literal: objects compare with none. -/
theorem Json.Resembles.compareValue?_eq {value other : Json} (resembles : Resembles value other)
    (literal : Scalar) : literal.compareValue? value = literal.compareValue? other := by
  cases resembles with
  | same => rfl
  | objects entries others => cases literal <;> rfl

/-- Values that resemble each other have the same text, if any. -/
theorem Json.Resembles.string?_eq {value other : Json} (resembles : Resembles value other) :
    value.string? = other.string? := by
  cases resembles with
  | same => rfl
  | objects entries others => rfl

/-- Values that resemble each other lie in the same intervals. -/
theorem Interval.contains_resembling {value other : Json} (resembles : Resembles value other)
    (interval : Interval) : interval.contains value = interval.contains other := by
  unfold contains Bound.isBelow Bound.isAbove
  simp only [resembles.compareValue?_eq]

section Tests

variable {values others : List Json} (resemble : List.Forall₂ Resembles values others)
include resemble

/-- A test of single values passes for one of these if it does for one of those. -/
theorem any_resembling (test : Json → Bool)
    (each : ∀ value other, Resembles value other → test value = test other) :
    values.any test = others.any test := by
  induction resemble with
  | nil => rfl
  | cons first _ inductionHypothesis =>
    rw [List.any_cons, List.any_cons, each _ _ first, inductionHypothesis]

/-- The texts among the values are the same, in the same order. -/
theorem texts_resembling : values.filterMap Json.string? = others.filterMap Json.string? := by
  induction resemble with
  | nil => rfl
  | cons first _ inductionHypothesis =>
    rw [List.filterMap_cons, List.filterMap_cons, first.string?_eq, inductionHypothesis]

/-- A test on values says the same of values that resemble each other one by one. -/
theorem Test.holds_resembling (test : Test) : test.holds values = test.holds others := by
  have equals (literal : Scalar) (value other : Json) (resembles : Resembles value other) :
      literal.equalsValue value = literal.equalsValue other := by
    unfold Scalar.equalsValue
    rw [resembles.compareValue?_eq]
  have texts := texts_resembling resemble
  cases test with
  | term literal => exact any_resembling resemble _ (equals literal)
  | termSet mode wanted =>
    cases mode with
    | any =>
      refine any_resembling resemble _ fun value other resembles => ?_
      simp only [equals _ value other resembles]
    | all =>
      have found (literal : Scalar) :
          values.any literal.equalsValue = others.any literal.equalsValue :=
        any_resembling resemble _ (equals literal)
      simp only [holds, found]
  | range interval =>
    exact any_resembling resemble _ fun _ _ resembles => interval.contains_resembling resembles
  | present =>
    cases resemble with
    | nil => rfl
    | cons => rfl
  | startsWith text => simp only [holds, texts]
  | wildcard pattern ignoreCase => simp only [holds, texts]
  | regexp pattern ignoreCase strict => simp only [holds, texts]
  | _ => rfl

end Tests

/-! ### What a query selects -/

mutual

/-- A query sees a document through its predicates only. -/
theorem Query.selects_of_leaves {document other : Json} : (query : Query) →
    (∀ predicate ∈ query.leaves, predicate.selects document = predicate.selects other) →
      query.selects document = query.selects other
  | .matchAll, _ => rfl
  | .leaf predicate, same => same predicate (List.mem_singleton_self predicate)
  | .group connective members, same => by
    obtain ⟨byAll, byAny⟩ := Query.selected_of_leavesOfAll members same
    cases connective with
    | and => rw [selects, selects, byAll]
    | or => rw [selects, selects, byAny]
    | not => rw [selects, selects, byAny]

/-- Queries select alike, all of them and one of them, if their predicates do. The induction is on
the members of a group. -/
theorem Query.selected_of_leavesOfAll {document other : Json} : (queries : List Query) →
    (∀ predicate ∈ Query.leavesOfAll queries,
        predicate.selects document = predicate.selects other) →
      Query.selectedByAll queries document = Query.selectedByAll queries other ∧
        Query.selectedByAny queries document = Query.selectedByAny queries other
  | [], _ => ⟨rfl, rfl⟩
  | query :: rest, same => by
    obtain ⟨here, later⟩ := List.forall_mem_append.mp same
    have first := Query.selects_of_leaves query here
    obtain ⟨byAll, byAny⟩ := Query.selected_of_leavesOfAll rest later
    constructor
    · rw [selectedByAll, selectedByAll, first, byAll]
    · rw [selectedByAny, selectedByAny, first, byAny]

end

/-- A predicate on values gives the same answer after a step. -/
theorem Predicate.selects_of_flattens {document other : Json} (step : Flattens document other)
    (predicate : Predicate) (onValues : predicate.test.isOnPlaces = false) :
    predicate.selects document = predicate.selects other := by
  have hit : predicate.hits document = predicate.hits other := by
    unfold hits
    simp only [onValues, Bool.false_eq_true, if_false]
    exact predicate.test.holds_resembling (step.leaves (Path.segments predicate.field))
  rw [selects, selects, hit]

/-- A query without tests on places selects a document exactly if it selects what the document is
flattened into, however often and wherever. -/
theorem Query.selects_of_flattened (query : Query)
    (placeless : ∀ predicate ∈ query.leaves, predicate.test.isOnPlaces = false)
    (document other : Json) (flattened : Relation.ReflTransGen Flattens document other) :
    query.selects document = query.selects other := by
  induction flattened with
  | refl => rfl
  | tail _ step inductionHypothesis =>
    rw [inductionHypothesis]
    apply selects_of_leaves
    intro predicate member
    exact predicate.selects_of_flattens step (placeless predicate member)

/-- A field below objects inside arrays, with a null, a nested array, an array of one item and an
empty array in the document, and a query with a negated conjunction. -/
theorem Query.selects_of_flattened_of_nested :
    let query : Query := .group .not [.group .and
      [.test "a.b" (.term (.str "x")), .testNot "c" .present, .test "a.b" (.startsWith "y")]]
    let held (value : Json) : Json := .object [("b", value)]
    let document : Json := .object
      [("a", .array [.array [held (.array [.string "x"]), .null], held (.string "y")]),
        ("c", .array [])]
    let other : Json := .array
      [.object [("a", .array [held (.string "x"), held (.string "y")])]]
    (∀ predicate ∈ query.leaves, predicate.test.isOnPlaces = false) ∧
      Relation.ReflTransGen Flattens document other ∧
        query.selects document = query.selects other := by
  intro query held document other
  have placeless : ∀ predicate ∈ query.leaves, predicate.test.isOnPlaces = false := by
    simp [query, Query.leaves, Query.leavesOfAll, Query.test, Query.testNot, Predicate.of,
      Predicate.flip, Test.isOnPlaces]
  have first : Flattens document (.object
      [("a", .array [held (.array [.string "x"]), .null, held (.string "y")]),
        ("c", .array [])]) :=
    .insideMember "a" [] _ (.spliced [] _ [_])
  have second : Flattens _ (.object
      [("a", .array [held (.array [.string "x"]), held (.string "y")]), ("c", .array [])]) :=
    .insideMember "a" [] _ (.nullRemoved [_] [_])
  have third : Flattens _ (.object
      [("a", .array [held (.string "x"), held (.string "y")]), ("c", .array [])]) :=
    .insideMember "a" [] _ (.insideItem [] _ (.insideMember "b" [] [] (.unwrapped _)))
  have fourth : Flattens _ (.object [("a", .array [held (.string "x"), held (.string "y")])]) :=
    .memberRemoved "c" _ [_] [] (.inr rfl) (by decide)
  have flattened : Relation.ReflTransGen Flattens document other :=
    .head first (.head second (.head third (.head fourth (.single (.wrapped _)))))
  exact ⟨placeless, flattened,
    Query.selects_of_flattened query placeless document other flattened⟩

end SearchFilter
