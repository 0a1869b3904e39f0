import SearchFilter.Proofs.FieldCondition
import Mathlib.Data.List.Permutation

/-!
# When the order of operators matters

Whether an operator map compiles, and what its operators ask for bounds apart, does not depend on
the order of its entries. The bounds are the exception, because neighbours are paired: with at most
two of them there is only one way to pair, and every order selects the same documents, but any three
bound operators have operands with which two orders select different documents.
-/

namespace SearchFilter

open Resolve (Setting keyed partner?)

/-- The operator map with these entries. -/
def Value.ofOperators (entries : List (Operator × Value)) : Value := .map (entries.map keyed)

namespace Resolve

/-! ### What does not depend on the order -/

/-- With distinct keys what is found under a key is its entry, wherever it stands. -/
theorem found_eq_some_iff {κ : Type} [DecidableEq κ] {entries : List (κ × Value)}
    (distinct : (entries.map Prod.fst).Nodup) (key : κ) (value : Value) :
    (entries.find? fun entry => entry.1 = key).map Prod.snd = some value ↔
      (key, value) ∈ entries := by
  induction entries with
  | nil => simp
  | cons entry rest inductionHypothesis =>
    obtain ⟨head, operand⟩ := entry
    obtain ⟨absent, distinctRest⟩ := List.nodup_cons.mp distinct
    have further := inductionHypothesis distinctRest
    by_cases same : head = key
    · subst same
      have noOther : (head, value) ∉ rest := fun member =>
        absent (List.mem_map.mpr ⟨_, member, rfl⟩)
      simp [noOther, eq_comm]
    · have different : ¬key = head := fun equal => same equal.symm
      simpa [same, different] using further

/-- With distinct operators a partner is an entry of the map, wherever it stands. -/
theorem partner?_eq_some_iff (entries : List (Operator × Value))
    (distinct : (entries.map Prod.fst).Nodup) (op : Operator) (value : Value) :
    partner? op entries = some value ↔ (op, value) ∈ entries :=
  found_eq_some_iff distinct op value

/-- Which partner is found does not depend on the order of the entries, because their operators are
distinct. -/
theorem partner?_perm (entries others : List (Operator × Value)) (permuted : entries.Perm others)
    (distinct : (entries.map Prod.fst).Nodup) (op : Operator) :
    partner? op entries = partner? op others := by
  have distinctOthers : (others.map Prod.fst).Nodup :=
    (permuted.map Prod.fst).nodup_iff.mp distinct
  refine Option.ext fun value => ?_
  rw [partner?_eq_some_iff entries distinct, partner?_eq_some_iff others distinctOthers,
    permuted.mem_iff]

/-- A permuted operator map is resolved exactly when the map is. -/
theorem operand_succeeds_perm (setting : Setting) (field : String) (levels : Nat)
    (entries others : List (Operator × Value)) (permuted : entries.Perm others)
    (distinct : (entries.map Prod.fst).Nodup) :
    (operand setting field levels (.ops entries)).Succeeds ↔
      (operand setting field levels (.ops others)).Succeeds := by
  have same (op : Operator) (_ : op.isGeo = true) :=
    partner?_perm entries others permuted distinct op
  have resolved (enter : Operand → Diagnosed (List Query)) :
      (operandWith setting enter field (.ops entries)).Succeeds ↔
        (operandWith setting enter field (.ops others)).Succeeds := by
    simp only [operandWith, ← map_eq_pure_bind, Diagnosed.succeeds_map_iff, takeUpAll_eq,
      Diagnosed.succeeds_mapM_iff, contribution_congr setting enter field entries others same,
      permuted.mem_iff]
  cases levels with
  | zero => exact resolved _
  | succ levels => exact resolved _

end Resolve

namespace FilterSpec

/-- The bounds of an operator map in order. -/
def boundsOf (entries : List (Operator × Value)) : List Edge :=
  (entries.map keyed).filterMap Meaning.edge?

/-- Whether every operator of a map holds, bounds apart. -/
def othersHold (capabilities : Capabilities) (held : Held) (entries : List (Operator × Value)) :
    Bool :=
  Meaning.operators capabilities held (fun op => partner? op entries) (entries.map keyed)

/-- The meaning of an operator map is that of its operators other than bounds, one by one, together
with that of its bounds. -/
theorem condition_ofOperators (capabilities : Capabilities) (held : Held)
    (entries : List (Operator × Value)) :
    Meaning.condition capabilities held (.ofOperators entries) =
      (othersHold capabilities held entries && Edge.hold held.values (boundsOf entries)) := by
  have partners : Meaning.partner? (entries.map keyed) = fun op => partner? op entries :=
    funext (Resolve.partner?_keyed entries)
  rw [Value.ofOperators, Meaning.condition, partners]
  rfl

/-- What the operators other than bounds ask does not depend on their order. -/
theorem othersHold_perm (capabilities : Capabilities) (held : Held)
    (entries others : List (Operator × Value)) (permuted : entries.Perm others)
    (distinct : (entries.map Prod.fst).Nodup) :
    othersHold capabilities held entries = othersHold capabilities held others := by
  have partners : (fun op => partner? op entries) = fun op => partner? op others :=
    funext (Resolve.partner?_perm entries others permuted distinct)
  unfold othersHold
  rw [partners, Resolve.operators_eq_all, Resolve.operators_eq_all]
  exact permuted.all_eq

/-- How many operators are bounds. -/
def boundCount (ops : List Operator) : Nat := ops.countP Operator.isBound

/-- A map has at most as many bounds as bound operators. An operand that is no literal gives
none. -/
theorem length_boundsOf_le (entries : List (Operator × Value)) :
    (boundsOf entries).length ≤ boundCount (entries.map Prod.fst) := by
  induction entries with
  | nil => exact Nat.le_refl 0
  | cons entry rest inductionHypothesis =>
    obtain ⟨op, value⟩ := entry
    simp only [boundsOf, boundCount] at inductionHypothesis
    simp only [boundsOf, boundCount, List.map_cons, List.filterMap_cons, List.countP_cons]
    by_cases bounding : op.isBound = true
    · split <;> simp only [bounding, if_true, List.length_cons] <;> omega
    · have noEdge : Meaning.edge? (keyed (op, value)) = none := by
        cases value with
        | scalar literal => cases op <;> first | rfl | exact absurd rfl bounding
        | _ => rfl
      simp only [noEdge, bounding]
      omega

/-- Two bounds form the same groups in either order. -/
theorem hold_perm_of_length_le (values : List Json) (edges others : List Edge)
    (permuted : edges.Perm others) (few : edges.length ≤ 2) :
    Edge.hold values edges = Edge.hold values others := by
  match edges, few with
  | [], _ => rw [List.nil_perm.mp permuted]
  | [edge], _ => rw [List.singleton_perm.mp permuted]
  | [first, second], _ =>
    obtain rfl | rfl := List.perm_pair.mp permuted.symm
    · rfl
    · by_cases same : first.side = second.side
      · simp [Edge.hold, Edge.together, same, Bool.and_comm]
      · have different : ¬second.side = first.side := fun equal => same equal.symm
        simp [Edge.hold, Edge.together, same, different, Bool.and_comm]

/-! ### Where the order matters -/

/-- The document that holds a value at the end of a path. -/
def nested : List String → Json → Json
  | [], value => value
  | segment :: rest, value => .object [(segment, nested rest value)]

/-- A value put under a path is found there. -/
theorem leaves_nested (segments : List String) (value : Json) :
    (nested segments value).leaves segments = value.leaves [] := by
  induction segments with
  | nil => rfl
  | cons segment rest inductionHypothesis =>
    simp [nested, Json.leaves, Json.leavesOfMember, inductionHypothesis]

/-- The texts among the values of a field. -/
theorem mem_texts_iff (values : List Json) (text : String) :
    text ∈ values.filterMap Json.string? ↔ .string text ∈ values := by
  rw [List.mem_filterMap]
  constructor
  · rintro ⟨value, isValue, isText⟩
    cases value <;> cases isText
    exact isValue
  · exact fun isValue => ⟨_, isValue, rfl⟩

/-- Operands of bounds with which it matters how the bounds are paired: no value lies above ten and
below five, but every other pair of bounds on different sides has values between them. -/
def pairedOperand : Operator → Int
  | .greater => 10
  | .less => 5
  | .lessOrEqual => 30
  | _ => 0

/-- Entries with these operands. -/
def paired (ops : List Operator) : List (Operator × Value) :=
  ops.map fun op => (op, .scalar (.int (pairedOperand op)))

/-- The map with chosen operands has the given operators in the given order. -/
theorem operators_paired (ops : List Operator) : (paired ops).map Prod.fst = ops := by
  rw [paired, List.map_map]
  exact List.map_id ops

/-- Bounds with integers are resolved under every setting and at every level. -/
theorem resolve_paired (setting : Setting) (field : String) (levels : Nat) (ops : List Operator)
    (bounds : ∀ op ∈ ops, op.isBound = true) :
    (Resolve.operand setting field levels (.ops (paired ops))).Succeeds := by
  have resolved (enter : Operand → Diagnosed (List Query)) :
      (Resolve.operandWith setting enter field (.ops (paired ops))).Succeeds := by
    simp only [Resolve.operandWith, ← map_eq_pure_bind, Diagnosed.succeeds_map_iff,
      Resolve.takeUpAll_eq, Diagnosed.succeeds_mapM_iff]
    intro entry member
    obtain ⟨op, opMember, rfl⟩ := List.mem_map.mp member
    have bounding := bounds op opMember
    cases op <;> first | exact ⟨_, _, rfl⟩ | cases bounding
  cases levels with
  | zero => exact resolved _
  | succ levels => exact resolved _

/-- A map of bound operators alone has nothing else to hold. -/
theorem othersHold_paired (capabilities : Capabilities) (held : Held) (ops : List Operator)
    (bounds : ∀ op ∈ ops, op.isBound = true) :
    othersHold capabilities held (paired ops) = true := by
  rw [othersHold, Resolve.operators_eq_all, List.all_eq_true]
  intro entry member
  obtain ⟨op, opMember, rfl⟩ := List.mem_map.mp member
  have bounding := bounds op opMember
  cases op <;> first | rfl | cases bounding

/-- Three of the four bound operators, or all of them. -/
theorem perm_of_three_bounds (ops : List Operator) (distinct : ops.Nodup)
    (bounds : ∀ op ∈ ops, op.isBound = true) (many : 3 ≤ ops.length) :
    ops.Perm [.greater, .greaterOrEqual, .less] ∨
      ops.Perm [.greater, .greaterOrEqual, .lessOrEqual] ∨
      ops.Perm [.greater, .less, .lessOrEqual] ∨
      ops.Perm [.greaterOrEqual, .less, .lessOrEqual] ∨
      ops.Perm [.greater, .greaterOrEqual, .less, .lessOrEqual] := by
  have chosen : ops.Perm
      ([Operator.greater, .greaterOrEqual, .less, .lessOrEqual].filter fun op => op ∈ ops) := by
    rw [List.perm_ext_iff_of_nodup distinct (List.Nodup.filter _ (by decide))]
    intro op
    rw [List.mem_filter, decide_eq_true_iff]
    refine ⟨fun member => ⟨?_, member⟩, fun both => both.2⟩
    have bounding := bounds op member
    cases op <;> first | decide | cases bounding
  have enough := many
  rw [chosen.length_eq] at enough
  by_cases greater : Operator.greater ∈ ops <;>
    by_cases greaterOrEqual : Operator.greaterOrEqual ∈ ops <;>
      by_cases less : Operator.less ∈ ops <;>
        by_cases lessOrEqual : Operator.lessOrEqual ∈ ops <;>
          simp only [List.filter_cons, List.filter_nil, greater, greaterOrEqual, less, lessOrEqual,
            decide_true, decide_false, if_true, if_false, Bool.false_eq_true, List.length_cons,
            List.length_nil] at chosen enough <;>
          first
          | omega
          | simp only [chosen, true_or, or_true]

/-! ### Compiled operator maps -/

/-- A map of operators is read as such. -/
theorem ofValue_ofOperators (field : String) (entries : List (Operator × Value)) :
    Operand.ofValue field (.ofOperators entries) = .ok (.ops entries) :=
  (Check.map_eq_ok_iff _ _ _).mpr
    ⟨entries, Check.mapM_map_eq_ok Operand.entry keyed (fun _ => rfl) entries, rfl⟩

section Compiling

variable (key : String) (isField : Combinator.ofKey? key = none) (fields : FieldContext)
  (capabilities : Capabilities) (limit : Nat)
include isField

/-- An operator map compiles exactly when it is resolved. -/
theorem compile_ofOperators_iff (entries : List (Operator × Value)) :
    (∃ compiled,
        compile (single key (.ofOperators entries)) fields capabilities limit = .ok compiled) ↔
      (Resolve.operand ⟨fields, capabilities, limit⟩ (Where.pathOf key) limit
        (.ops entries)).Succeeds := by
  simp only [compile_single_eq_ok_iff key _ isField, ofValue_ofOperators, Except.ok.injEq]
  constructor
  · rintro ⟨compiled, _, queries, rfl, resolved, -⟩
    exact ⟨queries, compiled.warnings, resolved⟩
  · rintro ⟨queries, warnings, resolved⟩
    exact ⟨⟨.group .and queries, warnings⟩, _, queries, rfl, resolved, rfl⟩

/-- Two orders of integer bounds select different documents if some values satisfy the groups of one
and not those of the other. -/
theorem orders_differ (first second : List Operator) (permuted : first.Perm second)
    (bounds : ∀ op ∈ first, op.isBound = true) (values : List Json)
    (plain : (Json.array values).leaves [] = values)
    (differ : Edge.hold values (boundsOf (paired first)) ≠
      Edge.hold values (boundsOf (paired second))) :
    ∃ compiled other document,
      compile (single key (.ofOperators (paired first))) fields capabilities limit =
        .ok compiled ∧
      compile (single key (.ofOperators (paired second))) fields capabilities limit = .ok other ∧
      compiled.root.selects document ≠ other.root.selects document := by
  have boundsOfSecond : ∀ op ∈ second, op.isBound = true := fun op member =>
    bounds op (permuted.mem_iff.mpr member)
  obtain ⟨compiled, compiles⟩ :=
    (compile_ofOperators_iff key isField fields capabilities limit (paired first)).mpr
      (resolve_paired _ _ _ first bounds)
  obtain ⟨other, otherCompiles⟩ :=
    (compile_ofOperators_iff key isField fields capabilities limit (paired second)).mpr
      (resolve_paired _ _ _ second boundsOfSecond)
  let document := nested (Path.segments (Where.pathOf key)) (.array values)
  have held : (Held.of document (Where.pathOf key)).values = values :=
    (leaves_nested _ _).trans plain
  refine ⟨compiled, other, document, compiles, otherCompiles, ?_⟩
  rw [selects_single key _ isField fields capabilities limit compiled compiles,
    selects_single key _ isField fields capabilities limit other otherCompiles,
    condition_ofOperators, condition_ofOperators, othersHold_paired _ _ first bounds,
    othersHold_paired _ _ second boundsOfSecond, Bool.true_and, Bool.true_and, held]
  exact differ

/-- A permuted operator map answers differently exactly where the other operators hold and its
bounds hold in one order only. -/
theorem selects_permuted_iff (entries others : List (Operator × Value))
    (permuted : entries.Perm others) (distinct : (entries.map Prod.fst).Nodup)
    (compiled other : CompiledQuery)
    (compiles :
      compile (single key (.ofOperators entries)) fields capabilities limit = .ok compiled)
    (otherCompiles :
      compile (single key (.ofOperators others)) fields capabilities limit = .ok other)
    (document : Json) :
    compiled.root.selects document = other.root.selects document ↔
      (othersHold capabilities (.of document (Where.pathOf key)) entries = true →
        Edge.hold (Held.of document (Where.pathOf key)).values (boundsOf entries) =
          Edge.hold (Held.of document (Where.pathOf key)).values (boundsOf others)) := by
  rw [selects_single key _ isField fields capabilities limit compiled compiles,
    selects_single key _ isField fields capabilities limit other otherCompiles,
    condition_ofOperators, condition_ofOperators,
    ← othersHold_perm capabilities _ entries others permuted distinct]
  cases othersHold capabilities (.of document (Where.pathOf key)) entries <;> simp

/-- Any three bound operators can be given operands and two orders that answer differently. In the
cases below the first order puts a value into every pair that the second one leaves without, or the
other way round. -/
theorem orders_of_three_bounds (ops : List Operator) (distinct : ops.Nodup)
    (bounds : ∀ op ∈ ops, op.isBound = true) (many : 3 ≤ ops.length) :
    ∃ entries others : List (Operator × Value),
      (entries.map Prod.fst).Perm ops ∧ entries.Perm others ∧ ∃ compiled other document,
        compile (single key (.ofOperators entries)) fields capabilities limit = .ok compiled ∧
        compile (single key (.ofOperators others)) fields capabilities limit = .ok other ∧
        compiled.root.selects document ≠ other.root.selects document := by
  have build (first second : List Operator) (chosen : ops.Perm first)
      (permuted : first.Perm second) (values : List Json)
      (plain : (Json.array values).leaves [] = values)
      (differ : Edge.hold values (boundsOf (paired first)) ≠
        Edge.hold values (boundsOf (paired second))) :
      ∃ entries others : List (Operator × Value),
        (entries.map Prod.fst).Perm ops ∧ entries.Perm others ∧ ∃ compiled other document,
          compile (single key (.ofOperators entries)) fields capabilities limit = .ok compiled ∧
          compile (single key (.ofOperators others)) fields capabilities limit = .ok other ∧
          compiled.root.selects document ≠ other.root.selects document := by
    refine ⟨paired first, paired second, ?_, permuted.map _, ?_⟩
    · rw [operators_paired]
      exact chosen.symm
    · exact orders_differ key isField fields capabilities limit first second permuted
        (fun op member => bounds op (chosen.mem_iff.mpr member)) values plain differ
  obtain chosen | chosen | chosen | chosen | chosen := perm_of_three_bounds ops distinct bounds many
  · exact build _ [.greater, .less, .greaterOrEqual] chosen (by decide)
      [.integer 3, .integer 20] rfl (by decide)
  · exact build _ [.greater, .lessOrEqual, .greaterOrEqual] chosen (by decide)
      [.integer 3, .integer 40] rfl (by decide)
  · exact build _ [.greater, .lessOrEqual, .less] chosen (by decide)
      [.integer 3, .integer 20] rfl (by decide)
  · exact build _ [.greaterOrEqual, .lessOrEqual, .less] chosen (by decide)
      [.integer (-3), .integer 20] rfl (by decide)
  · exact build _ [.greater, .less, .greaterOrEqual, .lessOrEqual] chosen (by decide)
      [.integer 3, .integer 20] rfl (by decide)

/-- When the order of operators matters. Permuting a map with distinct operators never changes
whether it compiles. It changes the answer for a document exactly if the other operators hold there
and the bounds, paired with their neighbours, hold in one order and not in the other. That does not
happen with at most two bounds, and does happen, for some operands and some document, with any three
or four of them. -/
theorem operator_order_matters_from_three_bounds :
    let build (entries : List (Operator × Value)) :=
      compile (single key (.ofOperators entries)) fields capabilities limit
    (∀ entries others : List (Operator × Value), entries.Perm others →
      (entries.map Prod.fst).Nodup →
        ((∃ compiled, build entries = .ok compiled) ↔ ∃ other, build others = .ok other) ∧
        ∀ compiled other, build entries = .ok compiled → build others = .ok other → ∀ document,
          let held := Held.of document (Where.pathOf key)
          (compiled.root.selects document = other.root.selects document ↔
            (othersHold capabilities held entries = true →
              Edge.hold held.values (boundsOf entries) =
                Edge.hold held.values (boundsOf others))) ∧
          (boundCount (entries.map Prod.fst) ≤ 2 →
            compiled.root.selects document = other.root.selects document)) ∧
      ∀ ops : List Operator, ops.Nodup → (∀ op ∈ ops, op.isBound = true) → 3 ≤ ops.length →
        ∃ entries others : List (Operator × Value),
          (entries.map Prod.fst).Perm ops ∧ entries.Perm others ∧ ∃ compiled other document,
            build entries = .ok compiled ∧ build others = .ok other ∧
            compiled.root.selects document ≠ other.root.selects document := by
  intro build
  refine ⟨fun entries others permuted distinct => ⟨?_, ?_⟩, ?_⟩
  · rw [compile_ofOperators_iff key isField fields capabilities limit entries,
      compile_ofOperators_iff key isField fields capabilities limit others]
    exact Resolve.operand_succeeds_perm _ _ limit entries others permuted distinct
  · intro compiled other compiles otherCompiles document held
    have exactly := selects_permuted_iff key isField fields capabilities limit entries others
      permuted distinct compiled other compiles otherCompiles document
    refine ⟨exactly, fun few => exactly.mpr fun _ => ?_⟩
    exact hold_perm_of_length_le held.values (boundsOf entries) (boundsOf others)
      ((permuted.map keyed).filterMap Meaning.edge?)
      (Nat.le_trans (length_boundsOf_le entries) few)
  · exact orders_of_three_bounds key isField fields capabilities limit

end Compiling

/-- The order of operators matters for a bound on one side between two on the other side. -/
theorem operator_order_matters :
    let first := Value.ofOperators [(.greater, .scalar (.int 10)),
      (.greaterOrEqual, .scalar (.int 0)), (.less, .scalar (.int 5))]
    let second := Value.ofOperators [(.greater, .scalar (.int 10)), (.less, .scalar (.int 5)),
      (.greaterOrEqual, .scalar (.int 0))]
    let document := Json.object [("f", .array [.integer 3, .integer 20])]
    ∃ compiled other,
      compile (single "f" first) .empty ⟨fun _ => true⟩ = .ok compiled ∧
      compile (single "f" second) .empty ⟨fun _ => true⟩ = .ok other ∧
      compiled.root.selects document = true ∧ other.root.selects document = false :=
  ⟨_, _, rfl, rfl, by decide, by decide⟩

/-- The two orders of a lower and an upper bound, with a negation beside them. -/
theorem operator_order_irrelevant_of_two_bounds :
    let first := [(Operator.greater, Value.scalar (.int 1)), (.negation, .null),
      (.less, .scalar (.int 5))]
    let second := [(Operator.less, Value.scalar (.int 5)), (.greater, .scalar (.int 1)),
      (.negation, .null)]
    Combinator.ofKey? "f" = none ∧ first.Perm second ∧ (first.map Prod.fst).Nodup ∧
      ∃ compiled other,
        compile (single "f" (.ofOperators first)) .empty ⟨fun _ => true⟩ = .ok compiled ∧
        compile (single "f" (.ofOperators second)) .empty ⟨fun _ => true⟩ = .ok other ∧
        ∀ document, compiled.root.selects document = other.root.selects document := by
  intro first second
  have permuted : first.Perm second :=
    (List.perm_append_comm : ([_, _] ++ [_]).Perm ([_] ++ [_, _]))
  have distinct : (first.map Prod.fst).Nodup := by decide
  refine ⟨rfl, permuted, distinct, _, _, rfl, rfl, fun document => ?_⟩
  have orders := (operator_order_matters_from_three_bounds "f" rfl .empty ⟨fun _ => true⟩
    defaultDepth).1 first second permuted distinct
  exact (orders.2 _ _ rfl rfl document).2 (by decide)

end FilterSpec

end SearchFilter
