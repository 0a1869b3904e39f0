import SearchFilter.Proofs.Mirroring
import SearchFilter.Proofs.OperandMeaning

/-!
# The order of listed values

A condition may list values, bare or under the operators for equality, negation and membership. The
list stands for a set: in another order it is accepted just the same, raises the same warnings and
holds of the same documents, however deep in the operands it stands. Other lists are not of this
kind, such as the pair of numbers that is a place.
-/

namespace SearchFilter

open Check (bind_eq_ok_iff map_eq_ok_iff)

/-- The operators whose operand may be a list of values. -/
def Operator.takesList : Operator → Bool
  | .equal | .negation | .oneOf | .allOf => true
  | _ => false

/-- A condition in which one list of values stands in another order. -/
inductive Value.Reordered : Value → Value → Prop
  | list {items others : List Value} (permuted : items.Perm others) :
      Reordered (.list items) (.list others)
  | operand {value other : Value} (op : Operator) (takesList : op.takesList = true)
      (before after : List (Key × Value)) (reordered : Reordered value other) :
      Reordered (.map (before ++ (.op op, value) :: after))
        (.map (before ++ (.op op, other) :: after))

/-- An order of listed values is undone by another one. -/
theorem Value.Reordered.symm {value other : Value} (reordered : value.Reordered other) :
    other.Reordered value := by
  induction reordered with
  | list permuted => exact .list permuted.symm
  | operand op takesList before after _ inductionHypothesis =>
    exact .operand op takesList before after inductionHypothesis

/-- The shapes of such conditions. -/
inductive Operand.Reordered : Operand → Operand → Prop
  | list {items others : List (Option Scalar)} (permuted : items.Perm others) :
      Reordered (.list items) (.list others)
  | ops {value other : Value} (op : Operator) (takesList : op.takesList = true)
      (before after : List (Operator × Value)) (reordered : value.Reordered other) :
      Reordered (.ops (before ++ (op, value) :: after)) (.ops (before ++ (op, other) :: after))

namespace Operand

/-- An entry of an operator map is read exactly if its key is an operator. -/
theorem entry_eq_ok_iff (given : Key × Value) (result : Operator × Value) :
    entry given = .ok result ↔ given = Resolve.keyed result := by
  obtain ⟨key, value⟩ := given
  cases key with
  | op op => simp [entry, Resolve.keyed, Prod.ext_iff]
  | name text => simp [entry, Resolve.keyed]

/-- Reordered values have reordered shapes, or none of them has one. -/
theorem ofValue_reordered (field : String) {value other : Value}
    (reordered : value.Reordered other) :
    Check.Mirrored Operand.Reordered (ofValue field value) (ofValue field other) := by
  cases reordered with
  | list permuted =>
    exact (Check.Mirrored.mapM_perm (member field) permuted).map _ _ fun _ _ => .list
  | operand op takesList before after reordered =>
    intro shape shaped
    obtain ⟨entries, read, rfl⟩ := (map_eq_ok_iff _ _ _).mp shaped
    obtain ⟨earlier, later, rfl, again⟩ := Check.mapM_replaced entry Resolve.keyed entry_eq_ok_iff
      before after (op, _) entries read
    exact ⟨_, (map_eq_ok_iff _ _ _).mpr ⟨_, again (op, _), rfl⟩,
      .ops op takesList earlier later reordered⟩

end Operand

/-! ### What the lists resolve to -/

namespace Resolve

/-- Any two results. Only success and warnings are compared, because what the queries select is
known from the conditions. -/
def Anything {α β : Type} (_ : α) (_ : β) : Prop := True

/-- Whether operands are resolved alike in whatever order their lists are. -/
def Indifferent (enter : Operand → Diagnosed (List Query)) : Prop :=
  ∀ shape other, shape.Reordered other → Diagnosed.Mirrored Anything (enter shape) (enter other)

/-- The literals of a reordered sequence are reordered, and checked one by one in either order. -/
theorem literals_mirrored (field : String) {items others : List (Option Scalar)}
    (permuted : items.Perm others) :
    Check.Mirrored List.Perm (literals field items) (literals field others) :=
  Check.Mirrored.mapM_perm (matchable field) (permuted.filterMap id)

/-- A sequence has a null in every order or in none. -/
theorem hasNull_perm {items others : List (Option Scalar)} (permuted : items.Perm others) :
    hasNull items = hasNull others :=
  permuted.any_eq

/-- Membership in a reordered sequence is accepted just the same. What it builds may differ. -/
theorem equalsAny_mirrored (field : String) {items others : List (Option Scalar)}
    (permuted : items.Perm others) :
    Check.Mirrored Anything (equalsAny field items) (equalsAny field others) :=
  (literals_mirrored field permuted).bind fun _ _ _ => .ok trivial

/-- Membership in no item of a reordered sequence is accepted just the same. -/
theorem equalsNone_mirrored (field : String) {items others : List (Option Scalar)}
    (permuted : items.Perm others) :
    Check.Mirrored Anything (equalsNone field items) (equalsNone field others) :=
  (literals_mirrored field permuted).bind fun _ _ _ => .ok trivial

/-- Having all of a reordered sequence is accepted just the same. -/
theorem containsAll_mirrored (field : String) {items others : List (Option Scalar)}
    (permuted : items.Perm others) :
    Check.Mirrored Anything (containsAll field items) (containsAll field others) := by
  refine (literals_mirrored field permuted).bind fun _ _ _ => ?_
  rw [hasNull_perm permuted]
  split
  · exact .of_error _ _
  · exact .ok trivial

section Operators

variable (setting : Setting) (enter : Operand → Diagnosed (List Query)) (field : String)
  {value other : Value} (reordered : value.Reordered other)
include reordered

/-- A reordered operand is a sequence in another order, or no sequence at all. -/
theorem sequenceOperand_mirrored (op : Operator) :
    Check.Mirrored List.Perm (sequenceOperand field op value) (sequenceOperand field op other) := by
  refine (Operand.ofValue_reordered field reordered).bind fun shape otherShape are => ?_
  cases are with
  | list permuted => exact .ok permuted
  | ops op takesList before after reordered => exact .of_error _ _

variable (indifferent : Indifferent enter)
include indifferent

/-- An equality with a reordered list is accepted just the same. -/
theorem equality_mirrored :
    Diagnosed.Mirrored Anything (equality enter field value) (equality enter field other) := by
  refine (Diagnosed.Mirrored.lift (Operand.ofValue_reordered field reordered)).bind
    fun shape otherShape are => ?_
  cases are with
  | list permuted => exact indifferent _ _ (.list permuted)
  | ops op takesList before after reordered => exact .of_failed _ _

/-- A negation of a reordered list is accepted just the same. -/
theorem negation_mirrored :
    Diagnosed.Mirrored Anything (negation enter field value) (negation enter field other) := by
  refine (Diagnosed.Mirrored.lift (Operand.ofValue_reordered field reordered)).bind
    fun shape otherShape are => ?_
  cases are with
  | list permuted => exact .lift (equalsNone_mirrored field permuted)
  | ops op takesList before after reordered =>
    exact (indifferent _ _ (.ops op takesList before after reordered)).bind
      fun _ _ _ => .done trivial .nil

/-- An entry with a reordered list is accepted just the same and warns of the same. -/
theorem contribution_mirrored (entries : List (Operator × Value)) (op : Operator)
    (takesList : op.takesList = true) :
    Diagnosed.Mirrored Anything (contribution setting enter field entries (op, value))
      (contribution setting enter field entries (op, other)) := by
  refine (Diagnosed.Mirrored.refl Eq (fun _ => rfl) _).bind fun _ _ _ => ?_
  cases op with
  | equal =>
    exact (equality_mirrored enter field reordered indifferent).bind
      fun _ _ _ => .done trivial .nil
  | negation =>
    exact (negation_mirrored enter field reordered indifferent).bind
      fun _ _ _ => .done trivial .nil
  | oneOf =>
    have members : Diagnosed.Mirrored Anything (simpleEntry setting field entries .oneOf value)
        (simpleEntry setting field entries .oneOf other) :=
      .lift ((sequenceOperand_mirrored field reordered .oneOf).bind fun _ _ permuted =>
        (equalsAny_mirrored field permuted).bind fun _ _ _ => .ok trivial)
    exact members.bind fun _ _ _ => .done trivial .nil
  | allOf =>
    have members : Diagnosed.Mirrored Anything (simpleEntry setting field entries .allOf value)
        (simpleEntry setting field entries .allOf other) :=
      .lift ((Check.Mirrored.refl Eq (fun _ => rfl) _).bind fun _ _ _ =>
        (sequenceOperand_mirrored field reordered .allOf).bind fun _ _ permuted =>
          (containsAll_mirrored field permuted).bind fun _ _ _ => .ok trivial)
    exact members.bind fun _ _ _ => .done trivial .nil
  | _ => cases takesList

end Operators

/-- A changed operand of an operator that is not on places leaves the partners as they are. -/
theorem partner?_replaced (before after : List (Operator × Value)) (op wanted : Operator)
    (different : op ≠ wanted) (value other : Value) :
    partner? wanted (before ++ (op, value) :: after) =
      partner? wanted (before ++ (op, other) :: after) := by
  simp only [partner?, List.find?_append, List.find?_cons, different, decide_false]

/-- No operator that takes a list is one on places. -/
theorem ne_of_takesList {op wanted : Operator} (takesList : op.takesList = true)
    (onPlaces : wanted.isGeo = true) : op ≠ wanted := by
  rintro rfl
  cases op <;> first | exact absurd takesList (by decide) | exact absurd onPlaces (by decide)

/-- One level of operands is resolved alike if the operands inside it are. -/
theorem operandWith_indifferent (setting : Setting) (enter : Operand → Diagnosed (List Query))
    (field : String) (indifferent : Indifferent enter) :
    Indifferent (operandWith setting enter field) := by
  intro shape other reordered
  cases reordered with
  | list permuted =>
    exact .lift ((equalsAny_mirrored field permuted).bind fun _ _ _ => .ok trivial)
  | @ops value otherValue op takesList before after reordered =>
    have partners (wanted : Operator) (onPlaces : wanted.isGeo = true) :=
      partner?_replaced before after op wanted (ne_of_takesList takesList onPlaces) value otherValue
    simp only [operandWith, takeUpAll_eq, contribution_congr setting enter field _ _ partners]
    have contributions := Diagnosed.Mirrored.mapM_replaced (fun _ => trivial)
      (contribution_mirrored setting enter field reordered indifferent
        (before ++ (op, otherValue) :: after) op takesList) before after
    have arranged : Diagnosed.Mirrored Anything _ _ :=
      contributions.map (List.foldl (Progress.add field) .start)
        (List.foldl (Progress.add field) .start) fun _ _ _ => trivial
    exact arranged.bind fun _ _ _ => .done trivial .nil

/-- An operand does not depend on the order of its lists for being accepted, however deep they
stand. -/
theorem operand_indifferent (setting : Setting) (field : String) (levels : Nat) :
    Indifferent (operand setting field levels) :=
  operand_of_levels setting field (fun _ => Indifferent) (fun _ _ _ => .of_failed _ _)
    (fun _ enter indifferent => operandWith_indifferent setting enter field indifferent) levels

end Resolve

/-! ### What the conditions mean -/

namespace Meaning

variable (capabilities : Capabilities) (held : Held)

/-- The operators of a map hold in two parts if both parts do. -/
theorem operators_append (partner : Operator → Option Value) (before after : List (Key × Value)) :
    operators capabilities held partner (before ++ after) =
      (operators capabilities held partner before &&
        operators capabilities held partner after) := by
  induction before with
  | nil => rfl
  | cons entry rest inductionHypothesis =>
    obtain ⟨key, value⟩ := entry
    cases key with
    | name text => rfl
    | op op =>
      cases op <;>
        simp only [List.cons_append, operators, inductionHypothesis, Bool.and_assoc]

/-- A map is looked through for partners only, which are operators on places. -/
theorem operators_congr (partner other : Operator → Option Value)
    (same : ∀ op, op.isGeo = true → partner op = other op) (entries : List (Key × Value)) :
    operators capabilities held partner entries = operators capabilities held other entries := by
  have one (op : Operator) (value : Value) :
      operator held partner op value = operator held other op value := by
    cases op <;> simp only [operator, same .within rfl, same .bottomRight rfl, same .bottomLeft rfl]
  induction entries with
  | nil => rfl
  | cons entry rest inductionHypothesis =>
    obtain ⟨key, value⟩ := entry
    cases key with
    | name text => rfl
    | op op => cases op <;> simp only [operators, inductionHypothesis, one]

/-- Replacing the operand of another operator does not change a partner. -/
theorem partner?_replaced (before after : List (Key × Value)) (op wanted : Operator)
    (different : op ≠ wanted) (value other : Value) :
    partner? (before ++ (.op op, value) :: after) wanted =
      partner? (before ++ (.op op, other) :: after) wanted := by
  simp only [partner?, List.find?_append, List.find?_cons, Key.op.injEq, different, decide_false]

/-- No operator that takes a list is a bound. -/
theorem edge?_eq_none_of_takesList {op : Operator} (takesList : op.takesList = true)
    (value : Value) : edge? (.op op, value) = none := by
  cases value with
  | scalar literal => cases op <;> first | rfl | exact absurd takesList (by decide)
  | _ => rfl

/-- A condition holds of the same documents in whatever order its lists are. -/
theorem condition_reordered {value other : Value} (reordered : value.Reordered other) :
    condition capabilities held value = condition capabilities held other := by
  induction reordered with
  | list permuted =>
    rw [condition, condition]
    exact permuted.any_eq
  | @operand value other op takesList before after reordered inductionHypothesis =>
    have partners (wanted : Operator) (onPlaces : wanted.isGeo = true) :=
      partner?_replaced before after op wanted (Resolve.ne_of_takesList takesList onPlaces)
        value other
    have one (partner : Operator → Option Value) :
        operators capabilities held partner [(.op op, value)] =
          operators capabilities held partner [(.op op, other)] := by
      cases op with
      | equal | negation => simp only [operators, inductionHypothesis]
      | oneOf =>
        cases reordered with
        | list permuted => simp only [operators, operator, permuted.any_eq]
        | operand => rfl
      | allOf =>
        cases reordered with
        | list permuted => simp only [operators, operator, permuted.all_eq]
        | operand => rfl
      | _ => cases takesList
    have split (given : Value) : before ++ (.op op, given) :: after =
      before ++ ([(.op op, given)] ++ after) := rfl
    rw [condition, condition, operators_congr capabilities held _ _ partners, split, split,
      operators_append, operators_append, operators_append, operators_append, one]
    simp only [List.filterMap_append, List.filterMap_cons, edge?_eq_none_of_takesList takesList]

end Meaning

end SearchFilter
