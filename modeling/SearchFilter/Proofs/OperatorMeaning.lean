import SearchFilter.Proofs.ResolvedForms

/-!
# Operators resolve to what they mean

The operators whose operand is taken as it stands: every one that is neither a bound nor equal to,
nor the negation of, another condition. Before them stand the sequences that some of them take, with
null for the absence of the field, and with the two ways of asking for no member.
-/

namespace SearchFilter

/-- Whether the values answer a member of a sequence; null is answered by no value. -/
def Held.includes (held : Held) : Option Scalar → Bool
  | none => held.values.isEmpty
  | some literal => held.values.any literal.equalsValue

namespace Resolve

/-! ### Members of sequences -/

/-- A sequence is answered by the absence of values if null is a member, and otherwise by a value
that equals one of its literals. -/
theorem any_includes (held : Held) (items : List (Option Scalar)) :
    items.any held.includes =
      (hasNull items && held.values.isEmpty ||
        held.values.any fun value =>
          (items.filterMap id).any fun literal => literal.equalsValue value) := by
  rw [Bool.eq_iff_iff]
  simp only [List.any_eq_true, Bool.or_eq_true, Bool.and_eq_true, hasNull, List.mem_filterMap, id,
    exists_eq_right]
  constructor
  · rintro ⟨item, member, answered⟩
    cases item with
    | none => exact .inl ⟨⟨none, member, rfl⟩, answered⟩
    | some literal =>
      obtain ⟨value, held, equal⟩ := List.any_eq_true.mp answered
      exact .inr ⟨value, held, literal, member, equal⟩
  · rintro (⟨⟨item, member, null⟩, empty⟩ | ⟨value, held, literal, member, equal⟩)
    · obtain rfl := Option.isNone_iff_eq_none.mp null
      exact ⟨none, member, empty⟩
    · exact ⟨some literal, member, List.any_eq_true.mpr ⟨value, held, equal⟩⟩

/-- A field is present if there is any value at its path. -/
theorem selects_present (field : String) (document : Json) :
    (Query.test field .present).selects document = !(Held.of document field).values.isEmpty :=
  Query.selects_test field .present document rfl

/-- One of several literals is asked of the values of the field one by one. -/
theorem selects_anyOf (field : String) (values : List Scalar) (document : Json) :
    (Query.test field (.termSet .any values)).selects document =
      (Held.of document field).values.any fun value =>
        values.any fun literal => literal.equalsValue value :=
  Query.selects_test field (.termSet .any values) document rfl

/-- A negated predicate selects what the predicate itself does not. -/
theorem selects_leaf (field : String) (negated : Bool) (test : Test) (document : Json) :
    (Query.leaf ⟨field, negated, test⟩).selects document =
      (negated ^^ (Query.test field test).selects document) := by
  cases negated with
  | false => exact (Bool.false_xor _).symm
  | true => exact (Query.selects_testNot field test document).trans (Bool.true_xor _).symm

/-- Equality with some member holds exactly when a member is answered, and equality with no member
exactly when none is. -/
theorem MembershipForm.selects {field : String} {negated : Bool} {items : List (Option Scalar)}
    {query : Query} (form : MembershipForm field negated items query) (document : Json) :
    query.selects document = (negated ^^ items.any (Held.of document field).includes) := by
  cases form with
  | members noNull => simp [selects_leaf, selects_anyOf, any_includes, noNull]
  | missing => simp [selects_leaf, selects_present, Held.includes]
  | either null =>
    cases negated <;> simp [selects_leaf, selects_present, selects_anyOf, any_includes, null]

/-- All members are answered exactly when each of the literals is and null is not among them. -/
theorem all_includes (held : Held) (items : List (Option Scalar)) (noNull : hasNull items = false) :
    (items.filterMap id).all (fun literal => held.values.any literal.equalsValue) =
      items.all held.includes := by
  rw [Bool.eq_iff_iff]
  simp only [List.all_eq_true, List.mem_filterMap, id, exists_eq_right]
  constructor
  · intro all item member
    cases item with
    | none =>
      have null : hasNull items = true := List.any_eq_true.mpr ⟨none, member, rfl⟩
      rw [noNull] at null
      cases null
    | some literal => exact all literal member
  · intro all literal member
    exact all (some literal) member

/-- The members of a sequence are answered as they stand in its value. -/
theorem member_toValue (held : Held) (item : Option Scalar) :
    Meaning.member held (item.elim .null .scalar) = held.includes item := by
  cases item <;> rfl

/-- For one member of a sequence it is enough that the field includes one. A null asks for the
absence of the field. -/
theorem any_members (held : Held) (items : List (Option Scalar)) :
    (items.map fun item => item.elim .null .scalar).any (Meaning.member held) =
      items.any held.includes := by
  rw [List.any_map]
  exact congrArg items.any (funext (member_toValue held))

/-- For all members of a sequence the field has to include each. -/
theorem all_members (held : Held) (items : List (Option Scalar)) :
    (items.map fun item => item.elim .null .scalar).all (Meaning.member held) =
      items.all held.includes := by
  rw [List.all_map]
  exact congrArg items.all (funext (member_toValue held))

/-! ### Operators without operands inside -/

/-- One query selects what it selects. -/
theorem selected_singleton (query : Query) (document : Json) :
    Query.selectedByAll [query] document = query.selects document := by simp

/-- The queries of an operator without operands inside hold exactly when the operator does. Every
operator builds a single query but those that complete another one, which build none. -/
theorem OperatorForm.selected {setting : Setting} {field : String}
    {entries : List (Operator × Value)} {op : Operator} {value : Value} {queries : List Query}
    {warnings : List Warning} (form : OperatorForm setting field entries op value queries warnings)
    (document : Json) :
    Query.selectedByAll queries document =
      Meaning.operator (.of document field) (fun partner => partner? partner entries) op value := by
  cases form with
  | within _ | bottomRight _ | bottomLeft _ => rfl
  | oneOf _ membership =>
    rw [selected_singleton, membership.selects, Bool.false_xor]
    exact (any_members _ _).symm
  | allOf _ noNull =>
    rw [selected_singleton, Query.selects_test _ _ _ rfl]
    exact (all_includes (.of document field) _ noNull).trans (all_members _ _).symm
  | present wanted =>
    cases wanted <;> simp [Meaning.operator, selects_leaf, selects_present]
  | startsWith text | regexp text | like text | likeAnyCase text =>
    rw [selected_singleton, Query.selects_test _ _ _ rfl]
    rfl
  | near built =>
    rw [selected_singleton]
    exact selects_aroundPoint field value _ _ document built
  | topLeft found built =>
    rw [selected_singleton, selects_boxFromTopLeft _ _ _ _ _ built]
    simp only [Meaning.operator, found, Option.bind_some]
  | topRight found built =>
    rw [selected_singleton, selects_boxFromTopRight _ _ _ _ _ built]
    simp only [Meaning.operator, found, Option.bind_some]
  | geoPolygon built =>
    rw [selected_singleton]
    exact selects_inPolygon _ field value _ warnings document built
  | geoShape built =>
    rw [selected_singleton]
    exact selects_toShape field _ value _ document built

end Resolve

end SearchFilter
