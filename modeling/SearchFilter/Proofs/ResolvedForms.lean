import SearchFilter.Proofs.Contributions
import SearchFilter.Proofs.PlaceTests

/-!
# The forms of what is resolved

When a step of the resolver is done, its operand has the form that the step asks for and its queries
are made from it in one of few ways. These forms are listed here, one relation for each kind of
step. Whatever holds of the queries of all conditions is then shown form by form, and under any
limit once it is kept by one level of operands (`operand_of_levels`).
-/

namespace SearchFilter

open Check (bind_eq_ok_iff map_eq_ok_iff mapM_eq_ok_iff)

/-! ### The shapes of operands -/

namespace Resolve

/-- The entry of an operator map as it stands in the value. -/
def keyed (entry : Operator × Value) : Key × Value := (.op entry.1, entry.2)

/-- An operator map is a map all of whose keys are operators. -/
theorem entries_eq_ok (given : List (Key × Value)) (entries : List (Operator × Value))
    (read : given.mapM Operand.entry = .ok entries) : given = entries.map keyed := by
  refine Check.eq_map_of_mapM_eq_ok Operand.entry keyed (fun pair entry accepted => ?_) given
    entries read
  obtain ⟨key, value⟩ := pair
  cases key with
  | op op => exact (Except.ok.inj accepted) ▸ rfl
  | name text => cases accepted

end Resolve

/-- The value that has the shape of an operand. -/
def Operand.toValue : Operand → Value
  | .null => .null
  | .scalar value => .scalar value
  | .list items => .list (items.map fun item => item.elim .null .scalar)
  | .interval value => .interval value
  | .pattern value => .pattern value
  | .ops entries => .map (entries.map Resolve.keyed)

/-- A value of the shape of an operand is the value of that operand. -/
theorem Operand.toValue_of_ofValue (field : String) (value : Value) (operand : Operand)
    (shaped : ofValue field value = .ok operand) : operand.toValue = value := by
  cases value with
  | map given =>
    obtain ⟨entries, read, rfl⟩ := (map_eq_ok_iff _ _ _).mp shaped
    rw [Resolve.entries_eq_ok given entries read, toValue]
  | list items =>
    obtain ⟨members, read, rfl⟩ := (map_eq_ok_iff _ _ _).mp shaped
    rw [toValue, ← Check.eq_map_of_mapM_eq_ok (member field) _ ?_ items members read]
    intro item result accepted
    cases item with
    | null | scalar _ => exact Except.ok.inj accepted ▸ rfl
    | _ => cases accepted
  | _ => exact Except.ok.inj shaped ▸ rfl

/-- Every operand is the shape of its value. -/
theorem Operand.ofValue_toValue (field : String) (operand : Operand) :
    ofValue field operand.toValue = .ok operand := by
  cases operand with
  | ops entries =>
    have read := Check.mapM_map_eq_ok entry Resolve.keyed (fun _ => rfl) entries
    rw [toValue, ofValue, read]
    rfl
  | list items =>
    have read := Check.mapM_map_eq_ok (member field) (fun item => item.elim .null .scalar)
      (fun item => by cases item <;> rfl) items
    rw [toValue, ofValue, read]
    rfl
  | _ => rfl

/-- A value either has no shape or is the value of its shape. -/
theorem Operand.refused_or_shaped (field : String) (value : Value) :
    (∃ error, ofValue field value = .error error) ∨ ∃ shape : Operand, value = shape.toValue := by
  cases shaped : ofValue field value with
  | error error => exact .inl ⟨error, rfl⟩
  | ok shape => exact .inr ⟨shape, (toValue_of_ofValue field value shape shaped).symm⟩

namespace Resolve

/-! ### Literals and sequences -/

/-- A literal that may be looked up is left as it is. -/
theorem matchable_eq_ok (field : String) (literal accepted : Scalar)
    (passed : matchable field literal = .ok accepted) : accepted = literal := by
  unfold matchable at passed
  split at passed
  · cases passed
  · exact (Except.ok.inj passed).symm

/-- The literals of a sequence are its members but for the nulls. -/
theorem literals_eq_ok (field : String) (items : List (Option Scalar)) (values : List Scalar)
    (passed : literals field items = .ok values) : values = items.filterMap id := by
  have pointwise := (mapM_eq_ok_iff _ _ _).mp passed
  have same : List.Forall₂ Eq (items.filterMap id) values :=
    pointwise.imp fun literal value accepted => (matchable_eq_ok _ _ _ accepted).symm
  exact (List.forall₂_eq_eq_eq ▸ same : items.filterMap id = values).symm

/-- The test for a literal is on that literal. -/
theorem term_eq_ok (field : String) (literal : Scalar) (test : Test)
    (passed : term field literal = .ok test) : test = .term literal := by
  obtain ⟨value, accepted, rfl⟩ := (map_eq_ok_iff _ _ _).mp passed
  rw [matchable_eq_ok _ _ _ accepted]

/-- The test for an interval is on that interval. -/
theorem inside_eq_ok (field : String) (interval : Interval) (test : Test)
    (passed : inside field interval = .ok test) : test = .range interval := by
  obtain ⟨_, -, remaining⟩ := (bind_eq_ok_iff _ _ _).mp passed
  obtain ⟨_, -, built⟩ := (bind_eq_ok_iff _ _ _).mp remaining
  exact ((Check.pure_eq_ok_iff _ _).mp built).symm

/-- The query for equality with some member of a sequence or, if it is negated, with none of them. A
null among the members asks for the absence of the field or, if it is negated, for its presence. -/
inductive MembershipForm (field : String) (negated : Bool) : List (Option Scalar) → Query → Prop
  | members {items : List (Option Scalar)} (noNull : hasNull items = false) :
      MembershipForm field negated items (.leaf ⟨field, negated, .termSet .any (items.filterMap id)⟩)
  | missing : MembershipForm field negated [none] (.leaf ⟨field, !negated, .present⟩)
  | either {items : List (Option Scalar)} (null : hasNull items = true) :
      MembershipForm field negated items (.group (if negated then .and else .or)
        [.leaf ⟨field, !negated, .present⟩,
          .leaf ⟨field, negated, .termSet .any (items.filterMap id)⟩])

/-- A list of one item with a null in it is a list of one null. -/
theorem eq_none_of_hasNull_of_length (items : List (Option Scalar)) (null : hasNull items = true)
    (single : items.length = 1) : items = [none] := by
  obtain ⟨item, rfl⟩ := List.length_eq_one_iff.mp single
  cases item with
  | none => rfl
  | some literal => simp [hasNull] at null

/-- Membership in a sequence has one of the listed forms, and the literals in it have all passed
their check. -/
theorem equalsAny_form {field : String} {items : List (Option Scalar)} {query : Query}
    (passed : equalsAny field items = .ok query) :
    literals field items = .ok (items.filterMap id) ∧ MembershipForm field false items query := by
  obtain ⟨values, read, built⟩ := (bind_eq_ok_iff _ _ _).mp passed
  obtain rfl := literals_eq_ok _ _ _ read
  obtain rfl := (Check.pure_eq_ok_iff _ _).mp built
  refine ⟨read, ?_⟩
  cases null : hasNull items with
  | false => exact .members null
  | true =>
    by_cases single : items.length = 1
    · obtain rfl := eq_none_of_hasNull_of_length items null single
      exact .missing
    · rw [if_neg (by simp), if_neg single]
      exact .either null

/-- Membership in no item of a sequence has one of the listed forms, negated. -/
theorem equalsNone_form {field : String} {items : List (Option Scalar)} {query : Query}
    (passed : equalsNone field items = .ok query) :
    literals field items = .ok (items.filterMap id) ∧ MembershipForm field true items query := by
  obtain ⟨values, read, built⟩ := (bind_eq_ok_iff _ _ _).mp passed
  obtain rfl := literals_eq_ok _ _ _ read
  obtain rfl := (Check.pure_eq_ok_iff _ _).mp built
  refine ⟨read, ?_⟩
  cases null : hasNull items with
  | false => exact .members null
  | true =>
    by_cases single : items.length = 1
    · obtain rfl := eq_none_of_hasNull_of_length items null single
      exact .missing
    · rw [if_neg (by simp), if_neg single]
      exact .either null

/-- The test for all members needs a sequence without a null and is on its literals. -/
theorem containsAll_eq_ok {field : String} {items : List (Option Scalar)} {test : Test}
    (passed : containsAll field items = .ok test) :
    literals field items = .ok (items.filterMap id) ∧ hasNull items = false ∧
      test = .termSet .all (items.filterMap id) := by
  obtain ⟨values, read, remaining⟩ := (bind_eq_ok_iff _ _ _).mp passed
  obtain rfl := literals_eq_ok _ _ _ read
  cases null : hasNull items with
  | true => simp [null, bind, Except.bind, throw, throwThe, MonadExceptOf.throw] at remaining
  | false =>
    have built : Test.termSet .all (items.filterMap id) = test := by simpa [null] using remaining
    exact ⟨read, rfl, built.symm⟩

/-! ### Operands that are no operator map -/

/-- A pattern literal becomes a test for what is between its anchors. -/
theorem patternLiteral_eq_done (capabilities : Capabilities) (field : String) (literal : Pattern)
    (test : Test) (warnings : List Warning)
    (done : patternLiteral capabilities field literal = .done test warnings) :
    test = .regexp (stripAnchors literal.source).1
      (literal.ignoreCase && capabilities.has .caseInsensitiveMatch) true := by
  unfold patternLiteral at done
  cases stripped : stripAnchors literal.source with
  | mk source anchored =>
    rw [stripped] at done
    obtain ⟨same, -⟩ := Diagnosed.done.inj done
    rw [← same]
    cases literal.ignoreCase <;> simp

/-- The queries of an operand that is no operator map. -/
inductive PlainForm (setting : Setting) (field : String) :
    Operand → List Query → List Warning → Prop
  | null : PlainForm setting field .null [Query.testNot field .present] []
  | scalar {literal : Scalar} (built : term field literal = .ok (.term literal)) :
      PlainForm setting field (.scalar literal) [Query.test field (.term literal)] []
  | list {items : List (Option Scalar)} {query : Query}
      (read : literals field items = .ok (items.filterMap id))
      (membership : MembershipForm field false items query) :
      PlainForm setting field (.list items) [query] []
  | interval {range : Interval} (built : inside field range = .ok (.range range)) :
      PlainForm setting field (.interval range) [Query.test field (.range range)] []
  | pattern {literal : Pattern} {test : Test} {warnings : List Warning}
      (built : patternLiteral setting.capabilities field literal = .done test warnings) :
      PlainForm setting field (.pattern literal) [Query.test field test] warnings

/-- An operand that is no operator map resolves to one of the listed forms. -/
theorem plainOperand_form {setting : Setting} {field : String} {shape : Operand}
    (noMap : ∀ entries, shape ≠ .ops entries) {queries : List Query} {warnings : List Warning}
    (done : plainOperand setting field shape = .done queries warnings) :
    PlainForm setting field shape queries warnings := by
  cases shape with
  | ops entries => exact absurd rfl (noMap entries)
  | null =>
    obtain ⟨rfl, rfl⟩ := Diagnosed.done.inj done
    exact .null
  | scalar literal =>
    obtain ⟨test, built, rfl, rfl⟩ := (Diagnosed.lift_bind_pure_eq_done_iff _ _ _ _).mp done
    obtain rfl := term_eq_ok _ _ _ built
    exact .scalar built
  | list items =>
    obtain ⟨query, built, rfl, rfl⟩ := (Diagnosed.lift_bind_pure_eq_done_iff _ _ _ _).mp done
    exact .list (equalsAny_form built).1 (equalsAny_form built).2
  | interval range =>
    obtain ⟨test, built, rfl, rfl⟩ := (Diagnosed.lift_bind_pure_eq_done_iff _ _ _ _).mp done
    obtain rfl := inside_eq_ok _ _ _ built
    exact .interval built
  | pattern literal =>
    obtain ⟨test, earlier, _, built, last, rfl⟩ := (Diagnosed.bind_eq_done_iff _ _ _ _).mp done
    obtain ⟨rfl, rfl⟩ := (Diagnosed.pure_eq_done_iff _ _ _).mp last
    rw [List.append_nil]
    exact .pattern built

/-! ### Operators without operands inside -/

/-- An operand that has to be a text is the literal of that text. -/
theorem textOperand_eq_ok (field : String) (op : Operator) (value : Value) (text : String)
    (passed : textOperand field op value = .ok text) : value = .scalar (.str text) := by
  unfold textOperand at passed
  split at passed
  · rename_i given read
    obtain rfl := Except.ok.inj passed
    cases value with
    | scalar literal =>
      cases literal with
      | str given => exact congrArg (Value.scalar ∘ Scalar.str) (Option.some.inj read)
      | _ => cases read
    | _ => cases read
  · cases passed

/-- An operand that has to be a sequence is a list of members. -/
theorem sequenceOperand_eq_ok (field : String) (op : Operator) (value : Value)
    (items : List (Option Scalar)) (passed : sequenceOperand field op value = .ok items) :
    value = (Operand.list items).toValue := by
  obtain ⟨shape, shaped, remaining⟩ := (bind_eq_ok_iff _ _ _).mp passed
  obtain rfl := Operand.toValue_of_ofValue field value shape shaped
  cases shape with
  | list members => rw [(Check.pure_eq_ok_iff _ _).mp remaining]
  | _ => cases remaining

/-- The test for a pattern with wildcards is on the pattern in the engine's spelling. -/
theorem like_eq_ok (capabilities : Capabilities) (text : String) (ignoreCase : Bool) (test : Test)
    (passed : like capabilities text ignoreCase = .ok test) :
    test = .wildcard (String.ofList (Wildcard.ofLike text.toList)) ignoreCase := by
  unfold like at passed
  split at passed
  · cases passed
  · exact (Except.ok.inj passed).symm

/-- A partner that was required is among the entries. -/
theorem requirePartner_eq_ok (field : String) (entries : List (Operator × Value))
    (op partner : Operator) (value : Value)
    (passed : requirePartner field entries op partner = .ok value) :
    partner? partner entries = some value := by
  unfold requirePartner at passed
  split at passed
  · rename_i found
    rw [found, Except.ok.inj passed]
  · cases passed

/-- The queries of an operator that is no bound and whose operand is not resolved in its turn. -/
inductive OperatorForm (setting : Setting) (field : String) (entries : List (Operator × Value)) :
    Operator → Value → List Query → List Warning → Prop
  | oneOf {items : List (Option Scalar)} {query : Query}
      (read : literals field items = .ok (items.filterMap id))
      (membership : MembershipForm field false items query) :
      OperatorForm setting field entries .oneOf (Operand.list items).toValue [query] []
  | allOf {items : List (Option Scalar)}
      (read : literals field items = .ok (items.filterMap id)) (noNull : hasNull items = false) :
      OperatorForm setting field entries .allOf (Operand.list items).toValue
        [Query.test field (.termSet .all (items.filterMap id))] []
  | present (wanted : Bool) :
      OperatorForm setting field entries .present (.scalar (.bool wanted))
        [.leaf ⟨field, !wanted, .present⟩] []
  | startsWith (text : String) :
      OperatorForm setting field entries .startsWith (.scalar (.str text))
        [Query.test field (.startsWith text)] []
  | regexp (text : String) :
      OperatorForm setting field entries .regexp (.scalar (.str text))
        [Query.test field (.regexp text false false)] []
  | like (text : String) :
      OperatorForm setting field entries .like (.scalar (.str text))
        [Query.test field (.wildcard (String.ofList (Wildcard.ofLike text.toList)) false)] []
  | likeAnyCase (text : String) :
      OperatorForm setting field entries .likeAnyCase (.scalar (.str text))
        [Query.test field (.wildcard (String.ofList (Wildcard.ofLike text.toList)) true)] []
  | near {center : Value} {place : GeoPoint} {distance : String}
      (built : aroundPoint field center (partner? .within entries) =
        .ok (.geoDistance place distance)) :
      OperatorForm setting field entries .near center
        [Query.test field (.geoDistance place distance)] []
  | topLeft {corner opposite : Value} {topLeft bottomRight : GeoPoint}
      (found : partner? .bottomRight entries = some opposite)
      (built : boxFromTopLeft field corner opposite = .ok (.geoBoundingBox topLeft bottomRight)) :
      OperatorForm setting field entries .topLeft corner
        [Query.test field (.geoBoundingBox topLeft bottomRight)] []
  | topRight {corner opposite : Value} {topLeft bottomRight : GeoPoint}
      (found : partner? .bottomLeft entries = some opposite)
      (built : boxFromTopRight field corner opposite = .ok (.geoBoundingBox topLeft bottomRight)) :
      OperatorForm setting field entries .topRight corner
        [Query.test field (.geoBoundingBox topLeft bottomRight)] []
  | within (value : Value) : OperatorForm setting field entries .within value [] []
  | bottomRight (value : Value) : OperatorForm setting field entries .bottomRight value [] []
  | bottomLeft (value : Value) : OperatorForm setting field entries .bottomLeft value [] []
  | geoPolygon {value : Value} {points : List GeoPoint} {warnings : List Warning}
      (built : inPolygon setting.capabilities field value = .done (.geoPolygon points) warnings) :
      OperatorForm setting field entries .geoPolygon value
        [Query.test field (.geoPolygon points)] warnings
  | geoShape {value : Value} {shape : GeoShape} {relation : ShapeRelation}
      (built : toShape field setting.limit value = .ok (.geoShape shape relation)) :
      OperatorForm setting field entries .geoShape value
        [Query.test field (.geoShape shape relation)] []

/-- Bounds, equality and negation are resolved in other ways. -/
theorem OperatorForm.simple {setting : Setting} {field : String}
    {entries : List (Operator × Value)} {op : Operator} {value : Value} {queries : List Query}
    {warnings : List Warning}
    (form : OperatorForm setting field entries op value queries warnings) :
    sideOf? op = none ∧ op ≠ .equal ∧ op ≠ .negation := by
  cases form <;> exact ⟨rfl, nofun, nofun⟩

/-- An operator whose operand is not resolved in its turn resolves to its listed form. There is one
case for each operator, which takes the steps of the resolver apart in their order. -/
theorem simpleEntry_form {setting : Setting} {field : String} {entries : List (Operator × Value)}
    {op : Operator} {value : Value} {queries : List Query} {warnings : List Warning}
    (noBound : sideOf? op = none) (noEqual : op ≠ .equal) (noNegation : op ≠ .negation)
    (done : simpleEntry setting field entries op value = .done queries warnings) :
    OperatorForm setting field entries op value queries warnings := by
  cases op with
  | equal => exact absurd rfl noEqual
  | negation => exact absurd rfl noNegation
  | greater | greaterOrEqual | less | lessOrEqual => cases noBound
  | within =>
    obtain ⟨_, -, rfl, rfl⟩ := (Diagnosed.lift_bind_pure_eq_done_iff _ _ _ _).mp done
    exact .within value
  | bottomRight =>
    obtain ⟨_, -, rfl, rfl⟩ := (Diagnosed.lift_bind_pure_eq_done_iff _ _ _ _).mp done
    exact .bottomRight value
  | bottomLeft =>
    obtain ⟨_, -, rfl, rfl⟩ := (Diagnosed.lift_bind_pure_eq_done_iff _ _ _ _).mp done
    exact .bottomLeft value
  | oneOf =>
    obtain ⟨items, query, sequence, built, rfl, rfl⟩ :=
      (Diagnosed.lift_bind_bind_pure_eq_done_iff _ _ _ _ _).mp done
    obtain rfl := sequenceOperand_eq_ok _ _ _ _ sequence
    exact .oneOf (equalsAny_form built).1 (equalsAny_form built).2
  | allOf =>
    obtain ⟨passed, rfl⟩ := (Diagnosed.lift_eq_done_iff _ _ _).mp done
    obtain ⟨_, -, sequenced⟩ := (bind_eq_ok_iff _ _ _).mp passed
    obtain ⟨items, sequence, remaining⟩ := (bind_eq_ok_iff _ _ _).mp sequenced
    obtain ⟨test, built, last⟩ := (bind_eq_ok_iff _ _ _).mp remaining
    obtain rfl := (Check.pure_eq_ok_iff _ _).mp last
    obtain rfl := sequenceOperand_eq_ok _ _ _ _ sequence
    obtain ⟨read, noNull, rfl⟩ := containsAll_eq_ok built
    exact .allOf read noNull
  | present =>
    cases value with
    | scalar literal =>
      cases literal with
      | bool wanted =>
        obtain ⟨rfl, rfl⟩ := Diagnosed.done.inj done
        cases wanted
        · exact .present false
        · exact .present true
      | _ => cases done
    | _ => cases done
  | startsWith =>
    obtain ⟨text, read, rfl, rfl⟩ := (Diagnosed.lift_bind_pure_eq_done_iff _ _ _ _).mp done
    obtain rfl := textOperand_eq_ok _ _ _ _ read
    exact .startsWith text
  | regexp =>
    obtain ⟨text, read, rfl, rfl⟩ := (Diagnosed.lift_bind_pure_eq_done_iff _ _ _ _).mp done
    obtain rfl := textOperand_eq_ok _ _ _ _ read
    exact .regexp text
  | like =>
    obtain ⟨text, test, read, built, rfl, rfl⟩ :=
      (Diagnosed.lift_bind_bind_pure_eq_done_iff _ _ _ _ _).mp done
    obtain rfl := textOperand_eq_ok _ _ _ _ read
    obtain rfl := like_eq_ok _ _ _ _ built
    exact .like text
  | likeAnyCase =>
    obtain ⟨text, test, read, built, rfl, rfl⟩ :=
      (Diagnosed.lift_bind_bind_pure_eq_done_iff _ _ _ _ _).mp done
    obtain rfl := textOperand_eq_ok _ _ _ _ read
    obtain rfl := like_eq_ok _ _ _ _ built
    exact .likeAnyCase text
  | near =>
    obtain ⟨test, built, rfl, rfl⟩ := (Diagnosed.lift_bind_pure_eq_done_iff _ _ _ _).mp done
    obtain ⟨place, -, -, rfl⟩ := (aroundPoint_eq_ok_iff _ _ _ _).mp built
    exact .near built
  | topLeft =>
    obtain ⟨opposite, test, found, built, rfl, rfl⟩ :=
      (Diagnosed.lift_bind_bind_pure_eq_done_iff _ _ _ _ _).mp done
    obtain ⟨_, _, rfl⟩ := box_of_boxFromTopLeft built
    exact .topLeft (requirePartner_eq_ok _ _ _ _ _ found) built
  | topRight =>
    obtain ⟨opposite, test, found, built, rfl, rfl⟩ :=
      (Diagnosed.lift_bind_bind_pure_eq_done_iff _ _ _ _ _).mp done
    obtain ⟨_, _, rfl⟩ := box_of_boxFromTopRight built
    exact .topRight (requirePartner_eq_ok _ _ _ _ _ found) built
  | geoPolygon =>
    obtain ⟨test, earlier, _, built, last, rfl⟩ := (Diagnosed.bind_eq_done_iff _ _ _ _).mp done
    obtain ⟨rfl, rfl⟩ := (Diagnosed.pure_eq_done_iff _ _ _).mp last
    obtain ⟨_, points, -, -, -, rfl, -⟩ := (inPolygon_eq_done_iff _ _ _ _ _).mp built
    rw [List.append_nil]
    exact .geoPolygon built
  | geoShape =>
    obtain ⟨test, built, rfl, rfl⟩ := (Diagnosed.lift_bind_pure_eq_done_iff _ _ _ _).mp done
    obtain ⟨shape, relation, rfl⟩ := shape_of_toShape built
    exact .geoShape built

/-! ### Entries of operator maps -/

/-- The query of a negation. -/
inductive NegationForm (enter : Operand → Diagnosed (List Query)) (field : String) :
    Operand → Query → List Warning → Prop
  | null : NegationForm enter field .null (Query.test field .present) []
  | scalar {literal : Scalar} (built : term field literal = .ok (.term literal)) :
      NegationForm enter field (.scalar literal) (Query.testNot field (.term literal)) []
  | list {items : List (Option Scalar)} {query : Query}
      (read : literals field items = .ok (items.filterMap id))
      (membership : MembershipForm field true items query) :
      NegationForm enter field (.list items) query []
  | entered {shape : Operand} {queries : List Query} {warnings : List Warning}
      (resolved : enter shape = .done queries warnings) :
      NegationForm enter field shape (Query.allOf queries).negate warnings

section Entries

variable {setting : Setting} {enter : Operand → Diagnosed (List Query)} {field : String}
  {entries : List (Operator × Value)} {value : Value} {warnings : List Warning}

/-- An equality has the queries of its operand, which is no operator map. -/
theorem equality_form {queries : List Query}
    (done : equality enter field value = .done queries warnings) :
    ∃ shape : Operand, value = shape.toValue ∧ (∀ entries, shape ≠ .ops entries) ∧
      enter shape = .done queries warnings := by
  obtain ⟨shape, _, later, lifted, entered, rfl⟩ := (Diagnosed.bind_eq_done_iff _ _ _ _).mp done
  obtain ⟨shaped, rfl⟩ := (Diagnosed.lift_eq_done_iff _ _ _).mp lifted
  refine ⟨shape, (Operand.toValue_of_ofValue field value shape shaped).symm, ?_⟩
  cases shape with
  | ops entries => cases entered
  | _ => exact ⟨nofun, entered⟩

/-- A negation resolves to one of the listed forms, chosen by the shape of its operand. -/
theorem negation_form {query : Query} (done : negation enter field value = .done query warnings) :
    ∃ shape : Operand, value = shape.toValue ∧
      NegationForm enter field shape query warnings := by
  obtain ⟨shape, _, later, lifted, negated, rfl⟩ := (Diagnosed.bind_eq_done_iff _ _ _ _).mp done
  obtain ⟨shaped, rfl⟩ := (Diagnosed.lift_eq_done_iff _ _ _).mp lifted
  refine ⟨shape, (Operand.toValue_of_ofValue field value shape shaped).symm, ?_⟩
  cases shape with
  | null =>
    obtain ⟨rfl, rfl⟩ := Diagnosed.done.inj negated
    exact .null
  | scalar literal =>
    obtain ⟨test, built, rfl, rfl⟩ := (Diagnosed.lift_bind_pure_eq_done_iff _ _ _ _).mp negated
    obtain rfl := term_eq_ok _ _ _ built
    exact .scalar built
  | list items =>
    obtain ⟨built, rfl⟩ := (Diagnosed.lift_eq_done_iff _ _ _).mp negated
    exact .list (equalsNone_form built).1 (equalsNone_form built).2
  | interval _ | pattern _ | ops _ =>
    obtain ⟨queries, raised, _, resolved, last, rfl⟩ :=
      (Diagnosed.bind_eq_done_iff _ _ _ _).mp negated
    obtain ⟨rfl, rfl⟩ := (Diagnosed.pure_eq_done_iff _ _ _).mp last
    rw [List.append_nil]
    exact .entered resolved

/-- The operand of a bound is a literal. -/
theorem boundOperand_eq_ok (field : String) (op : Operator) (value : Value) (literal : Scalar)
    (passed : boundOperand field op value = .ok literal) : value = .scalar literal := by
  unfold boundOperand at passed
  split at passed
  · split at passed
    · rw [Except.ok.inj passed]
    · cases passed
  · cases passed

/-- An operator that is no bound, equality or negation contributes its own queries. -/
theorem contributed_simple (setting : Setting) (enter : Operand → Diagnosed (List Query))
    (field : String) (entries : List (Operator × Value)) (op : Operator) (value : Value)
    (noBound : sideOf? op = none) (noEqual : op ≠ .equal) (noNegation : op ≠ .negation) :
    contributed setting enter field entries op value =
      Contribution.queries <$> simpleEntry setting field entries op value := by
  rw [map_eq_pure_bind]
  unfold contributed
  rw [noBound]
  dsimp only
  split
  · exact absurd rfl noEqual
  · exact absurd rfl noNegation
  · rfl

variable (setting enter field entries) in
/-- What an entry of an operator map contributes once its check has passed. -/
inductive ContributionForm : Operator → Value → Contribution → List Warning → Prop
  | bound {op : Operator} {side : Side} {close : Scalar → Bound} {literal : Scalar}
      (bounding : sideOf? op = some (side, close))
      (read : boundOperand field op (.scalar literal) = .ok literal) :
      ContributionForm op (.scalar literal) (.bound side (close literal)) []
  | equality {shape : Operand} {queries : List Query} {warnings : List Warning}
      (noMap : ∀ entries, shape ≠ .ops entries) (resolved : enter shape = .done queries warnings) :
      ContributionForm .equal shape.toValue (.queries queries) warnings
  | negation {shape : Operand} {query : Query} {warnings : List Warning}
      (form : NegationForm enter field shape query warnings) :
      ContributionForm .negation shape.toValue (.queries [query]) warnings
  | simple {op : Operator} {value : Value} {queries : List Query} {warnings : List Warning}
      (form : OperatorForm setting field entries op value queries warnings) :
      ContributionForm op value (.queries queries) warnings

/-- What an entry contributes is a bound, an equality, a negation or one of the forms of the other
operators. -/
theorem contributed_form {op : Operator} {contribution : Contribution}
    (done : contributed setting enter field entries op value = .done contribution warnings) :
    ContributionForm setting enter field entries op value contribution warnings := by
  -- The bounds first, then the two operators that resolve an operand inside, then all others.
  cases bounding : sideOf? op with
  | some pair =>
    obtain ⟨side, close⟩ := pair
    unfold contributed at done
    rw [bounding] at done
    obtain ⟨literal, _, _, lifted, last, rfl⟩ := (Diagnosed.bind_eq_done_iff _ _ _ _).mp done
    obtain ⟨read, rfl⟩ := (Diagnosed.lift_eq_done_iff _ _ _).mp lifted
    obtain ⟨rfl, rfl⟩ := (Diagnosed.pure_eq_done_iff _ _ _).mp last
    obtain rfl := boundOperand_eq_ok field op value literal read
    exact .bound bounding read
  | none =>
    by_cases isEqual : op = .equal
    · subst isEqual
      obtain ⟨queries, earlier, _, resolved, last, rfl⟩ :=
        (Diagnosed.bind_eq_done_iff _ _ _ _).mp done
      obtain ⟨rfl, rfl⟩ := (Diagnosed.pure_eq_done_iff _ _ _).mp last
      obtain ⟨shape, rfl, noMap, entered⟩ := equality_form resolved
      rw [List.append_nil]
      exact .equality noMap entered
    by_cases isNegation : op = .negation
    · subst isNegation
      obtain ⟨query, earlier, _, resolved, last, rfl⟩ :=
        (Diagnosed.bind_eq_done_iff _ _ _ _).mp done
      obtain ⟨rfl, rfl⟩ := (Diagnosed.pure_eq_done_iff _ _ _).mp last
      obtain ⟨shape, rfl, form⟩ := negation_form resolved
      rw [List.append_nil]
      exact .negation form
    rw [contributed_simple setting enter field entries op value bounding isEqual isNegation,
      Diagnosed.map_eq_done_iff] at done
    obtain ⟨queries, resolved, rfl⟩ := done
    exact .simple (simpleEntry_form bounding isEqual isNegation resolved)

/-- What an entry contributes once its check has passed is what it contributes. -/
theorem contribution_form {entry : Operator × Value} {contribution : Contribution}
    (done : Resolve.contribution setting enter field entries entry = .done contribution warnings) :
    placeCheck setting field entry.1 = .ok () ∧
      ContributionForm setting enter field entries entry.1 entry.2 contribution warnings := by
  obtain ⟨_, _, later, checked, remaining, rfl⟩ := (Diagnosed.bind_eq_done_iff _ _ _ _).mp done
  obtain ⟨permitted, rfl⟩ := (Diagnosed.lift_eq_done_iff _ _ _).mp checked
  exact ⟨permitted, contributed_form remaining⟩

variable (setting enter field) in
/-- The queries of an operand: those of the contributions of its entries, arranged, if it is an
operator map. -/
inductive OperandForm : Operand → List Query → List Warning → Prop
  | ops {entries : List (Operator × Value)} {contributions : List Contribution}
      {warnings : List Warning}
      (contributed : entries.mapM (contribution setting enter field entries) =
        .done contributions warnings) :
      OperandForm (.ops entries) ((contributions.foldl (Progress.add field) .start).queries field)
        warnings
  | plain {shape : Operand} {queries : List Query} {warnings : List Warning}
      (form : PlainForm setting field shape queries warnings) : OperandForm shape queries warnings

/-- An operand resolves to the form of a plain operand, or to the arranged contributions of an
operator map. -/
theorem operandWith_form {shape : Operand} {queries : List Query}
    (done : operandWith setting enter field shape = .done queries warnings) :
    OperandForm setting enter field shape queries warnings := by
  cases shape with
  | ops entries =>
    rw [operandWith, takeUpAll_eq, bind_map_left, ← map_eq_pure_bind,
      Diagnosed.map_eq_done_iff] at done
    obtain ⟨contributions, contributed, rfl⟩ := done
    exact .ops contributed
  | _ => exact .plain (plainOperand_form (by simp) done)

end Entries

/-! ### Levels -/

/-- What holds where no operand may be entered and is kept by every level of operands holds of the
operands under any limit. -/
theorem operand_of_levels (setting : Setting) (field : String)
    (kept : (levels : Nat) → (Operand → Diagnosed (List Query)) → Prop)
    (refused : kept 0 fun _ => .failed (.depthLimitExceeded setting.limit))
    (level : ∀ levels enter, kept levels enter →
      kept (levels + 1) (operandWith setting enter field))
    (levels : Nat) : kept (levels + 1) (operand setting field levels) := by
  induction levels with
  | zero => exact level 0 _ refused
  | succ levels inductionHypothesis => exact level (levels + 1) _ inductionHypothesis

end Resolve

end SearchFilter
