import SearchFilter.Proofs.Checks
import SearchFilter.Proofs.WellFormedTests

/-!
# What conditions resolve to

However a condition is spelled and nested, the predicates that it resolves to are tests on its
field, every one of them well formed, and they compare with the literals of the condition and with
no others. Negation flips predicates or puts them into a group, and the bounds of an operator map
are merged into ranges that have the ends of all of them; neither changes what is said here of a
predicate (`operand_fits`).
-/

namespace SearchFilter

/-! ### The literals of a condition -/

/-- The literal that a value is, and nothing for any other value. -/
def Value.scalar? : Value → Option Scalar
  | .scalar literal => some literal
  | _ => none

/-- The operators that compare the values of a field with literals. -/
def Operator.comparesLiterals : Operator → Bool
  | .equal | .negation | .greater | .greaterOrEqual | .less | .lessOrEqual | .oneOf | .allOf => true
  | _ => false

namespace Value

mutual

/-- The literals that a condition compares the values of its field with. -/
def literals : Value → List Scalar
  | .scalar literal => [literal]
  | .list items => items.filterMap scalar?
  | .interval range => range.ends
  | .map entries => operandLiterals entries
  | .null | .pattern _ => []

/-- The literals in the operands of an operator map. -/
def operandLiterals : List (Key × Value) → List Scalar
  | [] => []
  | (.op op, value) :: rest =>
    (if op.comparesLiterals then value.literals else []) ++ operandLiterals rest
  | (.name _, _) :: rest => operandLiterals rest

end

/-- The literals of a sequence are its items other than nulls, in order. -/
theorem literals_members (items : List (Option Scalar)) :
    (Value.list (items.map fun item => item.elim .null .scalar)).literals = items.filterMap id := by
  rw [literals, List.filterMap_map]
  congr 1
  funext item
  cases item <;> rfl

/-- The entries of an operator map have their literals one after the other. -/
theorem operandLiterals_keyed (entries : List (Operator × Value)) :
    operandLiterals (entries.map Resolve.keyed) =
      entries.flatMap fun entry => operandLiterals [Resolve.keyed entry] := by
  induction entries with
  | nil => rfl
  | cons entry rest inductionHypothesis =>
    rw [List.map_cons, List.flatMap_cons, ← inductionHypothesis]
    simp only [Resolve.keyed, operandLiterals, List.append_nil]

end Value

namespace Query

/-- One query has its own predicates. -/
@[simp] theorem leavesOfAll_singleton (query : Query) : leavesOfAll [query] = query.leaves :=
  List.append_nil _

/-- Putting queries together keeps their predicates in order. -/
theorem leaves_allOf (queries : List Query) : (allOf queries).leaves = leavesOfAll queries := by
  unfold allOf
  split
  · exact (leavesOfAll_singleton _).symm
  · rfl

end Query

namespace Resolve

/-! ### Predicates that fit a condition -/

/-- Whether predicates may come from a condition on a field with some literals. -/
structure Fits (field : String) (literals : List Scalar) (predicates : List Predicate) : Prop where
  fields : ∀ predicate ∈ predicates, predicate.field = field
  wellFormed : ∀ predicate ∈ predicates, predicate.test.WellFormed
  literals : (predicates.flatMap fun predicate => predicate.test.literals).Perm literals

namespace Fits

variable {field : String} {literals others : List Scalar} {predicates following : List Predicate}

/-- No predicates fit no literals. -/
theorem nil : Fits field [] [] := ⟨List.forall_mem_nil _, List.forall_mem_nil _, .nil⟩

/-- Predicates that fit in two parts fit together. -/
theorem append (first : Fits field literals predicates) (second : Fits field others following) :
    Fits field (literals ++ others) (predicates ++ following) where
  fields := List.forall_mem_append.mpr ⟨first.fields, second.fields⟩
  wellFormed := List.forall_mem_append.mpr ⟨first.wellFormed, second.wellFormed⟩
  literals := by
    rw [List.flatMap_append]
    exact first.literals.append second.literals

/-- Neither the order of predicates nor their signs matter. -/
theorem single (predicate : Predicate) (onField : predicate.field = field)
    (wellFormed : predicate.test.WellFormed) :
    Fits field predicate.test.literals [predicate] where
  fields := List.forall_mem_singleton.mpr onField
  wellFormed := List.forall_mem_singleton.mpr wellFormed
  literals := by rw [List.flatMap_singleton]

/-- Predicates in another order still fit. -/
theorem perm (fits : Fits field literals predicates) (permuted : predicates.Perm following) :
    Fits field literals following where
  fields predicate member := fits.fields predicate (permuted.mem_iff.mpr member)
  wellFormed predicate member := fits.wellFormed predicate (permuted.mem_iff.mpr member)
  literals := (permuted.symm.flatMap_right _).trans fits.literals

/-- A well-formed test fits its own literals. -/
theorem test (test : Test) (wellFormed : test.WellFormed) :
    Fits field test.literals (Query.leavesOfAll [Query.test field test]) :=
  single (.of field test) rfl wellFormed

/-- Negating a test changes nothing of this. -/
theorem testNot (test : Test) (wellFormed : test.WellFormed) :
    Fits field test.literals (Query.leavesOfAll [Query.testNot field test]) :=
  single (Predicate.of field test).flip rfl wellFormed

/-- The negation of a query has its predicates, but for the sign of a predicate that is negated by
itself. -/
theorem negate (query : Query) (fits : Fits field literals query.leaves) :
    Fits field literals query.negate.leaves := by
  cases query with
  | matchAll => exact fits
  | group connective members => exact fits.perm (by simp [Query.negate, Query.leaves])
  | leaf predicate =>
    by_cases negated : predicate.negated = true
    · simpa [Query.negate, negated, Query.leaves] using fits
    · have flipped : (Query.leaf predicate).negate = .leaf predicate.flip := by
        simp [Query.negate, negated]
      rw [flipped]
      have self : predicate ∈ (Query.leaf predicate).leaves := List.mem_singleton_self _
      exact ⟨List.forall_mem_singleton.mpr (fits.fields predicate self),
        List.forall_mem_singleton.mpr (fits.wellFormed predicate self), fits.literals⟩

end Fits

/-! ### Bounds -/

/-- A merged range has the ends of both ranges, in some order. -/
theorem fill?_eq_some {side : Side} {bound : Bound} {range merged : Interval}
    (filled : fill? side bound range = some merged) :
    merged.ends.Perm (range.ends ++ (oneSided side bound).ends) := by
  obtain ⟨lower, upper⟩ := range
  cases side with
  | lower =>
    cases lower with
    | unbounded =>
      obtain rfl := Option.some.inj filled
      simpa [Interval.ends, oneSided, Bound.scalar?] using List.perm_append_comm
    | _ => cases filled
  | upper =>
    cases upper with
    | unbounded =>
      obtain rfl := Option.some.inj filled
      simp [Interval.ends, oneSided, Bound.scalar?]
    | _ => cases filled

/-- The predicates that a contribution has by itself. That of a bound is a range with one end. -/
def Contribution.leaves (field : String) : Contribution → List Predicate
  | .bound side limit => [.of field (.range (oneSided side limit))]
  | .queries added => Query.leavesOfAll added

section Arranging

variable {field : String} {literals : List Scalar}

/-- Two ranges that are merged fit as one. -/
theorem Fits.merged {side : Side} {bound : Bound} {range merged : Interval} {rest : List Predicate}
    (filled : fill? side bound range = some merged)
    (fits : Fits field literals
      (.of field (.range range) :: .of field (.range (oneSided side bound)) :: rest)) :
    Fits field literals (.of field (.range merged) :: rest) := by
  have ends := fill?_eq_some filled
  obtain ⟨_, otherFields⟩ := List.forall_mem_cons.mp fits.fields
  obtain ⟨first, others⟩ := List.forall_mem_cons.mp fits.wellFormed
  obtain ⟨second, others⟩ := List.forall_mem_cons.mp others
  refine ⟨?_, ?_, ?_⟩
  · exact List.forall_mem_cons.mpr ⟨rfl, (List.forall_mem_cons.mp otherFields).2⟩
  · refine List.forall_mem_cons.mpr ⟨fun value member => ?_, others⟩
    obtain inFirst | inSecond := List.mem_append.mp (ends.mem_iff.mp member)
    · exact first value inFirst
    · exact second value inSecond
  · refine .trans ?_ fits.literals
    simp only [List.flatMap_cons, ← List.append_assoc]
    exact ends.append_right _

/-- A contribution that is placed among queries fits as if it came after them. -/
theorem Fits.add (progress : Progress) (contribution : Contribution) (rest : List Predicate)
    (fits : Fits field literals
      (Query.leavesOfAll (progress.queries field) ++ (contribution.leaves field ++ rest))) :
    Fits field literals
      (Query.leavesOfAll ((progress.add field contribution).queries field) ++ rest) := by
  obtain ⟨settled, openRange, later⟩ := progress
  cases contribution with
  | queries added =>
    cases openRange with
    | none =>
      simpa [Progress.add, Progress.append, Progress.queries, Contribution.leaves] using fits
    | some range =>
      simpa [Progress.add, Progress.append, Progress.queries, Contribution.leaves,
        Query.leavesOfAll] using fits
  | bound side bound =>
    cases filling : openRange.bind (fill? side bound) with
    | none =>
      simpa [Progress.add, Progress.bound, filling, Progress.queries, Contribution.leaves,
        Query.leavesOfAll, Query.test, Query.leaves] using fits
    | some merged =>
      obtain ⟨range, rfl, filled⟩ := Option.bind_eq_some_iff.mp filling
      have parted (interval : Interval) (following : List Predicate) :
          (Query.leavesOfAll (Progress.queries field ⟨settled, some interval, later⟩) ++
            following).Perm (.of field (.range interval) ::
              (Query.leavesOfAll settled ++ Query.leavesOfAll later ++ following)) := by
        simp [Progress.queries, Query.leavesOfAll, Query.test, Query.leaves]
      have placed : Progress.add field ⟨settled, some range, later⟩ (.bound side bound) =
          ⟨settled, some merged, later⟩ := by
        simp [Progress.add, Progress.bound, filling]
      rw [placed]
      refine Fits.perm (Fits.merged filled ?_) (parted merged rest).symm
      exact fits.perm ((parted range _).trans (.cons _ List.perm_middle))

/-- Arranged contributions fit as they do one after the other. The induction is on the
contributions. -/
theorem Fits.arranged (contributions : List Contribution) (progress : Progress)
    (fits : Fits field literals (Query.leavesOfAll (progress.queries field) ++
      contributions.flatMap (Contribution.leaves field))) :
    Fits field literals
      (Query.leavesOfAll ((contributions.foldl (Progress.add field) progress).queries field)) := by
  induction contributions generalizing progress with
  | nil => simpa using fits
  | cons contribution rest inductionHypothesis =>
    rw [List.foldl_cons]
    exact inductionHypothesis _ (fits.add progress contribution _)

end Arranging

/-! ### Conditions without operands inside -/

section Plain

variable {setting : Setting} {field : String}

/-- A test on places fits without any literal. -/
theorem Fits.literalFree (test : Test) (free : test.LiteralFree) :
    Fits field [] (Query.leavesOfAll [Query.test field test]) :=
  free.noLiteral ▸ Fits.test test free.wellFormed

/-- A sequence without literals to look up is a test for presence. -/
theorem MembershipForm.fits {negated : Bool} {items : List (Option Scalar)} {query : Query}
    (form : MembershipForm field negated items query)
    (read : literals field items = .ok (items.filterMap id)) :
    Fits field (items.filterMap id) query.leaves := by
  have wellFormed := literals_wellFormed field items _ read
  cases form with
  | members _ =>
    exact Fits.single ⟨field, negated, .termSet .any (items.filterMap id)⟩ rfl wellFormed
  | missing => exact Fits.single ⟨field, !negated, .present⟩ rfl trivial
  | either _ =>
    exact Fits.append (Fits.single ⟨field, !negated, .present⟩ rfl trivial)
      (Fits.single ⟨field, negated, .termSet .any (items.filterMap id)⟩ rfl wellFormed)

/-- The predicates of an operand that is no operator map fit its literals. -/
theorem PlainForm.fits {shape : Operand} {queries : List Query} {warnings : List Warning}
    (form : PlainForm setting field shape queries warnings) :
    Fits field shape.toValue.literals (Query.leavesOfAll queries) := by
  cases form with
  | null => exact Fits.testNot .present trivial
  | scalar built => exact Fits.test (.term _) (term_wellFormed field _ _ built)
  | list read membership =>
    rw [Operand.toValue, Value.literals_members, Query.leavesOfAll_singleton]
    exact membership.fits read
  | interval built => exact Fits.test (.range _) (inside_wellFormed field _ _ built)
  | pattern built =>
    obtain rfl := patternLiteral_eq_done _ _ _ _ _ built
    exact Fits.test (.regexp _ _ true) (by simp [Test.WellFormed])

/-- The predicates of an operator fit the literals in its operand, if it is one that compares with
literals. -/
theorem OperatorForm.fits {entries : List (Operator × Value)} {op : Operator} {value : Value}
    {queries : List Query} {warnings : List Warning}
    (form : OperatorForm setting field entries op value queries warnings) :
    Fits field (Value.operandLiterals [keyed (op, value)]) (Query.leavesOfAll queries) := by
  have listed : Value.operandLiterals [keyed (op, value)] =
      if op.comparesLiterals then value.literals else [] := by
    simp [keyed, Value.operandLiterals]
  rw [listed]
  cases form with
  | within _ | bottomRight _ | bottomLeft _ => exact Fits.nil
  | oneOf read membership =>
    change Fits field (Operand.list _).toValue.literals _
    rw [Operand.toValue, Value.literals_members, Query.leavesOfAll_singleton]
    exact membership.fits read
  | allOf read _ =>
    change Fits field (Operand.list _).toValue.literals _
    rw [Operand.toValue, Value.literals_members]
    exact Fits.test (.termSet .all _) (literals_wellFormed field _ _ read)
  | present wanted => exact Fits.single ⟨field, !wanted, .present⟩ rfl trivial
  | startsWith text => exact Fits.test (.startsWith text) trivial
  | regexp text => exact Fits.test (.regexp text false false) fun _ => rfl
  | like _ | likeAnyCase _ => exact Fits.test (.wildcard _ _) trivial
  | near built => exact Fits.literalFree _ (aroundPoint_literalFree field value _ _ built)
  | topLeft _ built => exact Fits.literalFree _ (boxFromTopLeft_literalFree field value _ _ built)
  | topRight _ built => exact Fits.literalFree _ (boxFromTopRight_literalFree field value _ _ built)
  | geoPolygon built => exact Fits.literalFree _ (inPolygon_literalFree _ field value _ _ built)
  | geoShape built => exact Fits.literalFree _ (toShape_literalFree field _ value _ built)

end Plain

/-! ### Conditions with operands inside -/

section Entries

/-- Whether the predicates of operands fit them. -/
def Fitting (field : String) (enter : Operand → Diagnosed (List Query)) : Prop :=
  ∀ shape queries warnings, enter shape = .done queries warnings →
    Fits field shape.toValue.literals (Query.leavesOfAll queries)

variable (setting : Setting) (enter : Operand → Diagnosed (List Query)) (field : String)
  (fitting : Fitting field enter)
include fitting

/-- A negation fits whether it has a form of its own or is put around its operand. -/
theorem NegationForm.fits {shape : Operand} {query : Query} {warnings : List Warning}
    (form : NegationForm enter field shape query warnings) :
    Fits field shape.toValue.literals query.leaves := by
  cases form with
  | null => exact Fits.test .present trivial
  | scalar built => exact Fits.testNot (.term _) (term_wellFormed field _ _ built)
  | list read membership =>
    rw [Operand.toValue, Value.literals_members]
    exact membership.fits read
  | @entered shape queries warnings resolved =>
    refine Fits.negate _ ?_
    rw [Query.leaves_allOf]
    exact fitting shape queries warnings resolved

/-- What an entry of an operator map contributes fits the entry. -/
theorem ContributionForm.fits {entries : List (Operator × Value)} {op : Operator} {value : Value}
    {contribution : Contribution} {warnings : List Warning}
    (form : ContributionForm setting enter field entries op value contribution warnings) :
    Fits field (Value.operandLiterals [keyed (op, value)]) (contribution.leaves field) := by
  cases form with
  | @bound op side close literal bounding read =>
    have canEnd := boundOperand_wellFormed field op (.scalar literal) literal read
    have ends : (oneSided side (close literal)).ends = [literal] ∧
        Value.operandLiterals [keyed (op, .scalar literal)] = [literal] := by
      cases op <;> cases bounding <;> exact ⟨rfl, rfl⟩
    rw [ends.2, ← ends.1]
    refine Fits.test (.range (oneSided side (close literal))) ?_
    rw [Test.WellFormed, ends.1]
    exact List.forall_mem_singleton.mpr canEnd
  | @equality shape queries warnings _ resolved =>
    have listed : Value.operandLiterals [keyed (.equal, shape.toValue)] =
        shape.toValue.literals := List.append_nil _
    exact listed ▸ fitting shape queries warnings resolved
  | @negation shape query _ form =>
    have listed : Value.operandLiterals [keyed (.negation, shape.toValue)] =
        shape.toValue.literals := List.append_nil _
    rw [listed, Contribution.leaves, Query.leavesOfAll_singleton]
    exact form.fits enter field fitting
  | simple form => exact form.fits

/-- The contributions of entries fit the literals of the entries. The induction is on the
entries. -/
theorem contributions_fit (entries rest : List (Operator × Value))
    (contributions : List Contribution) (warnings : List Warning)
    (done : rest.mapM (contribution setting enter field entries) = .done contributions warnings) :
    Fits field (Value.operandLiterals (rest.map keyed))
      (contributions.flatMap (Contribution.leaves field)) := by
  have pointwise := Diagnosed.forall₂_of_mapM_eq_done _ _ _ _ done
  clear done
  rw [Value.operandLiterals_keyed]
  induction pointwise with
  | nil => exact Fits.nil
  | @cons entry contribution rest contributions first _ inductionHypothesis =>
    obtain ⟨raised, step⟩ := first
    rw [List.flatMap_cons, List.flatMap_cons]
    exact ((contribution_form step).2.fits setting enter field fitting).append inductionHypothesis

/-- The predicates of an operand fit its literals if those of the operands inside it do. -/
theorem operandWith_fitting : Fitting field (operandWith setting enter field) := by
  intro shape queries warnings done
  cases operandWith_form done with
  | ops contributed =>
    exact Fits.arranged _ .start
      (contributions_fit setting enter field fitting _ _ _ warnings contributed)
  | plain form => exact form.fits

omit fitting in
/-- The predicates of a condition fit it, however deep its operands nest. -/
theorem operand_fits (levels : Nat) : Fitting field (operand setting field levels) := by
  have refused : Fitting field fun _ => .failed (.depthLimitExceeded setting.limit) := by
    intro shape queries warnings done
    cases done
  exact operand_of_levels setting field (fun _ enter => Fitting field enter) refused
    (fun _ enter fitting => operandWith_fitting setting enter field fitting) levels

end Entries

end Resolve

end SearchFilter
