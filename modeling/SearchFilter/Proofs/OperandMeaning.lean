import SearchFilter.Proofs.OperatorMeaning
import SearchFilter.Proofs.PairedBounds

/-!
# Operands resolve to what they mean

The queries of a condition select the documents of which the condition holds. The entries of an
operator map contribute their meanings one by one, and the bounds among them the groups of
`Edge.together`. The induction is on the number of levels of operands that may still be entered,
which the meaning does not mention.
-/

namespace SearchFilter.Resolve

/-- A partner is looked up among the operators of a map, which are its entries once it has been
read. -/
theorem partner?_keyed (entries : List (Operator × Value)) (op : Operator) :
    Meaning.partner? (entries.map keyed) op = partner? op entries := by
  induction entries with
  | nil => rfl
  | cons entry rest inductionHypothesis =>
    simp only [Meaning.partner?, partner?] at inductionHypothesis ⊢
    by_cases found : entry.1 = op
    · simp [keyed, found]
    · simpa [keyed, found] using inductionHypothesis

/-- The operators of a map hold when each of them does. -/
theorem operators_eq_all (capabilities : Capabilities) (held : Held)
    (partner : Operator → Option Value) (entries : List (Operator × Value)) :
    Meaning.operators capabilities held partner (entries.map keyed) =
      entries.all fun entry => Meaning.operators capabilities held partner [keyed entry] := by
  induction entries with
  | nil => rfl
  | cons entry rest inductionHypothesis =>
    obtain ⟨op, value⟩ := entry
    cases op <;>
      simp only [List.map_cons, List.all_cons, keyed, Meaning.operators, Bool.and_true,
        inductionHypothesis]

/-- Whether operands are resolved to queries that mean the same. -/
def Faithful (capabilities : Capabilities) (field : String)
    (enter : Operand → Diagnosed (List Query)) : Prop :=
  ∀ value operand queries warnings, Operand.ofValue field value = .ok operand →
    enter operand = .done queries warnings → ∀ document,
      Query.selectedByAll queries document =
        Meaning.condition capabilities (.of document field) value

section Entries

variable (setting : Setting) (enter : Operand → Diagnosed (List Query)) (field : String)
  (document : Json)

/-- The queries of a condition that is no operator map hold exactly when the condition does. -/
theorem PlainForm.selected {shape : Operand} {queries : List Query} {warnings : List Warning}
    (form : PlainForm setting field shape queries warnings) :
    Query.selectedByAll queries document =
      Meaning.condition setting.capabilities (.of document field) shape.toValue := by
  rw [Operand.toValue.eq_def]
  cases form with
  | null =>
    rw [selected_singleton, Query.selects_testNot, selects_present, Bool.not_not, Meaning.condition]
  | scalar _ | interval _ =>
    rw [selected_singleton, Query.selects_test _ _ _ rfl]
    rfl
  | list _ membership =>
    rw [selected_singleton, membership.selects, Bool.false_xor, Meaning.condition]
    exact (any_members _ _).symm
  | pattern built =>
    rw [patternLiteral_eq_done _ _ _ _ _ built, selected_singleton, Query.selects_test _ _ _ rfl]
    rfl

/-- The query of a negation holds exactly when its operand does not, whether the negation has a form
of its own or is put around the resolved operand. -/
theorem NegationForm.selects (faithful : Faithful setting.capabilities field enter)
    {shape : Operand} {query : Query} {warnings : List Warning}
    (form : NegationForm enter field shape query warnings) :
    query.selects document =
      !Meaning.condition setting.capabilities (.of document field) shape.toValue := by
  cases form with
  | null =>
    rw [selects_present]
    rfl
  | scalar _ =>
    exact (Query.selects_testNot field (.term _) document).trans
      (congrArg not (Query.selects_test field (.term _) document rfl))
  | list _ membership =>
    rw [membership.selects, Bool.true_xor, Operand.toValue, Meaning.condition, any_members]
  | entered resolved =>
    rw [Query.selects_negate, Query.selects_allOf, ← Query.selectedByAll_eq_all,
      faithful _ shape _ warnings (Operand.ofValue_toValue field shape) resolved document]

/-- The meaning of an operator that neither is a bound nor has a condition inside does not depend on
the operators around it, partners apart. -/
theorem operators_simple (capabilities : Capabilities) (held : Held)
    (partner : Operator → Option Value) (op : Operator) (value : Value) (noEqual : op ≠ .equal)
    (noNegation : op ≠ .negation) :
    Meaning.operators capabilities held partner [(.op op, value)] =
      Meaning.operator held partner op value := by
  cases op <;> simp [Meaning.operators] at noEqual noNegation ⊢

/-- What an operator contributes is what it means: its bound, if it is one, and queries that hold
exactly when the operator does. -/
theorem ContributionForm.meaning (faithful : Faithful setting.capabilities field enter)
    {entries : List (Operator × Value)} {op : Operator} {value : Value}
    {contribution : Contribution} {warnings : List Warning}
    (form : ContributionForm setting enter field entries op value contribution warnings) :
    contribution.bound? = (Meaning.edge? (.op op, value)).map Edge.sided ∧
      contribution.selects document =
        Meaning.operators setting.capabilities (.of document field)
          (fun partner => partner? partner entries) [(.op op, value)] := by
  cases form with
  | @bound _ side close literal bounding read =>
    obtain ⟨edge, stands, sided⟩ := Edge.of_sideOf op side close literal bounding
    refine ⟨by simp [Contribution.bound?, Meaning.edge?, stands, sided], ?_⟩
    cases op <;> first | rfl | cases bounding
  | @equality shape _ _ noMap resolved =>
    refine ⟨by rw [Edge.edge?_eq_none rfl]; rfl, ?_⟩
    rw [Meaning.operators, Meaning.operators, Bool.and_true]
    exact faithful _ shape _ warnings (Operand.ofValue_toValue field shape) resolved document
  | negation form =>
    refine ⟨by rw [Edge.edge?_eq_none rfl]; rfl, ?_⟩
    rw [Meaning.operators, Meaning.operators, Bool.and_true]
    exact (selected_singleton _ document).trans (form.selects setting enter field document faithful)
  | simple form =>
    obtain ⟨noBound, noEqual, noNegation⟩ := form.simple
    refine ⟨by rw [Edge.edge?_eq_none noBound]; rfl, ?_⟩
    rw [operators_simple _ _ _ op value noEqual noNegation]
    exact form.selected document

/-- The entries of a map contribute its bounds, in order, and queries that all hold exactly when all
of its operators do. -/
theorem contributions_meaning (faithful : Faithful setting.capabilities field enter)
    (entries rest : List (Operator × Value)) (contributions : List Contribution)
    (warnings : List Warning)
    (done : rest.mapM (contribution setting enter field entries) = .done contributions warnings) :
    contributions.filterMap Contribution.bound? =
        ((rest.map keyed).filterMap Meaning.edge?).map Edge.sided ∧
      (contributions.all fun contribution => contribution.selects document) =
        Meaning.operators setting.capabilities (.of document field)
          (fun partner => partner? partner entries) (rest.map keyed) := by
  have pointwise := Diagnosed.forall₂_of_mapM_eq_done _ _ _ _ done
  clear done
  rw [operators_eq_all]
  induction pointwise with
  | nil => exact ⟨rfl, rfl⟩
  | @cons entry contribution rest contributions first _ inductionHypothesis =>
    obtain ⟨raised, step⟩ := first
    obtain ⟨bounded, selected⟩ :=
      (contribution_form step).2.meaning setting enter field document faithful
    obtain ⟨boundsOfRest, selectedOfRest⟩ := inductionHypothesis
    refine ⟨?_, by rw [List.all_cons, List.all_cons, selected, selectedOfRest]; rfl⟩
    have same : keyed entry = (.op entry.1, entry.2) := rfl
    rw [List.map_cons, List.filterMap_cons, List.filterMap_cons, bounded, same]
    cases Meaning.edge? (.op entry.1, entry.2) with
    | none => exact boundsOfRest
    | some edge => exact congrArg (edge.sided :: ·) boundsOfRest

/-- The queries of an operator map hold exactly when the map does. -/
theorem selected_operators (faithful : Faithful setting.capabilities field enter)
    (entries : List (Operator × Value)) (contributions : List Contribution)
    (warnings : List Warning)
    (done : entries.mapM (contribution setting enter field entries) =
      .done contributions warnings) :
    Query.selectedByAll ((contributions.foldl (Progress.add field) .start).queries field)
        document =
      Meaning.condition setting.capabilities (.of document field) (.map (entries.map keyed)) := by
  obtain ⟨bounds, selected⟩ := contributions_meaning setting enter field document faithful entries
    entries contributions warnings done
  have partners : Meaning.partner? (entries.map keyed) = fun op => partner? op entries :=
    funext (partner?_keyed entries)
  have ranges : rangesHold field document
      (rangesFrom none (contributions.filterMap Contribution.bound?)) =
        Edge.hold (Held.of document field).values
          ((entries.map keyed).filterMap Meaning.edge?) := by
    rw [bounds, ← Edge.ranges_hold]
    exact congrArg _ (funext fun range => Query.selects_test field (.range range) document rfl)
  rw [selected_arranged, selected, Meaning.condition, partners]
  exact congrArg _ ranges

end Entries

/-- One level of operands is resolved faithfully if the operands inside it are. -/
theorem operandWith_faithful (setting : Setting) (enter : Operand → Diagnosed (List Query))
    (field : String) (faithful : Faithful setting.capabilities field enter) :
    Faithful setting.capabilities field (operandWith setting enter field) := by
  intro value shape queries warnings shaped done document
  obtain rfl := Operand.toValue_of_ofValue field value shape shaped
  cases operandWith_form done with
  | ops contributed =>
    exact selected_operators setting enter field document faithful _ _ warnings contributed
  | plain form => exact form.selected setting field document

/-- Operands that are resolved mean what they are resolved to, however many levels may be entered.
Where no level is left nothing is resolved, so there is nothing to get wrong. -/
theorem operand_faithful (setting : Setting) (field : String) (levels : Nat) :
    Faithful setting.capabilities field (operand setting field levels) := by
  have refused : Faithful setting.capabilities field
      fun _ => .failed (.depthLimitExceeded setting.limit) := by
    intro value shape queries warnings shaped done
    cases done
  exact operand_of_levels setting field (fun _ => Faithful setting.capabilities field) refused
    (fun _ enter faithful => operandWith_faithful setting enter field faithful) levels

end SearchFilter.Resolve
