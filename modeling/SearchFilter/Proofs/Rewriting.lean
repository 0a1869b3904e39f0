import SearchFilter.Proofs.Mirroring
import SearchFilter.Proofs.SpecificationMeaning

/-!
# Rewriting inside specifications

A rule that rewrites one entry of a specification can be applied to an entry of any sub-specification
in it, however deep that stands. What the rule keeps is kept by its application there, if it is
something that the assembly of clauses respects: the clauses of an entry are put one after the other
and into groups, and nothing else is ever done with them.
-/

namespace SearchFilter

/-- Whether the operand of a combinator is a list of groups. -/
def Combinator.takesGroups : Combinator → Bool
  | .and | .or => true
  | .flatAnd | .flatOr | .not => false

namespace Where

open Check (bind_eq_ok_iff mapM_eq_ok_iff)

/-- The places in the operand of a combinator where a sub-specification stands, each as the function
that puts one there. -/
inductive Place : Combinator → (Value → Value) → Prop
  /-- The whole operand of a negation. -/
  | alone : Place .not id
  /-- A member of a list. -/
  | listed (combinator : Combinator) (flat : combinator.takesGroups = false)
      (before after : List Value) :
      Place combinator fun spec => .list (before ++ spec :: after)
  /-- A member of one of the groups. -/
  | grouped (combinator : Combinator) (nested : combinator.takesGroups = true)
      (groups others before after : List Value) :
      Place combinator fun spec => .list (groups ++ .list (before ++ spec :: after) :: others)

/-- An entry to which a rule is applied once, to the entry itself or to one of a sub-specification
inside it. -/
inductive Rewritten (rule : String × Value → String × Value → Prop) :
    String × Value → String × Value → Prop
  | here {entry other : String × Value} (applies : rule entry other) : Rewritten rule entry other
  | inside {entry other : String × Value} (key : String) (combinator : Combinator)
      (combining : Combinator.ofKey? key = some combinator) (place : Value → Value)
      (stands : Place combinator place) (before after : List (Key × Value))
      (rewritten : Rewritten rule entry other) :
      Rewritten rule (key, place (.map (before ++ named entry :: after)))
        (key, place (.map (before ++ named other :: after)))

/-- Entries to one of which a rule is applied once. -/
inductive RewrittenAmong (rule : String × Value → String × Value → Prop) :
    List (String × Value) → List (String × Value) → Prop
  | intro {entry other : String × Value} (before after : List (String × Value))
      (rewritten : Rewritten rule entry other) :
      RewrittenAmong rule (before ++ entry :: after) (before ++ other :: after)

section Reversal

variable {rule : String × Value → String × Value → Prop}

/-- An entry in which a rule was applied is the result of applying the reversed rule to the other
one. -/
theorem Rewritten.reverse {entry other : String × Value} (rewritten : Rewritten rule entry other) :
    Rewritten (flip rule) other entry := by
  induction rewritten with
  | here applies => exact .here applies
  | inside key combinator combining place stands before after _ inductionHypothesis =>
    exact .inside key combinator combining place stands before after inductionHypothesis

/-- Entries among which a rule was applied are the result of applying the reversed rule among the
others. -/
theorem RewrittenAmong.reverse {entries others : List (String × Value)}
    (rewritten : RewrittenAmong rule entries others) :
    RewrittenAmong (flip rule) others entries := by
  obtain ⟨before, after, rewritten⟩ := rewritten
  exact ⟨before, after, rewritten.reverse⟩

end Reversal

/-- How sub-specifications are read when `levels` more levels may be entered. -/
def entering (limit : Nat) : (levels : Nat) → List (String × Value) → Except CompileError Where
  | 0 => fun _ => .error (.depthLimitExceeded limit)
  | levels + 1 => ofEntries limit levels

/-- Entries are read at every number of levels in the same way, and the levels that are left matter
only for what is entered. -/
theorem ofEntries_eq_entriesClauses (limit levels : Nat) :
    ofEntries limit levels = entriesClauses (entering limit levels) := by
  cases levels <;> rfl

/-! ### The spellings of an operand -/

section Operands

variable (enter : List (String × Value) → Except CompileError Where)

/-- A list of groups gives one clause for each group. -/
theorem clausesOf_groups (combinator : Combinator) (nested : combinator.takesGroups = true)
    (key : String) (groups : List Value) :
    clausesOf enter combinator key (.list groups) =
      groups.mapM (groupOf enter key combinator.connective) := by
  cases combinator <;> first | rfl | cases nested

/-- A flat list gives one clause. -/
theorem clausesOf_list (combinator : Combinator) (flat : combinator.takesGroups = false)
    (key : String) (items : List Value) :
    clausesOf enter combinator key (.list items) =
      (do return [.group combinator.connective (← items.mapM (specOf enter key))]) := by
  cases combinator <;> first | rfl | cases flat

/-- An entry of a map is taken for one of a specification exactly if its key is a plain name. -/
theorem nameEntry_eq_ok_iff (key : String) (given : Key × Value) (entry : String × Value) :
    nameEntry key given = .ok entry ↔ given = named entry := by
  obtain ⟨name, value⟩ := given
  cases name with
  | op op => simp [nameEntry, named]
  | name text => simp [nameEntry, named, Prod.ext_iff]

end Operands

/-! ### What the assembly of clauses respects -/

/-- A relation between clauses that is kept when clauses are put one after the other and into
groups. -/
structure Congruence (related : List Clause → List Clause → Prop) : Prop where
  refl : ∀ clauses, related clauses clauses
  append : ∀ {clauses others following otherFollowing}, related clauses others →
    related following otherFollowing → related (clauses ++ following) (others ++ otherFollowing)
  group : ∀ connective {members others}, List.Forall₂ related members others →
    related [.group connective members] [.group connective others]

/-- Being equal is kept by everything. -/
theorem Congruence.eq : Congruence Eq where
  refl _ := rfl
  append same following := same ▸ following ▸ rfl
  group connective members others same := by rw [List.forall₂_eq_eq_eq] at same; rw [same]

section Reading

variable {related : List Clause → List Clause → Prop} (congruence : Congruence related)
include congruence

/-- Parts that are related one by one are related when they are put one after the other. -/
theorem Congruence.flatten {parts others : List (List Clause)}
    (each : List.Forall₂ related parts others) : related parts.flatten others.flatten := by
  induction each with
  | nil => exact congruence.refl []
  | cons first _ inductionHypothesis => exact congruence.append first inductionHypothesis

/-- Clauses that are related one by one are related in sequence. -/
theorem Congruence.clauses {clauses others : List Clause}
    (each : List.Forall₂ (fun clause other => related [clause] [other]) clauses others) :
    related clauses others := by
  induction each with
  | nil => exact congruence.refl []
  | cons first _ inductionHypothesis => exact congruence.append first inductionHypothesis

variable {enter : List (String × Value) → Except CompileError Where}

/-- Entries are read into related clauses if one of them is and the others are the same. -/
theorem entriesClauses_replaced {entry other : String × Value}
    (mirrored : Check.Mirrored related (entryClauses enter entry) (entryClauses enter other))
    (before after : List (String × Value)) :
    Check.Mirrored related (entriesClauses enter (before ++ entry :: after))
      (entriesClauses enter (before ++ other :: after)) :=
  (Check.Mirrored.mapM_replaced congruence.refl mirrored before after).map _ _
    fun _ _ => congruence.flatten

/-- Lists of groups are read into related clauses if one of the groups is and the others are the
same. -/
theorem clausesOf_groups_replaced {combinator : Combinator}
    (nested : combinator.takesGroups = true) {key : String} {group other : Value}
    (mirrored : Check.Mirrored (fun clause otherClause => related [clause] [otherClause])
      (groupOf enter key combinator.connective group)
      (groupOf enter key combinator.connective other))
    (before after : List Value) :
    Check.Mirrored related (clausesOf enter combinator key (.list (before ++ group :: after)))
      (clausesOf enter combinator key (.list (before ++ other :: after))) := by
  rw [clausesOf_groups enter combinator nested, clausesOf_groups enter combinator nested]
  exact (Check.Mirrored.mapM_replaced (fun clause => congruence.refl [clause]) mirrored before
    after).mono fun _ _ => congruence.clauses

/-- A sub-specification can be replaced wherever it stands by one that is read into related
clauses. -/
theorem clausesOf_place {combinator : Combinator} {place : Value → Value}
    (stands : Place combinator place) {key : String} {given others : List (Key × Value)}
    (specs : Check.Mirrored related (specOf enter key (.map given))
      (specOf enter key (.map others))) :
    Check.Mirrored related (clausesOf enter combinator key (place (.map given)))
      (clausesOf enter combinator key (place (.map others))) := by
  have listed (before after : List Value) :=
    Check.Mirrored.mapM_replaced congruence.refl specs before after
  cases stands with
  | alone =>
    exact specs.bind fun member other are => .ok (congruence.group .not (.cons are .nil))
  | listed _ flat before after =>
    rw [clausesOf_list enter combinator flat, clausesOf_list enter combinator flat]
    exact (listed before after).bind fun _ _ are =>
      .ok (congruence.group combinator.connective are)
  | grouped _ nested groups others before after =>
    refine clausesOf_groups_replaced congruence nested ?_ groups others
    exact (listed before after).bind fun _ _ are =>
      .ok (congruence.group combinator.connective are)

omit enter

variable {rule : String × Value → String × Value → Prop} (limit : Nat)
  (kept : ∀ levels entry other, rule entry other →
    Check.Mirrored related (entryClauses (entering limit levels) entry)
      (entryClauses (entering limit levels) other))
include kept

/-- Applied inside an entry, a rule keeps what it keeps of the clauses of an entry by itself. The
induction is on the sub-specifications around the entry to which the rule is applied, each of which
is entered with one level less. -/
theorem entryClauses_rewritten (levels : Nat) {entry other : String × Value}
    (rewritten : Rewritten rule entry other) :
    Check.Mirrored related (entryClauses (entering limit levels) entry)
      (entryClauses (entering limit levels) other) := by
  induction rewritten generalizing levels with
  | here applies => exact kept levels _ _ applies
  | @inside entry other key combinator combining place stands before after _ inductionHypothesis =>
    simp only [entryClauses, combining]
    refine clausesOf_place congruence stands ?_
    intro clauses read
    obtain ⟨entries, keysRead, entered⟩ := (bind_eq_ok_iff _ _ _).mp read
    obtain ⟨earlier, later, rfl, otherKeysRead⟩ := Check.mapM_replaced (nameEntry key) named
      (nameEntry_eq_ok_iff key) before after entry entries keysRead
    cases levels with
    | zero => cases entered
    | succ levels =>
      rw [entering, ofEntries_eq_entriesClauses] at entered
      obtain ⟨others, othersRead, are⟩ := entriesClauses_replaced congruence
        (inductionHypothesis levels) earlier later clauses entered
      refine ⟨others, (bind_eq_ok_iff _ _ _).mpr ⟨_, otherKeysRead other, ?_⟩, are⟩
      rw [entering, ofEntries_eq_entriesClauses]
      exact othersRead

/-- What a rule keeps is kept by its application to an entry at any depth, whatever number of levels
is left. -/
theorem ofEntries_rewritten (levels : Nat) {entries others : List (String × Value)}
    (rewritten : RewrittenAmong rule entries others) :
    Check.Mirrored related (ofEntries limit levels entries) (ofEntries limit levels others) := by
  obtain ⟨before, after, rewritten⟩ := rewritten
  rw [ofEntries_eq_entriesClauses]
  exact entriesClauses_replaced congruence
    (entryClauses_rewritten congruence limit kept levels rewritten) before after

end Reading

end Where

end SearchFilter
