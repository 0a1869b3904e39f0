import SearchFilter.Regex.Match
import Mathlib.Data.Finset.Card
import Mathlib.Order.Interval.Finset.Nat

/-!
# What expressions match

An expression relates the positions of a text where a match can start to those where it can end. The
relation is defined along the expression. The matcher computes with sets of positions; it reaches
exactly the positions that are related to one where it starts.
-/

namespace SearchFilter.Regex

/-! ### The relation -/

/-- Whether a number of steps leads from one position to another. -/
def Leads (step : Nat → Nat → Prop) : Nat → Nat → Nat → Prop
  | 0, start, stop => start = stop
  | count + 1, start, stop => ∃ middle, step start middle ∧ Leads step count middle stop

/-- The character before a position. -/
def charBefore (text : List Char) (position : Nat) : Option Char :=
  if position = 0 then none else text[position - 1]?

/-- Whether an expression matches the part of a text from one position to another. A repetition
whose bounds are out of order, which no text spells, counts as one with the lower bound only. -/
def Expr.Matches (text : List Char) : Expr → Nat → Nat → Prop
  | .empty, start, stop => start = stop
  | .look condition, start, stop =>
    start = stop ∧ start ≤ text.length ∧ condition.holds (charBefore text start) text[start]? = true
  | .one set, start, stop => stop = start + 1 ∧ ∃ c, text[start]? = some c ∧ set.contains c = true
  | .seq first second, start, stop =>
    ∃ middle, first.Matches text start middle ∧ second.Matches text middle stop
  | .either left right, start, stop => left.Matches text start stop ∨ right.Matches text start stop
  | .repeated least most? body, start, stop =>
    ∃ count, least ≤ count ∧ (∀ most, most? = some most → count ≤ max least most) ∧
      Leads (body.Matches text) count start stop

/-- Whether an expression matches a text from its start to its end. -/
def Expr.Spans (expr : Expr) (text : List Char) : Prop := expr.Matches text 0 text.length

namespace Leads

variable {step : Nat → Nat → Prop}

/-- Steps in a row lead on. -/
theorem append {count more start middle stop : Nat} (first : Leads step count start middle)
    (second : Leads step more middle stop) : Leads step (count + more) start stop := by
  induction count generalizing start with
  | zero =>
    cases first
    rwa [Nat.zero_add]
  | succ count inductionHypothesis =>
    obtain ⟨next, steps, further⟩ := first
    rw [Nat.succ_add]
    exact ⟨next, steps, inductionHypothesis further⟩

/-- Steps in a row can be divided anywhere. -/
theorem split {count more start stop : Nat} (leads : Leads step (count + more) start stop) :
    ∃ middle, Leads step count start middle ∧ Leads step more middle stop := by
  induction count generalizing start with
  | zero =>
    rw [Nat.zero_add] at leads
    exact ⟨start, rfl, leads⟩
  | succ count inductionHypothesis =>
    rw [Nat.succ_add] at leads
    obtain ⟨next, steps, further⟩ := leads
    obtain ⟨middle, first, second⟩ := inductionHypothesis further
    exact ⟨middle, ⟨next, steps, first⟩, second⟩

/-- What every step keeps is kept by any number of them. -/
theorem keeps {holds : Nat → Prop} (kept : ∀ start stop, step start stop → holds start → holds stop)
    {count start stop : Nat} (leads : Leads step count start stop) (atStart : holds start) :
    holds stop := by
  induction count generalizing start with
  | zero =>
    cases leads
    exact atStart
  | succ count inductionHypothesis =>
    obtain ⟨middle, steps, further⟩ := leads
    exact inductionHypothesis further (kept start middle steps atStart)

/-- A step that may also stay leads, in a number of rounds, where at most that many steps lead. -/
theorem of_staying (most : Nat) :
    Leads (fun start stop => start = stop ∨ step start stop) most =
      fun start stop => ∃ count, count ≤ most ∧ Leads step count start stop := by
  funext start stop
  refine propext ?_
  induction most generalizing start with
  | zero => simp [Leads]
  | succ most inductionHypothesis =>
    simp only [Leads, inductionHypothesis]
    constructor
    · rintro ⟨middle, rfl | steps, count, few, leads⟩
      · exact ⟨count, Nat.le_succ_of_le few, leads⟩
      · exact ⟨count + 1, Nat.succ_le_succ few, middle, steps, leads⟩
    · rintro ⟨count, few, leads⟩
      cases count with
      | zero => exact ⟨start, .inl rfl, 0, Nat.zero_le most, leads⟩
      | succ count =>
        obtain ⟨middle, steps, further⟩ := leads
        exact ⟨middle, .inr steps, count, Nat.le_of_succ_le_succ few, further⟩

end Leads

/-- A match stays within the text. -/
theorem Expr.Matches.le_length {text : List Char} {expr : Expr} {start stop : Nat}
    (isMatch : expr.Matches text start stop) (within : start ≤ text.length) :
    stop ≤ text.length := by
  induction expr generalizing start stop with
  | empty =>
    cases isMatch
    exact within
  | look condition => exact isMatch.1 ▸ within
  | one set =>
    obtain ⟨rfl, c, isHere, -⟩ := isMatch
    exact (List.getElem?_eq_some_iff.mp isHere).1
  | seq first second firstWithin secondWithin =>
    obtain ⟨middle, isFirst, isSecond⟩ := isMatch
    exact secondWithin isSecond (firstWithin isFirst within)
  | either left right leftWithin rightWithin =>
    obtain isLeft | isRight := isMatch
    · exact leftWithin isLeft within
    · exact rightWithin isRight within
  | repeated least most? body bodyWithin =>
    obtain ⟨count, -, -, leads⟩ := isMatch
    exact leads.keeps (fun _ _ isBody (inside : _ ≤ text.length) => bodyWithin isBody inside) within

/-! ### Sets of positions -/

namespace Positions

/-- A position is in the set of a list if the list says so there. -/
@[simp] theorem testBit_ofList (members : List Bool) (position : Nat) :
    (ofList members).testBit position = members[position]?.getD false := by
  induction members generalizing position with
  | nil => simp [ofList]
  | cons here later inductionHypothesis =>
    have rest : ofList (here :: later) = 2 * ofList later + here.toNat := rfl
    cases position with
    | zero => cases here <;> simp [rest, Nat.testBit_zero]
    | succ position =>
      have half (set : Nat) : (2 * set + here.toNat) / 2 = set := by
        have := Bool.toNat_le here
        omega
      rw [rest, Nat.testBit_succ, half, inductionHypothesis]
      rfl

/-- The positions up to a bound are those up to it. -/
@[simp] theorem testBit_upTo (bound position : Nat) :
    (upTo bound).testBit position = decide (position ≤ bound) := by
  rw [upTo, Nat.one_shiftLeft, Nat.testBit_two_pow_sub_one]
  exact decide_eq_decide.mpr Nat.lt_succ_iff

/-- A position is left if it was there and is not taken away. -/
@[simp] theorem testBit_without (set other : Positions) (position : Nat) :
    (without set other).testBit position = (set.testBit position && !other.testBit position) := by
  rw [without, Nat.testBit_xor, Nat.testBit_or]
  cases set.testBit position <;> cases other.testBit position <;> rfl

/-- A set has a member unless it is empty. -/
theorem exists_mem_of_ne_zero {set : Positions} (nonempty : set ≠ 0) :
    ∃ position, set.testBit position = true := by
  by_contra none
  refine nonempty (Nat.eq_of_testBit_eq fun position => ?_)
  rw [Nat.zero_testBit]
  exact Bool.eq_false_iff.mpr fun isMember => none ⟨position, isMember⟩

end Positions

/-- At every position of a text stand the characters before and after it. -/
theorem surroundings_getElem? (before : Option Char) (text : List Char) (position : Nat) :
    (surroundings before text)[position]? =
      if position ≤ text.length then
        some (if position = 0 then before else text[position - 1]?, text[position]?)
      else none := by
  induction text generalizing before position with
  | nil => cases position <;> simp [surroundings]
  | cons c rest inductionHypothesis =>
    cases position with
    | zero => simp [surroundings]
    | succ position =>
      simp only [surroundings, List.getElem?_cons_succ, inductionHypothesis, List.length_cons,
        Nat.succ_le_succ_iff, Nat.add_sub_cancel, Nat.succ_ne_zero, if_false]
      cases position <;> simp

/-- The members of a set are positions up to a bound. -/
def Positions.UpTo (bound : Nat) (set : Positions) : Prop :=
  ∀ position, set.testBit position = true → position ≤ bound

/-- How many of the positions up to a bound are not in a set. -/
def Positions.missing (bound : Nat) (set : Positions) : Nat :=
  ((Finset.range (bound + 1)).filter fun position => set.testBit position = false).card

/-- No more positions can be missing than there are. -/
theorem Positions.missing_le (bound : Nat) (set : Positions) : set.missing bound ≤ bound + 1 := by
  simpa [missing] using Finset.card_filter_le (Finset.range (bound + 1)) fun position =>
    set.testBit position = false

/-- A position that is reached for the first time is missing no longer. -/
theorem Positions.missing_or_lt {bound : Nat} (reached : Positions) {next : Positions}
    {position : Nat} (inside : position ≤ bound) (isNext : next.testBit position = true)
    (isNew : reached.testBit position = false) :
    Positions.missing bound (reached ||| next) < Positions.missing bound reached := by
  refine Finset.card_lt_card (Finset.ssubset_iff_subset_ne.mpr ⟨fun other isMissing => ?_, ?_⟩)
  · simp only [Finset.mem_filter, Nat.testBit_or, Bool.or_eq_false_iff] at isMissing ⊢
    exact ⟨isMissing.1, isMissing.2.1⟩
  · intro same
    have wasMissing : position ∈ (Finset.range (bound + 1)).filter fun position =>
        reached.testBit position = false := by
      simpa [isNew, Nat.lt_succ_iff] using inside
    rw [← same] at wasMissing
    simp [isNext] at wasMissing

/-! ### Saturation -/

/-- What every round of a saturation keeps: the latest positions are among those reached so far, and
the others of these have their successors among them. -/
structure Exploring (bound : Nat) (related : Nat → Nat → Prop) (reached latest : Positions) :
    Prop where
  inside : Positions.UpTo bound reached
  contained : ∀ position, latest.testBit position = true → reached.testBit position = true
  closed : ∀ start stop, reached.testBit start = true → latest.testBit start = false →
    related start stop → reached.testBit stop = true

/-- The positions that a round reaches first are the successors of the latest that were not reached
before. -/
def IsNext (related : Nat → Nat → Prop) (reached latest next : Positions) : Prop :=
  ∀ position, next.testBit position = true ↔
    (∃ start, latest.testBit start = true ∧ related start position) ∧
      reached.testBit position = false

namespace Exploring

variable {bound : Nat} {related : Nat → Nat → Prop} {reached latest next : Positions}

/-- The search begins with the starting positions, none of them explored. -/
theorem of_starts {starts : Positions} (inside : Positions.UpTo bound starts) :
    Exploring bound related starts starts := by
  refine ⟨inside, fun _ => id, fun start stop isStart isNot => ?_⟩
  rw [isStart] at isNot
  cases isNot

/-- Where the last round reached nothing new, no number of steps leads out of what was reached. -/
theorem mem_iff_of_finished (exploring : Exploring bound related reached 0) (stop : Nat) :
    reached.testBit stop = true ↔
      ∃ start, reached.testBit start = true ∧ ∃ count, Leads related count start stop := by
  have closed (start stop : Nat) (steps : related start stop)
      (isStart : reached.testBit start = true) : reached.testBit stop = true :=
    exploring.closed start stop isStart (Nat.zero_testBit start) steps
  constructor
  · exact fun isStop => ⟨stop, isStop, 0, rfl⟩
  · rintro ⟨start, isStart, count, leads⟩
    exact leads.keeps closed isStart

section

variable (exploring : Exploring bound related reached latest)
  (isNext_iff : IsNext related reached latest next)
include exploring isNext_iff

/-- Positions reached next lie within the text if steps do not lead out of it. -/
theorem next_upTo (bounded : ∀ start stop, related start stop → start ≤ bound → stop ≤ bound) :
    Positions.UpTo bound next := by
  intro position isNext
  obtain ⟨⟨start, isLatest, steps⟩, -⟩ := (isNext_iff position).mp isNext
  exact bounded start position steps (exploring.inside start (exploring.contained start isLatest))

/-- A round keeps the invariant: the positions that were the latest before it have their successors
among those reached before or first reached by it. -/
theorem round (bounded : ∀ start stop, related start stop → start ≤ bound → stop ≤ bound) :
    Exploring bound related (reached ||| next) next := by
  refine ⟨fun position isMember => ?_, fun position isNext => ?_,
    fun start stop isStart notNext steps => ?_⟩
  · rw [Nat.testBit_or, Bool.or_eq_true] at isMember
    exact isMember.elim (exploring.inside position)
      (exploring.next_upTo isNext_iff bounded position)
  · rw [Nat.testBit_or, isNext, Bool.or_true]
  · rw [Nat.testBit_or, notNext, Bool.or_false] at isStart
    rw [Nat.testBit_or, Bool.or_eq_true]
    cases isLatest : latest.testBit start with
    | false => exact .inl (exploring.closed start stop isStart isLatest steps)
    | true =>
      cases known : reached.testBit stop with
      | true => exact .inl rfl
      | false => exact .inr ((isNext_iff stop).mpr ⟨⟨start, isLatest, steps⟩, known⟩)

/-- What the new positions lead to is led to from those of the round before. -/
theorem leads_round_iff (stop : Nat) :
    (∃ start, (reached ||| next).testBit start = true ∧ ∃ count, Leads related count start stop) ↔
      ∃ start, reached.testBit start = true ∧ ∃ count, Leads related count start stop := by
  simp only [Nat.testBit_or, Bool.or_eq_true]
  constructor
  · rintro ⟨start, isReached | isNext, count, leads⟩
    · exact ⟨start, isReached, count, leads⟩
    · obtain ⟨⟨before, isLatest, steps⟩, -⟩ := (isNext_iff start).mp isNext
      exact ⟨before, exploring.contained before isLatest, count + 1, start, steps, leads⟩
  · rintro ⟨start, isReached, leads⟩
    exact ⟨start, .inl isReached, leads⟩

/-- A round that reaches something new leaves fewer positions missing. -/
theorem missing_round_lt (bounded : ∀ start stop, related start stop → start ≤ bound → stop ≤ bound)
    (something : next ≠ 0) :
    Positions.missing bound (reached ||| next) < Positions.missing bound reached := by
  obtain ⟨position, isNext⟩ := Positions.exists_mem_of_ne_zero something
  exact Positions.missing_or_lt reached (exploring.next_upTo isNext_iff bounded position isNext)
    isNext ((isNext_iff position).mp isNext).2

end

end Exploring

/-! ### Steps that compute relations -/

/-- Whether a step maps every set of positions up to a bound to the positions that are related to a
member, which are up to the bound too. -/
structure Computes (bound : Nat) (step : Positions → Positions) (related : Nat → Nat → Prop) :
    Prop where
  mem_iff : ∀ starts, Positions.UpTo bound starts → ∀ stop,
    (step starts).testBit stop = true ↔ ∃ start, starts.testBit start = true ∧ related start stop
  bounded : ∀ start stop, related start stop → start ≤ bound → stop ≤ bound

namespace Computes

variable {bound : Nat} {step : Positions → Positions} {related : Nat → Nat → Prop}

/-- What is computed lies within the text. -/
theorem upTo (computes : Computes bound step related) {starts : Positions}
    (inside : Positions.UpTo bound starts) : Positions.UpTo bound (step starts) := by
  intro stop isStop
  obtain ⟨start, isStart, leads⟩ := (computes.mem_iff starts inside stop).mp isStop
  exact computes.bounded start stop leads (inside start isStart)

/-- Computing a step repeatedly computes the steps in a row. -/
theorem iterate (computes : Computes bound step related) (count : Nat) :
    Computes bound (iterate step count) (Leads related count) := by
  refine ⟨fun starts inside stop => ?_, fun start stop leads => leads.keeps computes.bounded⟩
  induction count generalizing starts with
  | zero => simp [Regex.iterate, Leads]
  | succ count inductionHypothesis =>
    rw [Regex.iterate, inductionHypothesis _ (computes.upTo inside)]
    constructor
    · rintro ⟨middle, isMiddle, leads⟩
      obtain ⟨start, isStart, steps⟩ := (computes.mem_iff starts inside middle).mp isMiddle
      exact ⟨start, isStart, middle, steps, leads⟩
    · rintro ⟨start, isStart, middle, steps, leads⟩
      exact ⟨middle, (computes.mem_iff starts inside middle).mpr ⟨start, isStart, steps⟩, leads⟩

/-- With a step that may also stay, a number of rounds takes at most that many steps. -/
theorem iterate_or (computes : Computes bound step related) (most : Nat) :
    Computes bound (Regex.iterate (fun starts => starts ||| step starts) most)
      fun start stop => ∃ count, count ≤ most ∧ Leads related count start stop := by
  have staying : Computes bound (fun starts => starts ||| step starts)
      fun start stop => start = stop ∨ related start stop := by
    refine ⟨fun starts inside stop => ?_, ?_⟩
    · rw [Nat.testBit_or, Bool.or_eq_true, computes.mem_iff starts inside]
      constructor
      · rintro (isStop | ⟨start, isStart, steps⟩)
        · exact ⟨stop, isStop, .inl rfl⟩
        · exact ⟨start, isStart, .inr steps⟩
      · rintro ⟨start, isStart, rfl | steps⟩
        · exact .inl isStart
        · exact .inr ⟨start, isStart, steps⟩
    · rintro start stop (rfl | steps) inside
      · exact inside
      · exact computes.bounded start stop steps inside
  have rounds := staying.iterate most
  rwa [Leads.of_staying] at rounds

/-- The new positions of a round are the successors of the latest that were not reached before. -/
theorem mem_next_iff {reached latest : Positions} (computes : Computes bound step related)
    (exploring : Exploring bound related reached latest) :
    IsNext related reached latest (Positions.without (step latest) reached) := by
  intro position
  have successors := computes.mem_iff latest (fun start isLatest =>
    exploring.inside start (exploring.contained start isLatest)) position
  rw [Positions.testBit_without, Bool.and_eq_true, Bool.not_eq_true', successors]

/-- Saturation reaches what any number of steps leads to. Each round keeps the invariant and leaves
what is led to as it is, and the rounds left suffice for what is missing. -/
theorem mem_saturate_iff (computes : Computes bound step related) (fuel : Nat)
    (reached latest : Positions) (exploring : Exploring bound related reached latest)
    (enough : latest ≠ 0 → Positions.missing bound reached < fuel) (stop : Nat) :
    (saturate step fuel reached latest).testBit stop = true ↔
      ∃ start, reached.testBit start = true ∧ ∃ count, Leads related count start stop := by
  induction fuel generalizing reached latest with
  | zero =>
    have finished : latest = 0 := by
      by_contra something
      exact absurd (enough something) (Nat.not_lt_zero _)
    subst finished
    exact exploring.mem_iff_of_finished stop
  | succ fuel inductionHypothesis =>
    by_cases finished : latest = 0
    · subst finished
      rw [Regex.saturate, if_pos rfl]
      exact exploring.mem_iff_of_finished stop
    · rw [Regex.saturate, if_neg finished]
      have isNext_iff := computes.mem_next_iff exploring
      dsimp only
      rw [inductionHypothesis _ _ (exploring.round isNext_iff computes.bounded),
        exploring.leads_round_iff isNext_iff]
      intro something
      have fewer := exploring.missing_round_lt isNext_iff computes.bounded something
      exact Nat.lt_of_lt_of_le fewer (Nat.le_of_lt_succ (enough finished))

/-- Saturating a step computes any number of steps. The bound of the text bounds the rounds that add
a position. -/
theorem saturate (computes : Computes bound step related) :
    Computes bound (fun starts => Regex.saturate step (bound + 2) starts starts)
      fun start stop => ∃ count, Leads related count start stop := by
  refine ⟨fun starts inside stop => ?_, fun start stop ⟨_, leads⟩ => leads.keeps computes.bounded⟩
  exact computes.mem_saturate_iff (bound + 2) starts starts (.of_starts inside)
    (fun _ => Nat.lt_succ_of_le (Positions.missing_le bound starts)) stop

/-- Equal relations are computed by the same step. -/
theorem congr {other : Nat → Nat → Prop} (computes : Computes bound step related)
    (same : ∀ start stop, other start stop ↔ related start stop) : Computes bound step other := by
  have equal : other = related := funext fun start => funext fun stop => propext (same start stop)
  rwa [equal]

/-- A step after a step computes the relation that passes through a position between. -/
theorem comp {next : Positions → Positions} {further : Nat → Nat → Prop}
    (first : Computes bound step related) (second : Computes bound next further) :
    Computes bound (fun starts => next (step starts))
      fun start stop => ∃ middle, related start middle ∧ further middle stop := by
  refine ⟨fun starts inside stop => ?_, fun start stop ⟨middle, steps, goesOn⟩ inside =>
    second.bounded middle stop goesOn (first.bounded start middle steps inside)⟩
  simp only [second.mem_iff _ (first.upTo inside), first.mem_iff starts inside]
  constructor
  · rintro ⟨middle, ⟨start, isStart, steps⟩, goesOn⟩
    exact ⟨start, isStart, middle, steps, goesOn⟩
  · rintro ⟨start, isStart, middle, steps, goesOn⟩
    exact ⟨middle, ⟨start, isStart, steps⟩, goesOn⟩

end Computes

/-! ### The matcher -/

/-- Steps up to a bound are the least number of them and some more. -/
theorem leads_between_iff (step : Nat → Nat → Prop) (least : Nat) (bounded : Nat → Prop)
    (start stop : Nat) :
    (∃ count, least ≤ count ∧ bounded (count - least) ∧ Leads step count start stop) ↔
      ∃ middle, Leads step least start middle ∧
        ∃ count, bounded count ∧ Leads step count middle stop := by
  constructor
  · rintro ⟨count, atLeast, inBounds, leads⟩
    obtain ⟨more, rfl⟩ := Nat.exists_eq_add_of_le atLeast
    rw [Nat.add_sub_cancel_left] at inBounds
    obtain ⟨middle, first, second⟩ := leads.split
    exact ⟨middle, first, more, inBounds, second⟩
  · rintro ⟨middle, first, more, inBounds, second⟩
    refine ⟨least + more, Nat.le_add_right least more, ?_, first.append second⟩
    rwa [Nat.add_sub_cancel_left]

/-- The plan of an expression computes what the expression matches. -/
theorem Expr.plan_computes (text : List Char) (expr : Expr) :
    Computes text.length ((expr.plan text).ends text.length) (expr.Matches text) := by
  have bounded (expr : Expr) (start stop : Nat) (isMatch : expr.Matches text start stop)
      (inside : start ≤ text.length) : stop ≤ text.length := isMatch.le_length inside
  induction expr with
  | empty => exact ⟨fun starts _ stop => by simp [plan, Plan.ends, Matches], bounded _⟩
  | look condition =>
    refine ⟨fun starts _ stop => ?_, bounded _⟩
    simp only [plan, Plan.ends, Matches, Nat.testBit_and, Positions.testBit_ofList,
      List.getElem?_map, surroundings_getElem?, charBefore]
    by_cases within : stop ≤ text.length
    · simp [within]
    · simp [within]
  | one set =>
    refine ⟨fun starts _ stop => ?_, bounded _⟩
    simp only [plan, Plan.ends, Matches, Nat.testBit_shiftLeft, Nat.testBit_and,
      Positions.testBit_ofList, List.getElem?_map]
    cases stop with
    | zero => simp
    | succ position => cases isHere : text[position]? <;> simp [isHere]
  | seq first second firstComputes secondComputes => exact firstComputes.comp secondComputes
  | either left right leftComputes rightComputes =>
    refine ⟨fun starts inside stop => ?_, bounded _⟩
    simp only [plan, Plan.ends, Matches, Nat.testBit_or, Bool.or_eq_true,
      leftComputes.mem_iff starts inside, rightComputes.mem_iff starts inside, and_or_left,
      exists_or]
  | repeated least most? body bodyComputes =>
    -- The repetitions that have to be come first, then those that may be: without a bound up to
    -- saturation, otherwise as many as are left.
    have first := bodyComputes.iterate least
    cases most? with
    | none =>
      refine (first.comp bodyComputes.saturate).congr fun start stop => ?_
      have unbounded := leads_between_iff (body.Matches text) least (fun _ => True) start stop
      simpa [Matches] using unbounded
    | some most =>
      refine (first.comp (bodyComputes.iterate_or (most - least))).congr fun start stop => ?_
      have few (count : Nat) (atLeast : least ≤ count) :
          count - least ≤ most - least ↔ count ≤ max least most := by omega
      rw [← leads_between_iff (body.Matches text) least (fun count => count ≤ most - least) start
        stop]
      simp only [Matches, Option.some.injEq, forall_eq']
      exact exists_congr fun count => and_congr_right fun atLeast =>
        and_congr_left fun _ => (few count atLeast).symm

/-- A match is found exactly if some part of the text is matched. -/
theorem Expr.isMatch_iff (expr : Expr) (text : List Char) :
    expr.isMatch text = true ↔
      ∃ start stop, start ≤ text.length ∧ expr.Matches text start stop := by
  have all : Positions.UpTo text.length (Positions.upTo text.length) := fun position isMember => by
    simpa using isMember
  have reached := (expr.plan_computes text).mem_iff _ all
  simp only [Positions.testBit_upTo, decide_eq_true_eq] at reached
  rw [isMatch, decide_eq_true_iff]
  constructor
  · intro found
    obtain ⟨stop, isStop⟩ := Positions.exists_mem_of_ne_zero found
    obtain ⟨start, within, isMatch⟩ := (reached stop).mp isStop
    exact ⟨start, stop, within, isMatch⟩
  · rintro ⟨start, stop, within, isMatch⟩ nothing
    have isStop := (reached stop).mpr ⟨start, within, isMatch⟩
    rw [nothing, Nat.zero_testBit] at isStop
    cases isStop

end SearchFilter.Regex
