import SearchFilter.Proofs.Rounding

/-!
# Decimals that are read back

The decimal that is written for a finite number is rounded to that number again. It is looked for on
the grids of more and more digits, and a hit on a grid is in reach of the rung of the number. A grid
with eighteen digits is finer than half the reach, so that what is written without a hit is in reach
as well.
-/

namespace SearchFilter

namespace Binary64

section

variable (number : Binary64) (exponent : Int)

/-! ### Grids -/

/-- The significand of a number has at most fifty-three bits in its own unit. -/
theorem magnitude_le (number : Binary64) :
    number.magnitude ≤ 2 ^ 53 * 2 ^ (number.biasedExponent - 1) := by
  have small := number.fraction_lt
  have leading : leadingOne + leadingOne = 2 ^ 53 := rfl
  unfold magnitude
  split
  · rename_i subnormal
    rw [subnormal, Nat.zero_sub, Nat.pow_zero]
    omega
  · rw [Nat.shiftLeft_eq]
    exact Nat.mul_le_mul_right _ (by omega)

/-- The power of ten by which lengths are multiplied on a grid that is finer than one. All lengths
are counted in quarters of `2 ^ (-1074)`. -/
def gridStretch : Nat := 10 ^ (-exponent).toNat

/-- The length between two points of a grid. -/
def gridStep : Nat := 4 * one * 10 ^ exponent.toNat

/-- A quarter of the unit of the last place. -/
def gridUnit : Nat := gridStretch exponent * 2 ^ (number.biasedExponent - 1)

/-- How far below a number what is rounded to it begins. -/
def gridBeneath : Nat :=
  if number.fraction = 0 ∧ 1 < number.biasedExponent then gridUnit number exponent
  else 2 * gridUnit number exponent

/-- Whether a point of a grid is close enough to a number to be rounded to it. -/
structure GridHit (coefficient : Nat) : Prop where
  low : 4 * number.magnitude * gridStretch exponent ≤
    coefficient * gridStep exponent + gridBeneath number exponent
  high : coefficient * gridStep exponent ≤
    4 * number.magnitude * gridStretch exponent + 2 * gridUnit number exponent
  closed : 4 * number.magnitude * gridStretch exponent =
      coefficient * gridStep exponent + gridBeneath number exponent ∨
    coefficient * gridStep exponent =
      4 * number.magnitude * gridStretch exponent + 2 * gridUnit number exponent →
    number.fraction % 2 = 0

/-- A grid is stretched by a positive factor. -/
theorem gridStretch_pos : 0 < gridStretch exponent := Nat.pow_pos (by decide)

/-- A quarter of the unit of the last place is positive on every grid. -/
theorem gridUnit_pos : 0 < gridUnit number exponent :=
  Nat.mul_pos (gridStretch_pos exponent) (Nat.two_pow_pos _)

/-- A grid has a positive step. -/
theorem gridStep_pos : 0 < gridStep exponent :=
  Nat.mul_pos (Nat.mul_pos (by decide) one_pos) (Nat.pow_pos (by decide))

/-- What is rounded to a number begins at least a quarter of the unit of the last place below it. -/
theorem gridUnit_le_gridBeneath : gridUnit number exponent ≤ gridBeneath number exponent := by
  have positive := gridUnit_pos number exponent
  unfold gridBeneath
  split <;> omega

/-- Whether a distance is within a reach, which has its end only where it is closed. -/
theorem within_iff (closed : Prop) [Decidable closed] (distance reach : Nat) :
    (if closed then decide (distance ≤ reach) else decide (distance < reach)) = true ↔
      distance ≤ reach ∧ (distance = reach → closed) := by
  split
  · rename_i isClosed
    simp [isClosed]
  · rename_i isOpen
    simp [isOpen, Nat.lt_iff_le_and_ne]

/-- What is found on a grid is the point before or the point after the number, and a hit. -/
theorem gridHit_of_found (tie : Tie) {coefficient : Nat}
    (found : gridHit? tie number exponent = some coefficient) :
    GridHit number exponent coefficient := by
  have stepPositive := gridStep_pos exponent
  have unitPositive := gridUnit_pos number exponent
  have beneathPositive := gridUnit_le_gridBeneath number exponent
  -- The scan in the words of the grid: everything is counted in one scale in which the number, the
  -- steps of the grid and the reach of the number are whole.
  have unit : Nat.pow 10 (-exponent).toNat <<< (number.biasedExponent - 1) =
      gridUnit number exponent := Nat.shiftLeft_eq _ _
  have step : 4 * one * Nat.pow 10 exponent.toNat = gridStep exponent := rfl
  have value : 4 * number.magnitude * Nat.pow 10 (-exponent).toNat =
      4 * number.magnitude * gridStretch exponent := rfl
  have beneath : (if number.fraction = 0 ∧ 1 < number.biasedExponent then
      gridUnit number exponent else 2 * gridUnit number exponent) =
      gridBeneath number exponent := rfl
  unfold gridHit? at found
  dsimp only at found
  rw [unit, step, value, beneath] at found
  have parts := Nat.div_add_mod' (4 * number.magnitude * gridStretch exponent) (gridStep exponent)
  have small := Nat.mod_lt (4 * number.magnitude * gridStretch exponent) stepPositive
  generalize 4 * number.magnitude * gridStretch exponent / gridStep exponent = floor at found parts
  generalize 4 * number.magnitude * gridStretch exponent % gridStep exponent = rest
    at found parts small
  have next : (floor + 1) * gridStep exponent =
      floor * gridStep exponent + gridStep exponent := Nat.succ_mul _ _
  -- Only two points can be found, and each of them is a hit if its test holds.
  have before (isFloor : coefficient = floor) (reached : rest ≤ gridBeneath number exponent ∧
      (rest = gridBeneath number exponent → number.fraction % 2 = 0)) :
      GridHit number exponent coefficient := by
    subst isFloor
    constructor <;> omega
  have after (isNext : coefficient = floor + 1)
      (reached : gridStep exponent - rest ≤ 2 * gridUnit number exponent ∧
        (gridStep exponent - rest = 2 * gridUnit number exponent → number.fraction % 2 = 0)) :
      GridHit number exponent coefficient := by
    subst isNext
    constructor <;> omega
  -- The two tests are named before the cases, so that the way a tie goes stays out of them.
  generalize floorHits : (if number.fraction % 2 = 0 then
    decide (rest ≤ gridBeneath number exponent) else
    decide (rest < gridBeneath number exponent)) = isFloorHit at found
  generalize ceilingHits : (if number.fraction % 2 = 0 then
    decide (gridStep exponent - rest ≤ 2 * gridUnit number exponent) else
    decide (gridStep exponent - rest < 2 * gridUnit number exponent)) = isCeilingHit at found
  cases isFloorHit with
  | true =>
    rw [if_pos rfl] at found
    have chosen := Option.some.inj found
    cases isCeilingHit with
    | true =>
      have either : coefficient = floor + 1 ∨ coefficient = floor := by
        rw [← chosen]
        exact ite_eq_or_eq _ _ _
      obtain isNext | isFloor := either
      · exact after isNext ((within_iff _ _ _).mp ceilingHits)
      · exact before isFloor ((within_iff _ _ _).mp floorHits)
    | false =>
      rw [Bool.false_and, if_neg Bool.false_ne_true] at chosen
      exact before chosen.symm ((within_iff _ _ _).mp floorHits)
  | false =>
    rw [if_neg Bool.false_ne_true] at found
    split at found
    · rename_i isHit
      exact after (Option.some.inj found).symm ((within_iff _ _ _).mp (ceilingHits.trans isHit))
    · cases found

/-- On a grid that is finer than the reach the last point before a number is a hit. -/
theorem gridHit_of_fine (fine : gridStep exponent ≤ gridUnit number exponent) :
    GridHit number exponent
      (4 * number.magnitude * gridStretch exponent / gridStep exponent) := by
  have parts := Nat.div_add_mod' (4 * number.magnitude * gridStretch exponent) (gridStep exponent)
  have small :=
    Nat.mod_lt (4 * number.magnitude * gridStretch exponent) (gridStep_pos exponent)
  have reach := gridUnit_le_gridBeneath number exponent
  constructor <;> omega

/-- From the rung before, the unit of the last place is half as large at a power of two. -/
theorem rung_before (positive : 0 < number.magnitude) :
    2 * (rung (number.rank - 1) * gridStretch exponent) + gridBeneath number exponent =
      2 * (number.magnitude * gridStretch exponent) := by
  have above : 0 < number.rank := by
    rw [magnitude_eq_rung] at positive
    exact rung_strictMono.lt_iff_lt.mp positive
  have stepped : number.magnitude =
      rung (number.rank - 1) + 2 ^ rungShift (number.rank - 1) := by
    rw [magnitude_eq_rung, ← rung_succ, Nat.sub_add_cancel above]
  have small := number.fraction_lt
  have reach : gridBeneath number exponent =
      2 * (2 ^ rungShift (number.rank - 1) * gridStretch exponent) := by
    unfold gridBeneath gridUnit
    split
    · rename_i power
      have half : number.biasedExponent - 1 = rungShift (number.rank - 1) + 1 := by
        rw [rungShift, rank, leadingOne]
        omega
      rw [half, Nat.pow_succ]
      ac_rfl
    · rename_i inside
      have same : number.biasedExponent - 1 = rungShift (number.rank - 1) := by
        rw [rank] at above
        rw [rungShift, rank]
        rw [leadingOne] at above small ⊢
        omega
      rw [same, Nat.mul_comm (gridStretch exponent)]
  rw [stepped, reach, Nat.add_mul, Nat.mul_add]

/-- The rung above is one unit of the last place away, on every grid. -/
theorem rung_after :
    rung (number.rank + 1) * gridStretch exponent =
      number.magnitude * gridStretch exponent + gridUnit number exponent := by
  have small := number.fraction_lt
  have same : rungShift number.rank = number.biasedExponent - 1 := by
    rw [rungShift, rank]
    rw [leadingOne] at small ⊢
    omega
  rw [rung_succ, ← magnitude_eq_rung, same, Nat.add_mul, gridUnit,
    Nat.mul_comm (gridStretch exponent)]

variable {exponent}

/-- A hit is in reach of the number. -/
theorem GridHit.inReach {number : Binary64} {coefficient : Nat} (positive : 0 < number.magnitude)
    (hit : GridHit number exponent coefficient) :
    InReach number.rank (Decimal.toRat ⟨coefficient, exponent⟩ * one) := by
  have before := rung_before number exponent positive
  have after := rung_after number exponent
  have stretched : 4 * number.magnitude * gridStretch exponent =
      4 * (number.magnitude * gridStretch exponent) := Nat.mul_assoc _ _ _
  let units := coefficient * 10 ^ exponent.toNat * one
  have steps : coefficient * gridStep exponent = 4 * units := by
    simp only [units, gridStep]
    ac_rfl
  have value : Decimal.toRat ⟨coefficient, exponent⟩ * one =
      (units : ℚ) / (gridStretch exponent : Nat) := by
    rw [Decimal.toRat, ten_zpow, ← mul_div_assoc, div_mul_eq_mul_div, Nat.cast_mul, Nat.cast_mul]
    rfl
  have isEven := hit.closed
  have low := hit.low
  have high := hit.high
  rw [stretched, steps] at isEven low high
  rw [fraction_mod_two] at isEven
  rw [value, inReach_div_iff (gridStretch_pos exponent), Nat.add_mul, Nat.add_mul,
    ← magnitude_eq_rung, after]
  refine ⟨?_, ?_, ?_⟩ <;> omega

end

/-! ### The decimal point -/

/-- The estimate of the decimal point from the binary logarithm is at most one too large. -/
theorem ten_zpow_estimate_le {length : Nat} (short : length < 2098) :
    (10 : ℚ) ^ (((length : Int) - 1074) * 30103 / 100000 - 1) * one ≤ 2 ^ length := by
  have whole : ∀ length ∈ List.range 2098,
      Nat.pow 10 (((length : Int) - 1074) * 30103 / 100000 - 1).toNat * one ≤
        2 ^ length * Nat.pow 10 (-(((length : Int) - 1074) * 30103 / 100000 - 1)).toNat := by
    decide +kernel
  rw [ten_zpow, div_mul_eq_mul_div, div_le_iff₀ (Nat.cast_pos.mpr (Nat.pow_pos (by decide)))]
  exact_mod_cast whole length (List.mem_range.mpr short)

/-- A magnitude is compared with a power of ten in integers. -/
theorem lt_ten_zpow_iff (magnitude : Nat) (exponent : Int) :
    magnitude * Nat.pow 10 (-exponent).toNat < one * Nat.pow 10 exponent.toNat ↔
      (magnitude : ℚ) < 10 ^ exponent * one := by
  have positive : 0 < Nat.pow 10 (-exponent).toNat := Nat.pow_pos (by decide)
  rw [ten_zpow, div_mul_eq_mul_div, lt_div_iff₀ (Nat.cast_pos.mpr positive), ← Nat.cast_mul,
    ← Nat.cast_mul, Nat.cast_lt, Nat.mul_comm one]

/-- The decimal point does not stand behind more digits than a magnitude has. -/
theorem ten_zpow_decimalPoint_le {magnitude : Nat} (positive : 0 < magnitude)
    (bounded : magnitude < unbounded) :
    (10 : ℚ) ^ (decimalPoint magnitude - 1) * one ≤ magnitude := by
  have nonzero : magnitude ≠ 0 := Nat.pos_iff_ne_zero.mp positive
  have short : magnitude.log2 < 2098 := by
    by_contra long
    have reached : 2046 ≤ magnitude.log2 - 52 := by omega
    have large := two_pow_le_of_log2 (Nat.lt_of_lt_of_le (by decide) reached)
    rw [Nat.pow_add] at large
    exact absurd (Nat.le_trans (shiftLeft_le (Nat.le_refl leadingOne) reached) large)
      (Nat.not_le.mpr bounded)
  unfold decimalPoint
  dsimp only
  split_ifs with isLow isNext
  · calc (10 : ℚ) ^ (((magnitude.log2 : Int) - 1074) * 30103 / 100000 - 1) * one
        ≤ 2 ^ magnitude.log2 := ten_zpow_estimate_le short
      _ ≤ magnitude := by exact_mod_cast Nat.log2_self_le nonzero
  · rw [decide_eq_true_eq, lt_ten_zpow_iff, not_lt] at isLow
    rwa [add_sub_cancel_right]
  · rw [decide_eq_true_eq, lt_ten_zpow_iff, not_lt] at isNext
    have before (low : Int) : low + 2 - 1 = low + 1 := by omega
    rwa [before]

/-! ### Shortest decimals -/

/-- A grid with eighteen digits is finer than the reach of a number. -/
theorem gridStep_le_gridUnit {number : Binary64} (positive : 0 < number.magnitude)
    (bounded : number.magnitude < unbounded) :
    gridStep (decimalPoint number.magnitude - 18) ≤
      gridUnit number (decimalPoint number.magnitude - 18) := by
  let point := decimalPoint number.magnitude
  have ten : (0 : ℚ) < 10 := by norm_num
  have least : (10 : ℚ) ^ (point - 1) * one ≤ number.magnitude :=
    ten_zpow_decimalPoint_le positive bounded
  have most : (number.magnitude : ℚ) ≤ 2 ^ 53 * 2 ^ (number.biasedExponent - 1) := by
    exact_mod_cast number.magnitude_le
  have split : (10 : ℚ) ^ (point - 1) = 10 ^ (point - 18) * 10 ^ 17 := by
    rw [← zpow_natCast, ← zpow_add₀ ten.ne']
    congr 1
    omega
  have stretchPositive : (0 : ℚ) < (gridStretch (point - 18) : Nat) :=
    Nat.cast_pos.mpr (gridStretch_pos _)
  have scale : (10 : ℚ) ^ (point - 18) * (gridStretch (point - 18) : Nat) =
      (10 ^ (point - 18).toNat : Nat) := by
    rw [ten_zpow]
    exact div_mul_cancel₀ _ stretchPositive.ne'
  have fine : 4 * (10 : ℚ) ^ (point - 18) * one ≤ 2 ^ (number.biasedExponent - 1) := by
    rw [split] at least
    linarith
  have scaled := mul_le_mul_of_nonneg_right fine stretchPositive.le
  have steps : ((gridStep (point - 18) : Nat) : ℚ) ≤ (gridUnit number (point - 18) : Nat) := by
    rw [gridStep, gridUnit, Nat.cast_mul, Nat.cast_mul, Nat.cast_mul, ← scale, Nat.cast_pow,
      Nat.cast_ofNat, Nat.cast_ofNat]
    linarith
  exact Nat.cast_le.mp steps

/-- Whatever number of digits the search starts with, what it ends with is in reach. -/
theorem inReach_shortestFrom (tie : Tie) {number : Binary64} (positive : 0 < number.magnitude)
    (bounded : number.magnitude < unbounded) (more : Nat) :
    ∀ count : Nat, count + more = 18 →
      InReach number.rank
        ((shortestFrom tie number (decimalPoint number.magnitude) count more).toRat * one) := by
  induction more with
  | zero =>
    intro count isLast
    obtain rfl : count = 18 := isLast
    have hit := gridHit_of_fine number _ (gridStep_le_gridUnit positive bounded)
    have reaches := hit.inReach positive
    have reversed : -(decimalPoint number.magnitude - 18) =
        (18 : Nat) - decimalPoint number.magnitude := by omega
    rw [gridStep, gridStretch, reversed, Nat.mul_assoc, Nat.mul_assoc,
      Nat.mul_div_mul_left _ _ (by decide)] at reaches
    exact reaches
  | succ more induction =>
    intro count remaining
    unfold shortestFrom
    split
    · rename_i coefficient found
      exact (gridHit_of_found number _ tie found).inReach positive
    · exact induction (count + 1) (by omega)

/-- Taking zeros off the end of a decimal and raising its exponent keeps its value. -/
theorem toRat_trimZeros (places : Nat) (decimal : Decimal) :
    (Decimal.trimZeros places decimal).toRat = decimal.toRat := by
  induction places generalizing decimal with
  | zero => rfl
  | succ places induction =>
    unfold Decimal.trimZeros
    split
    · rename_i divisible
      have parts : (decimal.coefficient / 10 : Nat) * 10 = decimal.coefficient :=
        Nat.div_mul_cancel (Nat.dvd_of_mod_eq_zero divisible)
      rw [induction, Decimal.toRat, Decimal.toRat, zpow_add_one₀ (by norm_num), mul_comm (10 ^ _),
        ← mul_assoc]
      congr 1
      exact_mod_cast parts
    · rfl

/-- The shortest decimal of a finite number is in reach of its rung. -/
theorem inReach_shortest (tie : Tie) {number : Binary64} (finite : number.isFinite = true) :
    InReach number.rank ((number.shortest tie).toRat * one) := by
  have bounded : number.magnitude < unbounded := by
    rw [magnitude_eq_rung, ← rung_infinityRank]
    exact rung_strictMono ((isFinite_iff_rank number).mp finite)
  unfold shortest
  split
  · rename_i isZero
    have lowest : number.rank = 0 := by
      rw [magnitude_eq_rung] at isZero
      exact rung_strictMono.injective isZero
    have value : Decimal.toRat ⟨0, 0⟩ * one = 0 := by
      rw [Decimal.toRat, Nat.cast_zero, zero_mul, zero_mul]
    rw [lowest, value]
    exact inReach_zero le_rfl (by norm_num)
  · rename_i nonzero
    rw [toRat_trimZeros]
    exact inReach_shortestFrom tie (Nat.pos_iff_ne_zero.mpr nonzero) bounded 17 1 rfl

/-- The shortest decimal of a finite number with a clear sign bit is rounded to it and to no other
number. -/
theorem rounds_shortest_iff (tie : Tie) {number : Binary64} (finite : number.isFinite = true)
    (positive : number.negative = false) (other : Binary64) :
    Rounds (number.shortest tie).toRat other ↔ other = number := by
  have nonneg := (number.shortest tie).toRat_nonneg
  have rounds := (inReach_shortest tie finite).rounds finite positive
  constructor
  · intro otherRounds
    exact otherRounds.unique nonneg rounds
  · rintro rfl
    exact rounds

end Binary64

end SearchFilter
