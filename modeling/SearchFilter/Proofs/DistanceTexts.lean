import SearchFilter.Proofs.CircleBodies
import SearchFilter.Proofs.PaddedTexts
import SearchFilter.Proofs.ShortestDecimals

/-!
# Texts of distances

A distance is read from a number with an optional unit behind it, with white space at the ends and
in the middle, and from nothing else. The number is written with digits and at most one point; it is
rounded once before it is multiplied with the unit. A radius that is given as a number is written
out first: what is negative, infinite or not a number cannot be read back, and every other number is
read back as itself.
-/

namespace SearchFilter

/-- Whether a text consists of digits and at most one point, with at least one digit, and the value
that it has. -/
inductive Numeral : List Char → ℚ → Prop
  | whole {digits : List Char} (nonempty : digits ≠ [])
      (isDigit : ∀ c ∈ digits, c.isDigit = true) :
      Numeral digits (Decimal.valueOf digits)
  | pointed {whole part : List Char} (nonempty : whole ++ part ≠ [])
      (isDigit : ∀ c ∈ whole ++ part, c.isDigit = true) :
      Numeral (whole ++ '.' :: part) (Decimal.valueOf (whole ++ part) / 10 ^ part.length)

namespace Distance

/-- What a number counts as under a name: meters if there is no name, and otherwise the product with
the length of the unit that has the name. -/
inductive Measures (number : Binary64) : String → Binary64 → Prop
  | meters : Measures number "" number
  | unit {name : String} {length : Decimal} {factor : Binary64}
      (listed : (name, length) ∈ units) (rounds : Binary64.Rounds length.toRat factor) :
      Measures number name (number.mul factor)

/-- Whether a text spells a distance in meters: a numeral and then the name of a unit or nothing,
with white space around them. -/
def Spells (text : String) (meters : Binary64) : Prop :=
  ∃ before number gap name after value rounded,
    text.toList = before ++ number ++ gap ++ name.toList ++ after ∧
      Text.Blank before ∧ Text.Blank gap ∧ Text.Blank after ∧
        Numeral number value ∧ Binary64.Rounds value rounded ∧ Measures rounded name meters

end Distance

/-! ### Numerals -/

/-- Digits are read as far as they go, up to the first character that is none. -/
theorem Decimal.spanDigits_append {digits rest : List Char}
    (isDigit : ∀ c ∈ digits, c.isDigit = true) (ends : ∀ c ∈ rest.head?, c.isDigit = false) :
    spanDigits (digits ++ rest) = (digits, rest) := by
  obtain ⟨front, behind⟩ := Text.cut_append isDigit ends
  rw [spanDigits, front, behind]

/-- Digits only. -/
theorem Decimal.scan?_of_whole {text whole : List Char} (nonempty : whole ≠ [])
    (spanned : spanDigits text = (whole, [])) : scan? text = some ⟨valueOf whole, 0⟩ := by
  unfold scan?
  rw [spanned]
  simp [nonempty]

/-- Digits, a point and digits. -/
theorem Decimal.scan?_of_pointed {text whole rest part : List Char} (nonempty : whole ++ part ≠ [])
    (spanned : spanDigits text = (whole, '.' :: rest))
    (spannedPart : spanDigits rest = (part, [])) :
    scan? text = some ⟨valueOf (whole ++ part), -part.length⟩ := by
  have someDigit : (whole.isEmpty && part.isEmpty) = false := by
    rw [← Bool.not_eq_true, Bool.and_eq_true, List.isEmpty_iff, List.isEmpty_iff]
    rintro ⟨rfl, rfl⟩
    exact nonempty rfl
  unfold scan?
  rw [spanned]
  simp only [spannedPart, someDigit, Bool.false_eq_true, if_false, Int.zero_sub]

namespace Numeral

variable {text : List Char} {value : ℚ}

/-- A numeral is scanned, with its value. -/
theorem exists_scan (numeral : Numeral text value) :
    ∃ decimal, Decimal.scan? text = some decimal ∧ decimal.toRat = value := by
  have spannedDigits {digits : List Char} (isDigit : ∀ c ∈ digits, c.isDigit = true) :
      Decimal.spanDigits digits = (digits, []) := by
    have parts := @Decimal.spanDigits_append digits [] isDigit nofun
    rwa [List.append_nil] at parts
  cases numeral with
  | whole nonempty isDigit =>
    refine ⟨_, Decimal.scan?_of_whole nonempty (spannedDigits isDigit), ?_⟩
    rw [Decimal.toRat, zpow_zero, mul_one]
  | @pointed whole part nonempty isDigit =>
    have spanned : Decimal.spanDigits (whole ++ '.' :: part) = (whole, '.' :: part) := by
      apply Decimal.spanDigits_append
      · exact fun c member => isDigit c (List.mem_append_left _ member)
      · intro c isHead
        obtain rfl := Option.some.inj isHead
        rfl
    have spannedPart : Decimal.spanDigits part = (part, []) :=
      spannedDigits fun c member => isDigit c (List.mem_append_right _ member)
    refine ⟨_, Decimal.scan?_of_pointed nonempty spanned spannedPart, ?_⟩
    rw [Decimal.toRat, zpow_neg, zpow_natCast, div_eq_mul_inv]

/-- A text spells at most one number. -/
theorem unique {other : ℚ} (numeral : Numeral text value) (otherNumeral : Numeral text other) :
    value = other := by
  obtain ⟨decimal, scanned, rfl⟩ := numeral.exists_scan
  obtain ⟨otherDecimal, otherScanned, rfl⟩ := otherNumeral.exists_scan
  rw [Option.some.inj (scanned.symm.trans otherScanned)]

/-- A number is not spelled by nothing: there is a digit before the point, after it, or alone. -/
theorem nonempty (numeral : Numeral text value) : text ≠ [] := by
  cases numeral with
  | whole nonempty => exact nonempty
  | pointed => exact List.append_ne_nil_of_right_ne_nil _ (List.cons_ne_nil _ _)

/-- A number is spelled with digits and points alone, which is how its end is found before it is
read. -/
theorem isNumeric (numeral : Numeral text value) :
    ∀ c ∈ text, Text.isNumeric c = true := by
  intro c member
  rw [Text.isNumeric_iff]
  cases numeral with
  | whole _ isDigit => exact .inl (isDigit c member)
  | pointed _ isDigit =>
    rw [List.mem_append, List.mem_cons] at member
    obtain inWhole | isPoint | inPart := member
    · exact .inl (isDigit c (List.mem_append_left _ inWhole))
    · exact .inr isPoint
    · exact .inl (isDigit c (List.mem_append_right _ inPart))

/-- Digits end at the end of a text or at a point. -/
theorem exists_spanDigits (numeric : ∀ c ∈ text, Text.isNumeric c = true) :
    ∃ digits rest, text = digits ++ rest ∧ Decimal.spanDigits text = (digits, rest) ∧
      (∀ c ∈ digits, c.isDigit = true) ∧ (rest = [] ∨ ∃ others, rest = '.' :: others) := by
  refine ⟨text.takeWhile Char.isDigit, text.dropWhile Char.isDigit,
    List.takeWhile_append_dropWhile.symm, rfl, fun c => List.mem_takeWhile_imp, ?_⟩
  cases isRest : text.dropWhile Char.isDigit with
  | nil => exact .inl rfl
  | cons c others =>
    have stops : c.isDigit = false := by
      have first := List.head?_dropWhile_not Char.isDigit text
      rw [isRest] at first
      simpa using first
    have member : c ∈ text := by
      rw [← List.takeWhile_append_dropWhile (p := Char.isDigit) (l := text), isRest]
      simp
    have isPoint : c = '.' := by
      simpa [Text.isNumeric, stops] using numeric c member
    exact .inr ⟨others, by rw [isPoint]⟩

/-- What is scanned from digits and points is a numeral. -/
theorem of_scan (numeric : ∀ c ∈ text, Text.isNumeric c = true) {decimal : Decimal}
    (scanned : Decimal.scan? text = some decimal) : Numeral text decimal.toRat := by
  obtain ⟨whole, rest, rfl, spanned, wholeDigits, rfl | ⟨others, rfl⟩⟩ := exists_spanDigits numeric
  · have nonempty : whole ≠ [] := by
      rintro rfl
      cases scanned
    rw [Decimal.scan?_of_whole nonempty spanned] at scanned
    obtain rfl := Option.some.inj scanned
    rw [List.append_nil, Decimal.toRat, zpow_zero, mul_one]
    exact .whole nonempty wholeDigits
  · have otherNumeric : ∀ c ∈ others, Text.isNumeric c = true := fun c member =>
      numeric c (List.mem_append_right _ (List.mem_cons_of_mem _ member))
    obtain ⟨part, ending, rfl, spannedPart, partDigits, rfl | ⟨more, rfl⟩⟩ :=
      exists_spanDigits otherNumeric
    · have nonempty : whole ++ part ≠ [] := by
        intro isEmpty
        obtain ⟨rfl, rfl⟩ := List.append_eq_nil_iff.mp isEmpty
        cases scanned
      rw [Decimal.scan?_of_pointed nonempty spanned spannedPart] at scanned
      obtain rfl := Option.some.inj scanned
      rw [List.append_nil, Decimal.toRat, zpow_neg, zpow_natCast, ← div_eq_mul_inv]
      exact .pointed nonempty (List.forall_mem_append.mpr ⟨wholeDigits, partDigits⟩)
    · -- A second point is not the marker of an exponent.
      unfold Decimal.scan? at scanned
      rw [spanned] at scanned
      simp only [spannedPart] at scanned
      split at scanned
      · cases scanned
      · cases scanned

end Numeral

namespace Distance

open Text (isNumeric)

/-! ### Units -/

/-- A unit is found under its name, which no other unit has. -/
theorem unit?_of_mem {unit : String × Decimal} (listed : unit ∈ units) :
    unit? unit.1 = some (.ofDecimal false unit.2.coefficient unit.2.exponent) := by
  have found : ∀ unit ∈ units, (units.find? fun other => other.1 = unit.1) = some unit := by
    decide +kernel
  rw [unit?, found unit listed, Option.map_some]

/-- Every unit is a finite number of meters. -/
theorem isFinite_unit : ∀ unit ∈ units,
    (Binary64.ofDecimal false unit.2.coefficient unit.2.exponent).isFinite = true := by
  decide +kernel

/-- The names of units are not empty, and none of their signs can stand in a numeral or is white
space. -/
theorem name_of_unit {unit : String × Decimal} (listed : unit ∈ units) :
    unit.1 ≠ "" ∧ ∀ c ∈ unit.1.toList, isNumeric c = false ∧ Text.isWhiteSpace c = false := by
  have checked : ∀ unit ∈ units, unit.1 ≠ "" ∧ (unit.1.toList.all fun c =>
      !isNumeric c && decide (33 ≤ c.toNat) && decide (c.toNat ≤ 126)) = true := by
    decide +kernel
  obtain ⟨named, visible⟩ := checked unit listed
  refine ⟨named, fun c member => ?_⟩
  have sign := List.all_eq_true.mp visible c member
  rw [Bool.and_eq_true, Bool.and_eq_true, Bool.not_eq_true', decide_eq_true_eq,
    decide_eq_true_eq] at sign
  exact ⟨sign.1.1, Text.not_isWhiteSpace_of_visible sign.1.2 sign.2⟩

/-- Behind a name a number measures its product with the unit of that name, if there is one. -/
theorem measures_unit_iff {name : String} (named : name ≠ "") (number meters : Binary64) :
    Measures number name meters ↔ (unit? name).map number.mul = some meters := by
  constructor
  · intro measures
    cases measures with
    | meters => exact absurd rfl named
    | unit listed rounds =>
      have factor := ((Binary64.rounds_decimal_iff _ _).mp rounds).1
      rw [unit?_of_mem listed, factor, Option.map_some]
  · intro found
    obtain ⟨factor, isUnit, rfl⟩ := Option.map_eq_some_iff.mp found
    obtain ⟨unit, search, rfl⟩ := Option.map_eq_some_iff.mp isUnit
    have listed : unit ∈ units := List.mem_of_find?_eq_some search
    have isName : unit.1 = name := by simpa using List.find?_some search
    subst isName
    refine .unit listed ?_
    exact (Binary64.rounds_decimal_iff _ _).mpr ⟨rfl, isFinite_unit unit listed⟩

/-- What a number measures is settled by the name behind it, and without a name it is the number
itself. -/
theorem measures_iff (number : Binary64) (name : String) (meters : Binary64) :
    Measures number name meters ↔
      (if name = "" then some number else (unit? name).map number.mul) = some meters := by
  split
  · rename_i unnamed
    subst unnamed
    rw [Option.some_inj]
    constructor
    · intro measures
      cases measures with
      | meters => rfl
      | unit listed => exact absurd rfl (name_of_unit listed).1
    · rintro rfl
      exact .meters
  · rename_i named
    exact measures_unit_iff named number meters

/-! ### Reading -/

/-- What is read from a number and the name behind it. -/
def measured? (number : List Char) (name : String) : Option Binary64 :=
  match Decimal.scan? number with
  | none => none
  | some number =>
    let value := Binary64.ofDecimal false number.coefficient number.exponent
    if !value.isFinite then none
    else if name = "" then some value
    else (unit? name).map value.mul

/-- The name behind the number at the front of a text. -/
def nameOf (trimmed : List Char) : List Char := Text.trim (trimmed.dropWhile isNumeric)

/-- Reading a distance takes the white space off, then the signs of a number, and looks up what
remains as a unit. -/
theorem meters?_eq (text : String) :
    meters? text = measured? ((Text.trim text.toList).takeWhile isNumeric)
      (String.ofList (nameOf (Text.trim text.toList))) := rfl

/-- A number with a name is read exactly if the number is a numeral that is rounded to a finite
number. -/
theorem measured?_eq_some_iff {number : List Char} (numeric : ∀ c ∈ number, isNumeric c = true)
    (name : String) (meters : Binary64) :
    measured? number name = some meters ↔
      ∃ value rounded, Numeral number value ∧ Binary64.Rounds value rounded ∧
        Measures rounded name meters := by
  constructor
  · intro read
    unfold measured? at read
    split at read
    · cases read
    · rename_i decimal scanned
      dsimp only at read
      split at read
      · cases read
      · rename_i notInfinite
        have finite : (Binary64.ofDecimal false decimal.coefficient decimal.exponent).isFinite =
            true := by simpa using notInfinite
        exact ⟨decimal.toRat, _, .of_scan numeric scanned,
          (Binary64.rounds_decimal_iff _ _).mpr ⟨rfl, finite⟩, (measures_iff _ _ _).mpr read⟩
  · rintro ⟨value, rounded, numeral, rounds, measures⟩
    obtain ⟨decimal, scanned, rfl⟩ := numeral.exists_scan
    obtain ⟨rfl, finite⟩ := (Binary64.rounds_decimal_iff _ _).mp rounds
    unfold measured?
    rw [scanned]
    simp only [finite, Bool.not_true, Bool.false_eq_true, if_false]
    exact (measures_iff _ _ _).mp measures

/-- A number is separated from the name behind it. -/
theorem parts_of_spelled {number gap name : List Char} (numeric : ∀ c ∈ number, isNumeric c = true)
    (blank : Text.Blank gap) (ends : ∀ c ∈ (gap ++ name).head?, isNumeric c = false)
    (tight : Text.Tight name) :
    (number ++ (gap ++ name)).takeWhile isNumeric = number ∧
      nameOf (number ++ (gap ++ name)) = name := by
  obtain ⟨front, behind⟩ := Text.cut_append numeric ends
  refine ⟨front, ?_⟩
  have trimmed := Text.trim_padded blank tight Text.blank_nil
  rw [List.append_nil] at trimmed
  rw [nameOf, behind, trimmed]

section

variable {text : String} {before number gap after : List Char} {value : ℚ}
  (blankBefore : Text.Blank before) (blankGap : Text.Blank gap) (blankAfter : Text.Blank after)
  (numeral : Numeral number value)
include blankBefore blankGap blankAfter numeral

/-- A numeral without a name is read by itself. -/
theorem meters?_of_unnamed (spelled : text.toList = before ++ number ++ (gap ++ after)) :
    meters? text = measured? number "" := by
  have trimmed : Text.trim text.toList = number ++ ([] ++ []) := by
    rw [spelled, Text.trim_padded blankBefore (Text.tight_of_isNumeric numeral.isNumeric)
      (blankGap.append blankAfter), List.append_nil, List.append_nil]
  obtain ⟨isNumber, isName⟩ :=
    @parts_of_spelled number [] [] numeral.isNumeric Text.blank_nil nofun ⟨nofun, nofun⟩
  rw [meters?_eq, trimmed, isNumber, isName]

/-- A numeral with the name of a unit is separated from it by the first sign that cannot stand in a
numeral. -/
theorem meters?_of_named {unit : String × Decimal} (listed : unit ∈ units)
    (spelled : text.toList = before ++ (number ++ gap ++ unit.1.toList) ++ after) :
    meters? text = measured? number unit.1 := by
  obtain ⟨named, signs⟩ := name_of_unit listed
  have solid : Text.Tight unit.1.toList := Text.tight_of_forall fun c member => (signs c member).2
  have notNumeric : ∀ c ∈ gap ++ unit.1.toList, isNumeric c = false := by
    intro c member
    obtain inGap | inName := List.mem_append.mp member
    · by_contra numeric
      have notBlank := Text.not_isWhiteSpace_of_isNumeric (Bool.of_not_eq_false numeric)
      rw [blankGap c inGap] at notBlank
      cases notBlank
    · exact (signs c inName).1
  have tight := (Text.tight_of_isNumeric numeral.isNumeric).around solid numeral.nonempty
    (fun empty => named (String.toList_eq_nil_iff.mp empty)) gap
  have trimmed : Text.trim text.toList = number ++ (gap ++ unit.1.toList) := by
    rw [spelled, Text.trim_padded blankBefore tight blankAfter, List.append_assoc]
  obtain ⟨isNumber, isName⟩ := parts_of_spelled numeral.isNumeric blankGap
    (fun c isHead => notNumeric c (List.mem_of_mem_head? isHead)) solid
  rw [meters?_eq, trimmed, isNumber, isName, String.ofList_toList]

end

/-- A text is read exactly if it spells a distance. -/
theorem meters?_eq_some_iff_spells (text : String) (meters : Binary64) :
    meters? text = some meters ↔ Spells text meters := by
  constructor
  · intro read
    have numeric : ∀ c ∈ (Text.trim text.toList).takeWhile isNumeric, isNumeric c = true :=
      fun c => List.mem_takeWhile_imp
    rw [meters?_eq, measured?_eq_some_iff numeric] at read
    obtain ⟨value, rounded, numeral, rounds, measures⟩ := read
    obtain ⟨before, after, padded, blankBefore, blankAfter⟩ := Text.exists_padding text.toList
    obtain ⟨gap, ending, separated, blankGap, blankEnding⟩ :=
      Text.exists_padding ((Text.trim text.toList).dropWhile isNumeric)
    refine ⟨before, _, gap, _, ending ++ after, value, rounded, ?_, blankBefore, blankGap,
      blankEnding.append blankAfter, numeral, rounds, measures⟩
    have parts := List.takeWhile_append_dropWhile (p := isNumeric) (l := Text.trim text.toList)
    rw [separated] at parts
    rw [String.toList_ofList, nameOf]
    calc text.toList
        = before ++ Text.trim text.toList ++ after := padded
      _ = before ++ ((Text.trim text.toList).takeWhile isNumeric ++
            (gap ++ nameOf (Text.trim text.toList) ++ ending)) ++ after := by rw [nameOf, parts]
      _ = _ := by simp only [nameOf, List.append_assoc]
  · rintro ⟨before, number, gap, name, after, value, rounded, spelled, blankBefore, blankGap,
      blankAfter, numeral, rounds, measures⟩
    have isRead : meters? text = measured? number name := by
      cases measures with
      | meters =>
        refine meters?_of_unnamed blankBefore blankGap blankAfter numeral ?_
        simpa using spelled
      | unit listed _ =>
        refine meters?_of_named blankBefore blankGap blankAfter numeral listed ?_
        simpa using spelled
    rw [isRead, measured?_eq_some_iff numeral.isNumeric]
    exact ⟨value, rounded, numeral, rounds, measures⟩

/-- A numeral by itself is read as the number to which it is rounded. -/
theorem meters?_of_numeral {text : String} {value : ℚ} (numeral : Numeral text.toList value)
    (meters : Binary64) : meters? text = some meters ↔ Binary64.Rounds value meters := by
  have spelled : text.toList = [] ++ text.toList ++ ([] ++ []) := by simp
  rw [meters?_of_unnamed Text.blank_nil Text.blank_nil Text.blank_nil numeral spelled,
    measured?_eq_some_iff numeral.isNumeric]
  constructor
  · rintro ⟨other, rounded, otherNumeral, rounds, measures⟩
    obtain rfl := numeral.unique otherNumeral
    obtain rfl := Option.some.inj ((measures_iff rounded "" meters).mp measures)
    exact rounds
  · intro rounds
    exact ⟨value, meters, numeral, rounds, .meters⟩

/-- A text that begins with another visible sign is not read. -/
theorem meters?_of_head {text : String} {c : Char} {rest : List Char}
    (begins : text.toList = c :: rest)
    (other : isNumeric c = false ∧ 33 ≤ c.toNat ∧ c.toNat ≤ 126) : meters? text = none := by
  obtain ⟨notNumeric, low, high⟩ := other
  have notBlank := Text.not_isWhiteSpace_of_visible low high
  refine Option.eq_none_iff_forall_ne_some.mpr fun meters read => ?_
  obtain ⟨before, number, gap, name, after, value, rounded, spelled, blank, -, -, numeral, -, -⟩ :=
    (meters?_eq_some_iff_spells text meters).mp read
  rw [begins] at spelled
  cases before with
  | cons first before =>
    obtain rfl : c = first := by simpa using (List.cons.inj spelled).1
    rw [blank c List.mem_cons_self] at notBlank
    cases notBlank
  | nil =>
    cases number with
    | nil => exact numeral.nonempty rfl
    | cons first number =>
      obtain rfl : c = first := by simpa using (List.cons.inj spelled).1
      rw [numeral.isNumeric c List.mem_cons_self] at notNumeric
      cases notNumeric

end Distance

/-! ### Numbers as radii -/

/-- Every zero behind the digits of a number multiplies it by ten. -/
theorem Decimal.valueOf_append_zeros (digits : List Char) (count : Nat) :
    valueOf (digits ++ List.replicate count '0') = valueOf digits * 10 ^ count := by
  rw [valueOf_eq_ofDigitChars, Nat.ofDigitChars_append, Nat.ofDigitChars_replicate_zero,
    valueOf_eq_ofDigitChars, Nat.mul_comm]

/-- Zeros in front of the digits of a number change nothing. -/
theorem Decimal.valueOf_zeros_append (digits : List Char) (count : Nat) :
    valueOf (List.replicate count '0' ++ digits) = valueOf digits := by
  rw [valueOf_eq_ofDigitChars, Nat.ofDigitChars_append, Nat.ofDigitChars_replicate_zero,
    valueOf_eq_ofDigitChars, Nat.mul_zero]

/-- Digits with a point in front of as many of them as the exponent says. -/
theorem Decimal.numeral_pointed (decimal : Decimal) {whole part : List Char}
    (nonempty : whole ++ part ≠ []) (isDigit : ∀ c ∈ whole ++ part, c.isDigit = true)
    (value : valueOf (whole ++ part) = decimal.coefficient)
    (places : (part.length : Int) = -decimal.exponent) :
    Numeral (whole ++ '.' :: part) decimal.toRat := by
  have exponent : decimal.exponent = -(part.length : Int) := by omega
  have quotient : decimal.toRat = valueOf (whole ++ part) / 10 ^ part.length := by
    rw [toRat, exponent, zpow_neg, zpow_natCast, value, div_eq_mul_inv]
  rw [quotient]
  exact .pointed nonempty isDigit

/-- A decimal is written without an exponent as a numeral of its value. -/
theorem Decimal.numeral_positional (decimal : Decimal) :
    Numeral decimal.positional decimal.toRat := by
  have isDigit : ∀ c ∈ decimal.digits, c.isDigit = true := fun c => isDigit_of_mem_toDigits
  have nonempty : decimal.digits ≠ [] := Nat.toDigits_ne_nil
  have value : valueOf decimal.digits = decimal.coefficient := valueOf_toDigits _
  have zeros (count : Nat) : ∀ c ∈ List.replicate count '0', c.isDigit = true := by
    intro c member
    rw [List.eq_of_mem_replicate member]
    rfl
  have isPoint : decimal.point = decimal.digits.length + decimal.exponent := rfl
  unfold positional
  dsimp only
  -- The point stands behind all digits, between two of them, or before all of them.
  split_ifs with isWhole isPointed
  · have whole : decimal.toRat =
        valueOf (decimal.digits ++ List.replicate decimal.exponent.toNat '0') := by
      rw [valueOf_append_zeros, value, Nat.cast_mul, Nat.cast_pow, Nat.cast_ofNat, ← zpow_natCast,
        Int.toNat_of_nonneg isWhole, toRat]
    rw [whole]
    exact .whole (List.append_ne_nil_of_left_ne_nil nonempty _)
      (List.forall_mem_append.mpr ⟨isDigit, zeros _⟩)
  · have split := List.take_append_drop decimal.point.toNat decimal.digits
    apply numeral_pointed
    · rwa [split]
    · rwa [split]
    · rwa [split]
    · rw [List.length_drop]
      omega
  · have digits : ['0'] ++ (List.replicate (-decimal.point).toNat '0' ++ decimal.digits) =
        List.replicate ((-decimal.point).toNat + 1) '0' ++ decimal.digits := rfl
    refine @numeral_pointed decimal ['0']
      (List.replicate (-decimal.point).toNat '0' ++ decimal.digits) ?_ ?_ ?_ ?_
    · exact List.cons_ne_nil _ _
    · rw [digits]
      exact List.forall_mem_append.mpr ⟨zeros _, isDigit⟩
    · rw [digits, valueOf_zeros_append, value]
    · rw [List.length_append, List.length_replicate]
      omega

namespace Distance

open Resolve (radiusText)
open Text (isNumeric)

/-- An integer is written out, and read back unless it is negative. -/
theorem meters?_of_integer (value : Int) (meters : Binary64) :
    meters? (radiusText (.scalar (.int value))) = some meters ↔
      0 ≤ value ∧ Binary64.Rounds value meters := by
  cases value with
  | ofNat value =>
    have digits : (radiusText (.scalar (.int value))).toList = Nat.toDigits 10 value := by
      change (toString value).toList = _
      rw [Nat.toString_eq_ofList_toDigits, String.toList_ofList]
    have numeral : Numeral (Nat.toDigits 10 value) (Decimal.valueOf (Nat.toDigits 10 value)) :=
      .whole Nat.toDigits_ne_nil fun c => Decimal.isDigit_of_mem_toDigits
    rw [Decimal.valueOf_toDigits, ← digits] at numeral
    have nonneg : 0 ≤ Int.ofNat value := Int.natCast_nonneg value
    exact (meters?_of_numeral numeral meters).trans (and_iff_right nonneg).symm
  | negSucc value =>
    have begins : (radiusText (.scalar (.int (.negSucc value)))).toList =
        '-' :: (toString (value + 1)).toList := String.toList_append
    rw [meters?_of_head begins (by decide)]
    refine iff_of_false nofun fun accepted => ?_
    exact absurd accepted.1 (Int.not_le.mpr (Int.negSucc_lt_zero value))

/-- The text of a number that is finite and not negative is a numeral, and that of any other number
begins with another sign. -/
theorem toList_plain (number : Binary64) :
    (number.isFinite = true ∧ number.negative = false ∧
        number.plain.toList = (number.shortest .up).positional) ∨
      ¬(number.isFinite = true ∧ number.negative = false) ∧ ∃ c rest,
        number.plain.toList = c :: rest ∧ isNumeric c = false ∧ 33 ≤ c.toNat ∧ c.toNat ≤ 126 := by
  have written : number.plain.toList =
      if number.isNaN then "NaN".toList
      else if number.negative then
        '-' :: if number.isInfinite then "inf".toList else (number.shortest .up).positional
      else if number.isInfinite then "inf".toList else (number.shortest .up).positional := by
    unfold Binary64.plain
    split
    · rfl
    · rw [String.toList_ofList]
  -- What is no number or is infinite is written as a word, and what is negative begins with a
  -- minus.
  rw [written]
  by_cases isNaN : number.isNaN = true
  · right
    rw [if_pos isNaN]
    refine ⟨fun fit => ?_, 'N', _, rfl, by decide⟩
    rw [Binary64.isNaN_of_isFinite number fit.1] at isNaN
    cases isNaN
  · rw [if_neg isNaN]
    by_cases isNegative : number.negative = true
    · right
      rw [if_pos isNegative]
      exact ⟨fun fit => absurd (fit.2.symm.trans isNegative) Bool.false_ne_true, '-', _, rfl,
        by decide⟩
    · rw [if_neg isNegative]
      by_cases isInfinite : number.isInfinite = true
      · right
        rw [if_pos isInfinite]
        refine ⟨fun fit => ?_, 'i', _, rfl, by decide⟩
        simp_all [Binary64.isFinite, Binary64.isInfinite]
      · left
        rw [if_neg isInfinite]
        refine ⟨?_, Bool.eq_false_of_not_eq_true isNegative, rfl⟩
        by_contra notFinite
        simp_all [Binary64.isFinite, Binary64.isInfinite, Binary64.isNaN]

/-- A number is written out, and read back as itself unless it is negative or not finite. -/
theorem meters?_of_real (number meters : Binary64) :
    meters? (radiusText (.scalar (.float number))) = some meters ↔
      number.isFinite = true ∧ number.negative = false ∧ meters = number := by
  change meters? number.plain = some meters ↔ _
  obtain ⟨finite, positive, written⟩ | ⟨unfit, c, rest, begins, other⟩ := toList_plain number
  · have numeral := (number.shortest .up).numeral_positional
    rw [← written] at numeral
    rw [meters?_of_numeral numeral, Binary64.rounds_shortest_iff .up finite positive]
    exact ⟨fun same => ⟨finite, positive, same⟩, fun accepted => accepted.2.2⟩
  · rw [meters?_of_head begins other]
    exact iff_of_false nofun fun accepted => unfit ⟨accepted.1, accepted.2.1⟩

/-- A radius that is a number is read as that number unless it is negative or not finite. -/
theorem meters?_of_number {radius : Value} {number : Binary64}
    (isNumber : radius.number? = some number) (meters : Binary64) :
    meters? (radiusText radius) = some meters ↔
      number.isFinite = true ∧ number.negative = false ∧ meters = number := by
  cases radius with
  | scalar literal =>
    cases literal with
    | int value =>
      obtain rfl := Option.some.inj isNumber
      rw [meters?_of_integer]
      constructor
      · rintro ⟨nonneg, rounds⟩
        obtain ⟨rfl, finite⟩ := (Binary64.rounds_integer_iff nonneg meters).mp rounds
        exact ⟨finite, rounds.positive, rfl⟩
      · rintro ⟨finite, positive, rfl⟩
        have nonneg : 0 ≤ value := by
          by_contra negative
          have signed := Binary64.negative_ofInt (Int.not_le.mp negative) finite
          rw [positive] at signed
          cases signed
        exact ⟨nonneg, (Binary64.rounds_integer_iff nonneg _).mpr ⟨rfl, finite⟩⟩
    | float value =>
      obtain rfl := Option.some.inj isNumber
      exact meters?_of_real _ meters
    | bool value => cases isNumber
    | str value => cases isNumber
  | _ => cases isNumber

/-! ### Circles -/

/-- A circle around a valid center is a test exactly if its radius is read, and a refusal with the
text of the radius otherwise. -/
theorem aroundPoint_eq (field : String) {center : Value} (radius : Value) {place : GeoPoint}
    (placed : Resolve.point field center = .ok place) :
    Resolve.aroundPoint field center (some radius) =
      if (meters? (radiusText radius)).isNone then
        .error (.invalidOperand field (.notDistance (radiusText radius)))
      else .ok (.geoDistance place (radiusText radius)) := by
  unfold Resolve.aroundPoint
  rw [placed]
  simp only [bind, Except.bind]
  split <;> rfl

/-- A condition on a circle that compiles has a radius that is read. -/
theorem isSome_meters?_of_compile {key : String} (isField : Combinator.ofKey? key = none)
    {center : Value} {radius : Option Value} {entries : List (Operator × Value)}
    (form : CircleForm center radius entries) {fields : FieldContext} {capabilities : Capabilities}
    {limit : Nat} {compiled : CompiledQuery}
    (compiles : compile (FilterSpec.single key (.ofOperators entries)) fields capabilities limit =
      .ok compiled) :
    (meters? (Resolve.distanceText radius)).isSome = true := by
  obtain ⟨operand, queries, shaped, resolved, -⟩ :=
    (FilterSpec.compile_single_eq_ok_iff key _ isField _ _ limit compiled).mp compiles
  have isOps : Operand.ofValue (Where.pathOf key) (.ofOperators entries) = .ok (.ops entries) := by
    cases form <;> rfl
  rw [isOps] at shaped
  obtain rfl := Except.ok.inj shaped
  obtain ⟨test, accepted, -⟩ := Resolve.operand_aroundPoint form resolved
  obtain ⟨place, -, known, -⟩ := (Resolve.aroundPoint_eq_ok_iff _ _ _ _).mp accepted
  exact known

/-- Texts are read exactly if they spell a distance. A circle around a valid center is a test if
its radius spells one, as a text or written out as a number, and is refused with the text of the
radius otherwise; no condition on a circle compiles without a radius that spells one. A radius that
is a number is read as that many meters unless it is negative or not finite. -/
theorem accepted_iff_spelled :
    (∀ (text : String) (meters : Binary64), meters? text = some meters ↔ Spells text meters) ∧
    (∀ (field : String) (center radius : Value) (place : GeoPoint),
      Resolve.point field center = .ok place →
        (∀ meters, Spells (radiusText radius) meters →
          Resolve.aroundPoint field center (some radius) =
            .ok (.geoDistance place (radiusText radius))) ∧
        ((∀ meters, ¬Spells (radiusText radius) meters) →
          Resolve.aroundPoint field center (some radius) =
            .error (.invalidOperand field (.notDistance (radiusText radius))))) ∧
    (∀ (key : String) (center : Value) (radius : Option Value) (entries : List (Operator × Value))
      (fields : FieldContext) (capabilities : Capabilities) (limit : Nat)
      (compiled : CompiledQuery),
      Combinator.ofKey? key = none → CircleForm center radius entries →
        compile (FilterSpec.single key (.ofOperators entries)) fields capabilities limit =
            .ok compiled →
          ∃ meters, Spells (Resolve.distanceText radius) meters) ∧
    (∀ (radius : Value) (number meters : Binary64), radius.number? = some number →
      (meters? (radiusText radius) = some meters ↔
        number.isFinite = true ∧ number.negative = false ∧ meters = number)) := by
  refine ⟨meters?_eq_some_iff_spells, ?_, ?_, fun radius number meters isNumber => ?_⟩
  · intro field center radius place placed
    rw [aroundPoint_eq field radius placed]
    constructor
    · intro meters spelled
      rw [(meters?_eq_some_iff_spells _ _).mpr spelled]
      rfl
    · intro unspelled
      have notRead : meters? (radiusText radius) = none :=
        Option.eq_none_iff_forall_ne_some.mpr fun meters read =>
          unspelled meters ((meters?_eq_some_iff_spells _ _).mp read)
      rw [notRead]
      rfl
  · intro key center radius entries fields capabilities limit compiled isField form compiles
    obtain ⟨meters, read⟩ :=
      Option.isSome_iff_exists.mp (isSome_meters?_of_compile isField form compiles)
    exact ⟨meters, (meters?_eq_some_iff_spells _ _).mp read⟩
  · exact meters?_of_number isNumber meters

set_option maxRecDepth 4000 in
/-- Five hundred meters as half a kilometer, an exponent, which is refused, and a radius that is a
number. -/
theorem accepted_iff_spelled_of_kilometers :
    let number (value : Int) : Value := .scalar (.int value)
    let center : Value := .list [number 1, number 2]
    let entries : List (Operator × Value) := [(.within, number 5), (.near, center)]
    Spells " .5 km" (.ofInt 500) ∧
      (∃ place, Resolve.aroundPoint "pin" center (some (.scalar (.str " .5 km"))) =
          .ok (.geoDistance place " .5 km")) ∧
      Resolve.aroundPoint "pin" center (some (.scalar (.str "1e3"))) =
        .error (.invalidOperand "pin" (.notDistance "1e3")) ∧
      ∃ compiled,
        compile (FilterSpec.single "pin" (.ofOperators entries)) .empty ⟨fun _ => true⟩ 0 =
            .ok compiled ∧
          (∃ meters, Spells "5" meters) ∧
            meters? (radiusText (number 5)) = some (.ofInt 5) := by
  intro number center entries
  have placed : ∃ place, Resolve.point "pin" center = .ok place :=
    Check.exists_of_isOk (by decide +kernel)
  obtain ⟨place, isPlace⟩ := placed
  have spelled : Spells " .5 km" (.ofInt 500) :=
    (accepted_iff_spelled.1 _ _).mp (by decide +kernel)
  have unread : meters? "1e3" = none := by decide +kernel
  have unspelled (meters : Binary64) : ¬Spells "1e3" meters := by
    intro spells
    rw [(accepted_iff_spelled.1 _ _).mpr spells] at unread
    cases unread
  obtain ⟨compiled, compiles⟩ : ∃ compiled,
      compile (FilterSpec.single "pin" (.ofOperators entries)) .empty ⟨fun _ => true⟩ 0 =
        .ok compiled := Check.exists_of_isOk (by decide +kernel)
  refine ⟨spelled, ⟨place, ?_⟩, ?_, compiled, compiles, ?_, ?_⟩
  · exact (accepted_iff_spelled.2.1 "pin" center (.scalar (.str " .5 km")) place isPlace).1 _
      spelled
  · exact (accepted_iff_spelled.2.1 "pin" center (.scalar (.str "1e3")) place isPlace).2 unspelled
  · exact accepted_iff_spelled.2.2.1 "pin" center _ entries _ _ 0 compiled (by decide)
      (.withinFirst _) compiles
  · exact (accepted_iff_spelled.2.2.2 (number 5) (.ofInt 5) _ rfl).mpr
      ⟨by decide +kernel, by decide +kernel, rfl⟩

end Distance

end SearchFilter
