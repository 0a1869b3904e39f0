import SearchFilter.Binary64.Decimal
import SearchFilter.Text.CharacterClass
import Mathlib.Data.List.Basic
import Mathlib.Data.List.TakeWhile
import Mathlib.Data.Nat.Digits.Defs

/-!
# White space and digits

Every text is what trimming leaves of it between two ends of white space (`exists_padding`), and a
part between such ends that does not begin or end with white space is what trimming leaves
(`trim_padded`). Digits and dots are no white space, and the digits of a number have its value.
-/

namespace SearchFilter

namespace Text

/-- Whether a text is nothing but white space. -/
def Blank (text : List Char) : Prop := ∀ c ∈ text, isWhiteSpace c = true

/-- Whether a text neither begins nor ends with white space. -/
def Tight (text : List Char) : Prop :=
  (∀ c ∈ text.head?, isWhiteSpace c = false) ∧ ∀ c ∈ text.getLast?, isWhiteSpace c = false

/-- An empty text is blank. -/
theorem blank_nil : Blank [] := List.forall_mem_nil _

/-- Blank texts put together are blank. -/
theorem Blank.append {text others : List Char} (first : Blank text) (second : Blank others) :
    Blank (text ++ others) :=
  List.forall_mem_append.mpr ⟨first, second⟩

/-- Tight texts put together are tight. White space can only come in between if one of them brought
it. -/
theorem Tight.append {text others : List Char} (first : Tight text) (second : Tight others) :
    Tight (text ++ others) := by
  constructor
  · intro c isHead
    rw [List.head?_append, Option.mem_def, Option.or_eq_some_iff] at isHead
    exact isHead.elim (first.1 c) fun other => second.1 c other.2
  · intro c isLast
    rw [List.getLast?_append, Option.mem_def, Option.or_eq_some_iff] at isLast
    exact isLast.elim (second.2 c) fun other => first.2 c other.2

/-- A text without white space is tight. -/
theorem tight_of_forall {text : List Char} (solid : ∀ c ∈ text, isWhiteSpace c = false) :
    Tight text :=
  ⟨fun c isHead => solid c (List.mem_of_mem_head? isHead),
    fun c isLast => solid c (List.mem_of_mem_getLast? isLast)⟩

/-- Between two tight parts that are not empty anything may stand. -/
theorem Tight.around {first last : List Char} (firstTight : Tight first) (lastTight : Tight last)
    (firstNonempty : first ≠ []) (lastNonempty : last ≠ []) (middle : List Char) :
    Tight (first ++ middle ++ last) := by
  constructor
  · intro c isHead
    rw [List.append_assoc, List.head?_append_of_ne_nil _ firstNonempty] at isHead
    exact firstTight.1 c isHead
  · intro c isLast
    rw [List.getLast?_append_of_ne_nil _ lastNonempty] at isLast
    exact lastTight.2 c isLast

/-- A text is cut behind the signs of a class where another sign follows them or none. -/
theorem cut_append {belongs : Char → Bool} {front rest : List Char}
    (inside : ∀ c ∈ front, belongs c = true) (ends : ∀ c ∈ rest.head?, belongs c = false) :
    (front ++ rest).takeWhile belongs = front ∧ (front ++ rest).dropWhile belongs = rest := by
  rw [List.takeWhile_append_of_pos inside, List.dropWhile_append_of_pos inside]
  cases rest with
  | nil => exact ⟨List.append_nil front, rfl⟩
  | cons c rest =>
    have stops := ends c rfl
    rw [List.takeWhile_cons, List.dropWhile_cons, stops, if_neg Bool.false_ne_true,
      if_neg Bool.false_ne_true]
    exact ⟨List.append_nil front, rfl⟩

/-- A text that does not begin with white space keeps its front. -/
theorem dropWhile_of_head {text : List Char} (starts : ∀ c ∈ text.head?, isWhiteSpace c = false) :
    text.dropWhile isWhiteSpace = text :=
  (cut_append (List.forall_mem_nil _) starts).2

/-- Of a blank text nothing is left. -/
theorem dropWhile_blank {text : List Char} (blank : Blank text) :
    text.dropWhile isWhiteSpace = [] :=
  List.dropWhile_eq_nil_iff.mpr blank

/-- What is left behind the white space does not begin with any. -/
theorem head?_dropWhile (text : List Char) :
    ∀ c ∈ (text.dropWhile isWhiteSpace).head?, isWhiteSpace c = false := by
  intro c isHead
  have first := List.head?_dropWhile_not isWhiteSpace text
  rw [Option.mem_def.mp isHead] at first
  simpa using first

/-- A tight text is what is left of it with white space around it. -/
theorem trim_padded {before core after : List Char} (blankBefore : Blank before)
    (tight : Tight core) (blankAfter : Blank after) : trim (before ++ core ++ after) = core := by
  rw [trim, List.append_assoc, List.dropWhile_append_of_pos blankBefore]
  cases core with
  | nil =>
    rw [List.nil_append, dropWhile_blank blankAfter]
    rfl
  | cons c rest =>
    have blankEnd : ∀ d ∈ after.reverse, isWhiteSpace d = true := fun d member =>
      blankAfter d (List.mem_reverse.mp member)
    have kept : (c :: rest ++ after).dropWhile isWhiteSpace = c :: rest ++ after :=
      dropWhile_of_head tight.1
    rw [kept, List.reverse_append, List.dropWhile_append_of_pos blankEnd, dropWhile_of_head,
      List.reverse_reverse]
    rw [List.head?_reverse]
    exact tight.2

/-- Behind the white space at its front, a text is what is left of it and white space. -/
theorem exists_ending (text : List Char) :
    ∃ after, text.dropWhile isWhiteSpace = trim text ++ after ∧ Blank after := by
  let rest := text.dropWhile isWhiteSpace
  refine ⟨(rest.reverse.takeWhile isWhiteSpace).reverse, ?_, fun c member => ?_⟩
  · rw [trim, ← List.reverse_append, List.takeWhile_append_dropWhile, List.reverse_reverse]
  · exact List.mem_takeWhile_imp (List.mem_reverse.mp member)

/-- Every text is what is left of it with white space around it. -/
theorem exists_padding (text : List Char) :
    ∃ before after, text = before ++ trim text ++ after ∧ Blank before ∧ Blank after := by
  obtain ⟨after, ending, blankAfter⟩ := exists_ending text
  refine ⟨text.takeWhile isWhiteSpace, after, ?_, fun c => List.mem_takeWhile_imp, blankAfter⟩
  rw [List.append_assoc, ← ending, List.takeWhile_append_dropWhile]

/-- What trimming leaves is tight. -/
theorem tight_trim (text : List Char) : Tight (trim text) := by
  constructor
  · intro c isHead
    obtain ⟨after, ending, -⟩ := exists_ending text
    refine head?_dropWhile text c ?_
    rw [ending, List.head?_append, Option.mem_def.mp isHead]
    rfl
  · rw [trim, List.getLast?_reverse]
    exact head?_dropWhile _

/-! ### Digits and dots -/

/-- The digits are ten neighbouring characters. -/
theorem toNat_of_isDigit {c : Char} (digit : c.isDigit = true) : 48 ≤ c.toNat ∧ c.toNat ≤ 57 := by
  simp only [Char.isDigit, Bool.and_eq_true, decide_eq_true_eq, ge_iff_le,
    UInt32.le_iff_toNat_le] at digit
  exact digit

/-- A visible sign of ASCII is no white space. -/
theorem not_isWhiteSpace_of_visible {c : Char} (low : 33 ≤ c.toNat) (high : c.toNat ≤ 126) :
    isWhiteSpace c = false := by
  have outside : ∀ code ≤ 126, 33 ≤ code → whiteSpace.has code = false := by decide +kernel
  exact outside c.toNat high low

/-- Whether a sign can stand in a number that is written with digits and dots. -/
def isNumeric (c : Char) : Bool := c.isDigit || c = '.'

/-- The signs of a number are the digits and the point. -/
theorem isNumeric_iff (c : Char) : isNumeric c = true ↔ c.isDigit = true ∨ c = '.' := by
  rw [isNumeric, Bool.or_eq_true, decide_eq_true_eq]

/-- No sign of a number is white space. -/
theorem not_isWhiteSpace_of_isNumeric {c : Char} (numeric : isNumeric c = true) :
    isWhiteSpace c = false := by
  obtain digit | rfl := (isNumeric_iff c).mp numeric
  · obtain ⟨low, high⟩ := toNat_of_isDigit digit
    exact not_isWhiteSpace_of_visible (by omega) (by omega)
  · exact not_isWhiteSpace_of_visible (by decide) (by decide)

/-- A text of signs of a number is tight. -/
theorem tight_of_isNumeric {text : List Char} (numeric : ∀ c ∈ text, isNumeric c = true) :
    Tight text :=
  tight_of_forall fun c member => not_isWhiteSpace_of_isNumeric (numeric c member)

end Text

namespace Decimal

/-- The value of digits is what the standard reading of decimal digits gives. -/
theorem valueOf_eq_ofDigitChars (digits : List Char) :
    valueOf digits = Nat.ofDigitChars 10 digits 0 := by
  rw [valueOf, Nat.ofDigitChars]
  simp only [Nat.mul_comm]

/-- The digits of a number have its value. -/
@[simp] theorem valueOf_toDigits (value : Nat) : valueOf (Nat.toDigits 10 value) = value := by
  rw [valueOf_eq_ofDigitChars, Nat.ofDigitChars_ten_toDigits]

/-- A natural number is written with digits. -/
theorem isDigit_of_mem_toDigits {value : Nat} {c : Char} (member : c ∈ Nat.toDigits 10 value) :
    c.isDigit = true :=
  Nat.isDigit_of_mem_toDigits (by decide) (by decide) member

end Decimal

end SearchFilter
