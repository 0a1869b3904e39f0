import SearchFilter.Engine.Given
import SearchFilter.Proofs.PaddedTexts
import Mathlib.Data.List.Basic

/-!
# The texts of versions

A version is read from white space, one to three runs of digits between dots, and an ending, which
is white space or a build label. Nothing else is read as a version, and the parts have the values of
their digits however many zeros stand in front (`ofText?_eq_some_iff`). What a version is printed as
is one of these texts.
-/

namespace SearchFilter.EngineVersion

open Text (Blank Tight)

/-- The numbers of a version, the major one first. -/
def numbers (version : EngineVersion) : List Nat :=
  [version.major.toNat, version.minor.toNat, version.patch.toNat]

/-- A run of digits with a value of thirty-two bits. -/
structure Run (part : List Char) : Prop where
  nonempty : part ≠ []
  digits : ∀ c ∈ part, c.isDigit = true
  fits : Decimal.valueOf part ≤ 4294967295

/-- Whether parts spell a version: one to three runs of digits with the numbers of the version,
where those that are not given are zero. -/
structure Spelled (parts : List (List Char)) (version : EngineVersion) : Prop where
  given : 1 ≤ parts.length
  atMostThree : parts.length ≤ 3
  runs : ∀ part ∈ parts, Run part
  values : version.numbers =
    parts.map Decimal.valueOf ++ List.replicate (3 - parts.length) 0

/-- What may follow the parts of a version: white space, or a hyphen or a plus sign and any text. -/
def Ending (text : List Char) : Prop :=
  Blank text ∨ ∃ label, text = '-' :: label ∨ text = '+' :: label

/-! ### Parts between dots -/

/-- The pieces of a text are what the standard splitting at dots gives. -/
theorem pieces_eq_splitOn (text : List Char) : pieces text = text.splitOn '.' := by
  induction text with
  | nil => rfl
  | cons c rest inductionHypothesis =>
    change _ = (c :: rest).splitOnP (· == '.')
    rw [pieces, inductionHypothesis, List.splitOn, List.splitOnP_cons_eq_if_modifyHead]
    cases split : rest.splitOnP (· == '.') with
    | nil => exact absurd split (List.splitOnP_ne_nil _ _)
    | cons piece others => by_cases dot : c = '.' <;> simp [dot]

/-- The pieces with dots between them are the text. -/
theorem intercalate_pieces (text : List Char) : ['.'].intercalate (pieces text) = text := by
  rw [pieces_eq_splitOn, List.intercalate_splitOn]

/-- There is no dot in a run of digits. -/
theorem Run.no_dot {part : List Char} (run : Run part) : '.' ∉ part := fun member =>
  absurd (run.digits '.' member) (by decide)

/-- Runs of digits with dots between them are split into themselves. -/
theorem pieces_intercalate {parts : List (List Char)} (given : parts ≠ [])
    (runs : ∀ part ∈ parts, Run part) : pieces (['.'].intercalate parts) = parts := by
  rw [pieces_eq_splitOn,
    List.splitOn_intercalate '.' (fun part member => (runs part member).no_dot) given]

/-- A part is read exactly if it is a run of digits, as the value of the digits. -/
theorem part?_eq_some_iff (digits : List Char) (value : UInt32) :
    part? digits = some value ↔ Run digits ∧ value.toNat = Decimal.valueOf digits := by
  have size : UInt32.size = 4294967295 + 1 := rfl
  simp only [part?, Bool.and_eq_true, Bool.not_eq_true', List.isEmpty_eq_false_iff,
    List.all_eq_true, decide_eq_true_eq, size, Nat.lt_succ_iff]
  constructor
  · intro read
    split at read
    · rename_i passed
      obtain ⟨⟨nonempty, digit⟩, fits⟩ := passed
      obtain rfl := Option.some.inj read
      exact ⟨⟨nonempty, digit, fits⟩, UInt32.toNat_ofNat_of_lt' (by omega)⟩
    · cases read
  · rintro ⟨⟨nonempty, digit, fits⟩, same⟩
    rw [if_pos ⟨⟨nonempty, digit⟩, fits⟩, ← same]
    simp

/-! ### The text in front of a build label -/

/-- A version is its three numbers. -/
theorem eq_of_numbers {version other : EngineVersion} (same : version.numbers = other.numbers) :
    version = other := by
  obtain ⟨major, minor, patch⟩ := version
  obtain ⟨otherMajor, otherMinor, otherPatch⟩ := other
  simp only [numbers, List.cons.injEq, and_true, UInt32.toNat_inj] at same
  obtain ⟨rfl, rfl, rfl⟩ := same
  rfl

/-- A run of digits has a value that fits into thirty-two bits. -/
theorem Run.part?_eq {part : List Char} (run : Run part) :
    ∃ value : UInt32, part? part = some value ∧ value.toNat = Decimal.valueOf part := by
  have small : Decimal.valueOf part < UInt32.size := Nat.lt_succ_of_le run.fits
  refine ⟨(Decimal.valueOf part).toUInt32, (part?_eq_some_iff _ _).mpr ⟨run, ?_⟩, ?_⟩ <;>
    exact UInt32.toNat_ofNat_of_lt' small

/-- The parts of a text are read as a version exactly if they spell it. -/
theorem ofText?_eq_some_iff_pieces (text : String) (version : EngineVersion) :
    ofText? text = some version ↔ Spelled (pieces (core text.toList)) version := by
  unfold ofText?
  generalize pieces (core text.toList) = parts
  constructor
  · intro read
    -- One case for each number of parts: one, two, three, and any other, which is no version.
    split at read
    · simp only [Option.bind_eq_bind, Option.bind_eq_some_iff, part?_eq_some_iff] at read
      obtain ⟨value, ⟨run, same⟩, made⟩ := read
      obtain rfl := Option.some.inj made
      exact ⟨by simp, by simp, by simpa using run, by simp [numbers, same]⟩
    · simp only [Option.bind_eq_bind, Option.bind_eq_some_iff, part?_eq_some_iff] at read
      obtain ⟨value, ⟨run, same⟩, other, ⟨otherRun, otherSame⟩, made⟩ := read
      obtain rfl := Option.some.inj made
      exact ⟨by simp, by simp, by simpa using ⟨run, otherRun⟩,
        by simp [numbers, same, otherSame]⟩
    · simp only [Option.bind_eq_bind, Option.bind_eq_some_iff, part?_eq_some_iff] at read
      obtain ⟨value, ⟨run, same⟩, other, ⟨otherRun, otherSame⟩, last, ⟨lastRun, lastSame⟩, made⟩ :=
        read
      obtain rfl := Option.some.inj made
      exact ⟨by simp, by simp, by simpa using ⟨run, otherRun, lastRun⟩,
        by simp [numbers, same, otherSame, lastSame]⟩
    · cases read
  · rintro ⟨given, atMostThree, runs, values⟩
    match parts, given, atMostThree with
    | [major], _, _ =>
      obtain ⟨value, read, same⟩ := (runs major (by simp)).part?_eq
      simp only [read, Option.bind_eq_bind, Option.bind_some]
      refine congrArg some (eq_of_numbers ?_)
      rw [values]
      simp [numbers, same]
    | [major, minor], _, _ =>
      obtain ⟨value, read, same⟩ := (runs major (by simp)).part?_eq
      obtain ⟨other, otherRead, otherSame⟩ := (runs minor (by simp)).part?_eq
      simp only [read, otherRead, Option.bind_eq_bind, Option.bind_some]
      refine congrArg some (eq_of_numbers ?_)
      rw [values]
      simp [numbers, same, otherSame]
    | [major, minor, patch], _, _ =>
      obtain ⟨value, read, same⟩ := (runs major (by simp)).part?_eq
      obtain ⟨other, otherRead, otherSame⟩ := (runs minor (by simp)).part?_eq
      obtain ⟨last, lastRead, lastSame⟩ := (runs patch (by simp)).part?_eq
      simp only [read, otherRead, lastRead, Option.bind_eq_bind, Option.bind_some]
      refine congrArg some (eq_of_numbers ?_)
      rw [values]
      simp [numbers, same, otherSame, lastSame]

/-- A version is spelled with at least one part. -/
theorem Spelled.parts_ne_nil {parts : List (List Char)} {version : EngineVersion}
    (spelled : Spelled parts version) : parts ≠ [] :=
  List.ne_nil_of_length_pos spelled.given

/-- What is left in front of a build label is read as a version exactly if parts between dots that
spell it make it up. -/
theorem ofText?_eq_some_iff_core (text : String) (version : EngineVersion) :
    ofText? text = some version ↔
      ∃ parts, core text.toList = ['.'].intercalate parts ∧ Spelled parts version := by
  rw [ofText?_eq_some_iff_pieces]
  constructor
  · exact fun spelled => ⟨_, (intercalate_pieces _).symm, spelled⟩
  · rintro ⟨parts, made, spelled⟩
    rwa [made, pieces_intercalate spelled.parts_ne_nil spelled.runs]

/-- Runs of digits with dots between them have no other signs. -/
theorem isNumeric_of_mem_intercalate {parts : List (List Char)}
    (runs : ∀ part ∈ parts, Run part) :
    ∀ c ∈ ['.'].intercalate parts, Text.isNumeric c = true := by
  induction parts with
  | nil => exact List.forall_mem_nil _
  | cons part rest inductionHypothesis =>
    obtain ⟨run, others⟩ := List.forall_mem_cons.mp runs
    have digits : ∀ c ∈ part, Text.isNumeric c = true := fun c member =>
      (Text.isNumeric_iff c).mpr (.inl (run.digits c member))
    cases rest with
    | nil =>
      rw [List.intercalate_singleton]
      exact digits
    | cons next rest =>
      rw [List.intercalate_cons_cons, List.append_assoc]
      refine List.forall_mem_append.mpr ⟨digits, List.forall_mem_append.mpr ⟨?_, ?_⟩⟩
      · exact List.forall_mem_singleton.mpr rfl
      · exact inductionHypothesis others

section

variable {joined : List Char} (numeric : ∀ c ∈ joined, Text.isNumeric c = true)
include numeric

/-- What stands in front of a build label is kept, whether or not there is one. -/
theorem takeWhile_label {label : List Char} (labelled : ∀ c ∈ label.head?, c = '-' ∨ c = '+') :
    (joined ++ label).takeWhile (fun c => c ≠ '-' && c ≠ '+') = joined := by
  have unlabelled : ∀ c ∈ joined, (decide (c ≠ '-') && decide (c ≠ '+')) = true := by
    intro c member
    have notHyphen : c ≠ '-' := by
      rintro rfl
      exact absurd (numeric '-' member) (by decide)
    have notPlus : c ≠ '+' := by
      rintro rfl
      exact absurd (numeric '+' member) (by decide)
    simp [notHyphen, notPlus]
  refine (Text.cut_append unlabelled fun c isHead => ?_).1
  obtain rfl | rfl := labelled c isHead <;> simp

/-- The text in front of a build label is what stands between white space and an ending. -/
theorem core_eq_iff (text : List Char) :
    core text = joined ↔
      ∃ before ending, text = before ++ joined ++ ending ∧ Blank before ∧ Ending ending := by
  constructor
  · intro cut
    obtain ⟨before, after, split, blankBefore, blankAfter⟩ := Text.exists_padding text
    have whole : joined ++ (Text.trim text).dropWhile (fun c => c ≠ '-' && c ≠ '+') =
        Text.trim text := by
      rw [← cut, core, List.takeWhile_append_dropWhile]
    -- What follows the text is the label that was cut off, then the white space that was trimmed.
    refine ⟨before, (Text.trim text).dropWhile (fun c => c ≠ '-' && c ≠ '+') ++ after, ?_,
      blankBefore, ?_⟩
    · rw [List.append_assoc, ← List.append_assoc joined, whole, ← List.append_assoc]
      exact split
    · cases label : (Text.trim text).dropWhile (fun c => c ≠ '-' && c ≠ '+') with
      | nil => exact .inl blankAfter
      | cons c rest =>
        have sign := List.head?_dropWhile_not (fun c => c ≠ '-' && c ≠ '+') (Text.trim text)
        rw [label] at sign
        have isSign : c = '-' ∨ c = '+' := by simpa [or_iff_not_imp_left] using sign
        obtain rfl | rfl := isSign
        · exact .inr ⟨rest ++ after, .inl rfl⟩
        · exact .inr ⟨rest ++ after, .inr rfl⟩
  · rintro ⟨before, ending, rfl, blankBefore, blank | ⟨label, starts⟩⟩
    · rw [core, Text.trim_padded blankBefore (Text.tight_of_isNumeric numeric) blank]
      have unlabelled : ∀ c ∈ ([] : List Char).head?, c = '-' ∨ c = '+' := nofun
      have alone := takeWhile_label numeric unlabelled
      rwa [List.append_nil] at alone
    · have sign : ∀ c ∈ ending.head?, c = '-' ∨ c = '+' := by
        obtain rfl | rfl := starts <;> simp
      have noSpace : ∀ c ∈ ending.head?, Text.isWhiteSpace c = false := by
        intro c isHead
        obtain rfl | rfl := sign c isHead
        · exact Text.not_isWhiteSpace_of_visible (by decide) (by decide)
        · exact Text.not_isWhiteSpace_of_visible (by decide) (by decide)
      obtain ⟨after, split, blankAfter⟩ := Text.exists_ending ending
      rw [Text.dropWhile_of_head noSpace] at split
      -- Trimming takes nothing from the front of the label, since its sign is no space.
      have labelled : ∀ c ∈ (Text.trim ending).head?, c = '-' ∨ c = '+' := by
        intro c isHead
        refine sign c ?_
        rw [split, List.head?_append, Option.mem_def.mp isHead]
        rfl
      rw [split, ← List.append_assoc, List.append_assoc before, core,
        Text.trim_padded blankBefore
          ((Text.tight_of_isNumeric numeric).append (Text.tight_trim ending)) blankAfter]
      exact takeWhile_label numeric labelled

end

/-! ### Reading and printing -/

/-- A text is read as a version exactly if it consists of white space, parts between dots that spell
the version, and an ending. -/
theorem ofText?_eq_some_iff_spelled (text : String) (version : EngineVersion) :
    ofText? text = some version ↔
      ∃ before parts ending, text.toList = before ++ ['.'].intercalate parts ++ ending ∧
        Blank before ∧ Ending ending ∧ Spelled parts version := by
  rw [ofText?_eq_some_iff_core]
  constructor
  · rintro ⟨parts, made, spelled⟩
    have numeric := isNumeric_of_mem_intercalate spelled.runs
    obtain ⟨before, ending, split, blank, ends⟩ := (core_eq_iff numeric _).mp made
    exact ⟨before, parts, ending, split, blank, ends, spelled⟩
  · rintro ⟨before, parts, ending, split, blank, ends, spelled⟩
    have numeric := isNumeric_of_mem_intercalate spelled.runs
    exact ⟨parts, (core_eq_iff numeric _).mpr ⟨before, ending, split, blank, ends⟩, spelled⟩

/-- The parts that a version is printed with. -/
def printed (version : EngineVersion) : List (List Char) := version.numbers.map (Nat.toDigits 10)

/-- The decimal digits of a number of thirty-two bits are a run. -/
theorem run_toDigits {value : Nat} (fits : value ≤ 4294967295) : Run (Nat.toDigits 10 value) where
  nonempty := Nat.toDigits_ne_nil
  digits _ := Decimal.isDigit_of_mem_toDigits
  fits := by rwa [Decimal.valueOf_toDigits]

/-- The three printed parts spell the version. -/
theorem spelled_printed (version : EngineVersion) : Spelled version.printed version where
  given := by simp [printed, numbers]
  atMostThree := by simp [printed, numbers]
  runs part member := by
    obtain ⟨value, among, rfl⟩ := List.mem_map.mp member
    refine run_toDigits ?_
    have major := version.major.toNat_lt
    have minor := version.minor.toNat_lt
    have patch := version.patch.toNat_lt
    simp only [numbers, List.mem_cons, List.not_mem_nil, or_false] at among
    omega
  values := by simp [printed, numbers]

/-- A version is printed as its parts with dots between them. -/
theorem toList_text (version : EngineVersion) :
    version.text.toList = ['.'].intercalate version.printed := by
  have digits (part : UInt32) : (toString part).toList = Nat.toDigits 10 part.toNat := by
    change (toString part.toNat).toList = _
    rw [Nat.toString_eq_ofList_toDigits, String.toList_ofList]
  simp only [text, String.toList_append, digits, printed, numbers, List.map_cons, List.map_nil,
    List.intercalate_cons_cons, List.intercalate_singleton, List.append_assoc]
  rfl

/-- The texts of versions are exactly these: white space, one to three runs of digits between dots,
each with a value of thirty-two bits, and then white space or a hyphen or plus sign with anything
behind it. Their values are the parts of the version, of which those that are not given are zero.
The printed form of a version is read back to it, with white space around it or a build label behind
it too, and also where a version is given in a document. -/
theorem ofText?_eq_some_iff :
    (∀ (text : String) (version : EngineVersion), ofText? text = some version ↔
      ∃ before parts ending, text.toList = before ++ ['.'].intercalate parts ++ ending ∧
        Blank before ∧ Ending ending ∧ Spelled parts version) ∧
    (∀ version : EngineVersion, ofJson (.string version.text) = .ok version ∧
      ∀ before ending, Blank before → Ending ending →
        ofText? (String.ofList (before ++ version.text.toList ++ ending)) = some version) := by
  have reads (version : EngineVersion) (before ending : List Char) (blank : Blank before)
      (ends : Ending ending) :
      ofText? (String.ofList (before ++ version.text.toList ++ ending)) = some version :=
    (ofText?_eq_some_iff_spelled _ version).mpr ⟨before, version.printed, ending,
      by rw [String.toList_ofList, toList_text], blank, ends, spelled_printed version⟩
  refine ⟨ofText?_eq_some_iff_spelled, fun version => ⟨?_, reads version⟩⟩
  have alone := reads version [] [] Text.blank_nil (.inl Text.blank_nil)
  rw [List.nil_append, List.append_nil, String.ofList_toList] at alone
  rw [ofJson, ofText, alone]

/-- Zeros in front of a part, a part that is not given and a build label; and a printed version
behind a tabulator. -/
theorem ofText?_eq_some_iff_of_label :
    ofText? " 007.10-SNAPSHOT.1+2 " = some ⟨7, 10, 0⟩ ∧
      ofText? (String.ofList (['\t'] ++ (⟨7, 17, 3⟩ : EngineVersion).text.toList ++ ['+', 'x'])) =
        some ⟨7, 17, 3⟩ := by
  have blank (c : Char) (space : Text.isWhiteSpace c = true) : Blank [c] :=
    List.forall_mem_singleton.mpr space
  have seven : Run ['0', '0', '7'] :=
    ⟨List.cons_ne_nil _ _, List.all_eq_true.mp rfl, by decide +kernel⟩
  have ten : Run ['1', '0'] := ⟨List.cons_ne_nil _ _, List.all_eq_true.mp rfl, by decide +kernel⟩
  have spelled : Spelled [['0', '0', '7'], ['1', '0']] ⟨7, 10, 0⟩ :=
    ⟨by decide, by decide, by simpa using ⟨seven, ten⟩, rfl⟩
  constructor
  · exact (ofText?_eq_some_iff.1 _ _).mpr ⟨[' '], _, "-SNAPSHOT.1+2 ".toList, rfl,
      blank ' ' (by decide +kernel), .inr ⟨_, .inl rfl⟩, spelled⟩
  · exact (ofText?_eq_some_iff.2 ⟨7, 17, 3⟩).2 ['\t'] ['+', 'x'] (blank '\t' (by decide +kernel))
      (.inr ⟨_, .inr rfl⟩)

end SearchFilter.EngineVersion
