import SearchFilter.Proofs.TopLevel
import Mathlib.Algebra.Ring.Int.Defs

/-!
# The grammar of textual specifications

A textual specification is an object whose values follow a grammar: an object that is met on the way
into a value is one of the two literals or a map, and a key of a map that begins with a dollar sign
spells an operator. Exactly the documents of the grammar are read, and what is read is the image of
the document, member by member and in order.
-/

namespace SearchFilter

open Check (bind_eq_ok_iff map_eq_ok_iff pure_eq_ok_iff)

/-! ### The grammar -/

/-- Whether a member of a document can be one end of an interval. -/
inductive Json.IsEnd : Json → Prop
  | null : IsEnd .null
  | number (value : Number) : IsEnd (.number value)
  | string (value : String) : IsEnd (.string value)

/-- Whether an object is a literal by its only key, whatever is below that key. -/
inductive Json.IsWrapper : List (String × Json) → Prop
  | range (payload : Json) : IsWrapper [("$range", payload)]
  | regex (payload : Json) : IsWrapper [("$regex", payload)]

/-- The objects that are met on the way into a document, but not inside a literal. -/
inductive Json.Reaches : Json → List (String × Json) → Prop
  | here (entries : List (String × Json)) : Reaches (.object entries) entries
  | item {items : List Json} {item : Json} {inner : List (String × Json)} (member : item ∈ items)
      (reaches : Reaches item inner) : Reaches (.array items) inner
  | member {entries : List (String × Json)} {entry : String × Json} {inner : List (String × Json)}
      (isMap : ¬IsWrapper entries) (member : entry ∈ entries) (reaches : Reaches entry.2 inner) :
      Reaches (.object entries) inner

namespace FilterSpec

/-- Whether a marked key spells an operator; negation has a second spelling. -/
def SpellsOperator (key : String) : Prop := (∃ op : Operator, key = "$" ++ op.name) ∨ key = "$_not"

/-- What an object inside a value may be. -/
inductive ObjectForm : List (String × Json) → Prop
  | range (payload : List (String × Json)) (known : ∀ key ∈ Entries.keys payload, key ∈ rangeKeys)
      (ends : ∀ key ∈ ["from", "to"], ∀ value, Entries.find? key payload = some value → value.IsEnd)
      (flag : ∀ value, Entries.find? "exclusive" payload = some value → ∃ set, value = .bool set) :
      ObjectForm [("$range", .object payload)]
  | source (text : String) : ObjectForm [("$regex", .string text)]
  | regex (payload : List (String × Json)) (text : String)
      (source : Entries.find? "source" payload = some (.string text))
      (flag : ∀ value, Entries.find? "case_insensitive" payload = some value →
        ∃ set, value = .bool set) :
      ObjectForm [("$regex", .object payload)]
  | map (entries : List (String × Json)) (isMap : ¬Json.IsWrapper entries)
      (marked : ∀ key ∈ Entries.keys entries, isMarked key = true → SpellsOperator key) :
      ObjectForm entries

/-- Whether a document follows the grammar of values. -/
def WellFormed (json : Json) : Prop := ∀ inner, json.Reaches inner → ObjectForm inner

/-! ### Images -/

/-- A number is an integer literal if it is written as an integer of sixty-four bits with a sign, and
otherwise the nearest floating-point number. -/
inductive NumberImage : Number → Scalar → Prop
  | integer (value : Int) (fits : -2 ^ 63 ≤ value ∧ value < 2 ^ 63) :
      NumberImage (.integer value) (.int value)
  | wide (value : Int) (exceeds : ¬(-2 ^ 63 ≤ value ∧ value < 2 ^ 63)) :
      NumberImage (.integer value) (.float (.ofInt value))
  | real (value : Binary64) : NumberImage (.real value) (.float value)

/-- A missing or null end is open. -/
inductive EndImage : Option Json → Option Scalar → Prop
  | missing : EndImage none none
  | null : EndImage (some .null) none
  | number {number : Number} {value : Scalar} (image : NumberImage number value) :
      EndImage (some (.number number)) (some value)
  | string (value : String) : EndImage (some (.string value)) (some (.str value))

/-- A missing flag is not set. -/
inductive FlagImage : Option Json → Bool → Prop
  | missing : FlagImage none false
  | given (set : Bool) : FlagImage (some (.bool set)) set

/-- The interval between two ends, the upper one possibly left out. -/
inductive RangeImage : Json → Interval → Prop
  | intro (payload : List (String × Json)) {lower upper : Option Scalar} {exclusive : Bool}
      (known : ∀ key ∈ Entries.keys payload, key ∈ rangeKeys)
      (lowerImage : EndImage (Entries.find? "from" payload) lower)
      (upperImage : EndImage (Entries.find? "to" payload) upper)
      (flagImage : FlagImage (Entries.find? "exclusive" payload) exclusive) :
      RangeImage (.object payload)
        (.between (lower.elim .unbounded .included)
          (upper.elim .unbounded (if exclusive then .excluded else .included)))

/-- What the content of a pattern literal stands for: a source alone, or a source with a flag, which
is off where it is missing. -/
inductive PatternImage : Json → Pattern → Prop
  | source (text : String) : PatternImage (.string text) ⟨text, false⟩
  | object (payload : List (String × Json)) (text : String) {ignoreCase : Bool}
      (source : Entries.find? "source" payload = some (.string text))
      (flagImage : FlagImage (Entries.find? "case_insensitive" payload) ignoreCase) :
      PatternImage (.object payload) ⟨text, ignoreCase⟩

/-- What a key inside a value stands for. Behind a dollar sign stands the name of an operator, and
everything else is a plain name. -/
inductive KeyImage : String → Key → Prop
  | op (op : Operator) : KeyImage ("$" ++ op.name) (.op op)
  | underscored : KeyImage "$_not" (.op .negation)
  | name (text : String) (unmarked : isMarked text = false) : KeyImage text (.name text)

mutual

/-- The value that a document stands for. -/
inductive Image : Json → Value → Prop
  | null : Image .null .null
  | bool (value : Bool) : Image (.bool value) (.scalar (.bool value))
  | number {number : Number} {value : Scalar} (image : NumberImage number value) :
      Image (.number number) (.scalar value)
  | string (value : String) : Image (.string value) (.scalar (.str value))
  | array {items : List Json} {values : List Value} (images : ItemImages items values) :
      Image (.array items) (.list values)
  | range {payload : Json} {interval : Interval} (image : RangeImage payload interval) :
      Image (.object [("$range", payload)]) (.interval interval)
  | regex {payload : Json} {pattern : Pattern} (image : PatternImage payload pattern) :
      Image (.object [("$regex", payload)]) (.pattern pattern)
  | map {entries : List (String × Json)} {pairs : List (Key × Value)}
      (isMap : ¬Json.IsWrapper entries) (images : EntryImages entries pairs) :
      Image (.object entries) (.map pairs)

/-- The images of the items of a list, one for each and in the same order. -/
inductive ItemImages : List Json → List Value → Prop
  | nil : ItemImages [] []
  | cons {item : Json} {value : Value} {items : List Json} {values : List Value}
      (first : Image item value) (later : ItemImages items values) :
      ItemImages (item :: items) (value :: values)

/-- The images of the members of an object, one for each and in the same order. Two keys with one
image stay two entries. -/
inductive EntryImages : List (String × Json) → List (Key × Value) → Prop
  | nil : EntryImages [] []
  | cons {text : String} {key : Key} {json : Json} {value : Value}
      {entries : List (String × Json)} {pairs : List (Key × Value)} (firstKey : KeyImage text key)
      (first : Image json value) (later : EntryImages entries pairs) :
      EntryImages ((text, json) :: entries) ((key, value) :: pairs)

end

/-! ### Keys -/

/-- A key with a dollar sign is read by the rest of it alone, and refused with it if that is no
operator. -/
theorem keyOf_append (text : String) :
    keyOf ("$" ++ text) =
      match Operator.ofName? text with
      | some op => .ok (.op op)
      | none => .error (.unknownOperator text) := by
  have spelled : ("$" ++ text).toList = '$' :: text.toList := by simp
  unfold keyOf
  rw [spelled]
  cases found : Operator.ofName? text <;> simp only [String.ofList_toList, found]

/-- A key either is unmarked or has something behind its dollar sign. -/
theorem unmarked_or_append (text : String) :
    isMarked text = false ∨ ∃ rest, text = "$" ++ rest := by
  cases marked : isMarked text with
  | false => exact .inl rfl
  | true =>
    obtain ⟨rest, spelled⟩ := List.head?_eq_some_iff.mp (of_decide_eq_true marked)
    refine .inr ⟨String.ofList rest, String.toList_injective ?_⟩
    simp [spelled]

/-- A key is read exactly if it has an image, and then it is read as that image. -/
theorem keyOf_eq_ok_iff (text : String) (key : Key) : keyOf text = .ok key ↔ KeyImage text key := by
  constructor
  · intro read
    obtain unmarked | ⟨rest, rfl⟩ := unmarked_or_append text
    · rw [keyOf_of_unmarked text unmarked] at read
      cases read
      exact .name text unmarked
    · rw [keyOf_append] at read
      split at read
      · rename_i op found
        cases read
        obtain rfl | ⟨rfl, rfl⟩ := (Operator.ofName?_eq_some_iff rest op).mp found
        · exact .op op
        · exact .underscored
      · cases read
  · intro image
    cases image with
    | op op => rw [keyOf_append, (Operator.ofName?_eq_some_iff _ op).mpr (.inl rfl)]
    | underscored => rfl
    | name _ unmarked => exact keyOf_of_unmarked text unmarked

/-- A key has an image unless it is marked and spells no operator. -/
theorem exists_keyImage_iff (text : String) :
    (∃ key, KeyImage text key) ↔ (isMarked text = true → SpellsOperator text) := by
  constructor
  · rintro ⟨key, image⟩ marked
    cases image with
    | op op => exact .inl ⟨op, rfl⟩
    | underscored => exact .inr rfl
    | name _ unmarked => exact absurd marked (by simp [unmarked])
  · intro spells
    cases marked : isMarked text with
    | false => exact ⟨_, .name text marked⟩
    | true =>
      obtain ⟨op, rfl⟩ | rfl := spells marked
      · exact ⟨_, .op op⟩
      · exact ⟨_, .underscored⟩

/-! ### Numbers and literals -/

/-- A number is read as its image: an integer where it is written as one of sixty-four bits with a
sign, and otherwise a floating-point number. -/
theorem ofNumber_eq_iff (number : Number) (value : Scalar) :
    Scalar.ofNumber number = value ↔ NumberImage number value := by
  cases number with
  | real real =>
    constructor
    · rintro rfl
      exact .real real
    · rintro ⟨⟩
      rfl
  | integer integer =>
    have fits : Number.fitsSigned integer = true ↔ -2 ^ 63 ≤ integer ∧ integer < 2 ^ 63 := by
      simp only [Number.fitsSigned, Bool.and_eq_true, decide_eq_true_eq]
      omega
    by_cases within : Number.fitsSigned integer = true
    · have image : Scalar.ofNumber (.integer integer) = .int integer := by
        simp [Scalar.ofNumber, Number.signed?, within]
      rw [image]
      constructor
      · rintro rfl
        exact .integer integer (fits.mp within)
      · intro image
        cases image with
        | integer => rfl
        | wide _ exceeds => exact absurd (fits.mp within) exceeds
    · have image : Scalar.ofNumber (.integer integer) = .float (.ofInt integer) := by
        simp [Scalar.ofNumber, Number.signed?, within, Number.toBinary64]
      rw [image]
      constructor
      · rintro rfl
        exact .wide integer fun inside => within (fits.mpr inside)
      · intro image
        cases image with
        | integer _ inside => exact absurd (fits.mpr inside) within
        | wide => rfl

/-- Every number has an image, so numbers are never a defect. -/
theorem exists_numberImage (number : Number) : ∃ value, NumberImage number value :=
  ⟨_, (ofNumber_eq_iff number _).mp rfl⟩

section Literals

variable (field : String)

/-- An end of an interval is read exactly if it has an image. A missing end and a null are the
same. -/
theorem endpoint_eq_ok_iff (json : Option Json) (finish : Option Scalar) :
    endpoint field json = .ok finish ↔ EndImage json finish := by
  constructor
  · intro read
    unfold endpoint at read
    split at read
    · cases read
      exact .missing
    · cases read
      exact .null
    · cases read
      exact .number ((ofNumber_eq_iff _ _).mp rfl)
    · cases read
      exact .string _
    · cases read
  · intro image
    cases image with
    | missing | null | string => rfl
    | number image => rw [endpoint, (ofNumber_eq_iff _ _).mpr image]

/-- The keys of an interval are checked before anything else. -/
theorem unknownKey_eq_none_iff (payload : List (String × Json)) :
    ((Entries.keys payload).find? fun key => !rangeKeys.contains key) = none ↔
      ∀ key ∈ Entries.keys payload, key ∈ rangeKeys := by
  simp

/-- The content of an interval is read exactly if it has an image, members in any order. -/
theorem rangeOf_eq_ok_iff (json : Json) (interval : Interval) :
    rangeOf field json = .ok interval ↔ RangeImage json interval := by
  constructor
  · intro read
    cases json with
    | object payload =>
      simp only [rangeOf] at read
      split at read
      · cases read
      · rename_i noUnknown
        have known := (unknownKey_eq_none_iff payload).mp noUnknown
        -- The ends are read after the flag in all cases; only where the flag comes from differs.
        have ends {exclusive : Bool}
            (flagImage : FlagImage (Entries.find? "exclusive" payload) exclusive)
            (rest : (do
              let lower ← endpoint field (Entries.find? "from" payload)
              let upper ← endpoint field (Entries.find? "to" payload)
              return Interval.between (lower.elim .unbounded .included)
                (upper.elim .unbounded (if exclusive then .excluded else .included))) =
                .ok interval) : RangeImage (.object payload) interval := by
          obtain ⟨lower, lowerRead, rest⟩ := (bind_eq_ok_iff _ _ _).mp rest
          obtain ⟨upper, upperRead, last⟩ := (bind_eq_ok_iff _ _ _).mp rest
          obtain rfl := (pure_eq_ok_iff _ _).mp last
          exact .intro payload known ((endpoint_eq_ok_iff field _ _).mp lowerRead)
            ((endpoint_eq_ok_iff field _ _).mp upperRead) flagImage
        split at read
        · rename_i noFlag
          exact ends (noFlag ▸ .missing) read
        · rename_i set isFlag
          exact ends (isFlag ▸ .given set) read
        · cases read
    | _ => cases read
  · rintro ⟨payload, known, lowerImage, upperImage, flagImage⟩
    have noUnknown := (unknownKey_eq_none_iff payload).mpr known
    have lowerRead := (endpoint_eq_ok_iff field _ _).mpr lowerImage
    have upperRead := (endpoint_eq_ok_iff field _ _).mpr upperImage
    simp only [rangeOf, noUnknown, lowerRead, upperRead]
    generalize Entries.find? "exclusive" payload = flag at flagImage
    cases flagImage <;> rfl

/-- The content of a pattern is read exactly if it has an image. -/
theorem patternOf_eq_ok_iff (json : Json) (pattern : Pattern) :
    patternOf field json = .ok pattern ↔ PatternImage json pattern := by
  constructor
  · intro read
    cases json with
    | string text =>
      cases read
      exact .source text
    | object payload =>
      simp only [patternOf] at read
      split at read
      · rename_i text source
        simp only [pure_bind] at read
        split at read
        · rename_i noFlag
          cases read
          exact .object payload text source (noFlag ▸ .missing)
        · rename_i set isFlag
          cases read
          exact .object payload text source (isFlag ▸ .given set)
        · cases read
      · cases read
    | _ => cases read
  · intro image
    cases image with
    | source => rfl
    | object payload text source flagImage =>
      simp only [patternOf, source, pure_bind]
      generalize Entries.find? "case_insensitive" payload = flag at flagImage
      cases flagImage <;> rfl

/-- An object that is not one of the two wrappers is no literal, even if one of its keys is that of
a literal. -/
theorem literal?_of_not_isWrapper {entries : List (String × Json)} (isMap : ¬Json.IsWrapper entries) :
    literal? field entries = none := by
  apply literal?_eq_none
  · rintro json rfl
    exact isMap (.range json)
  · rintro json rfl
    exact isMap (.regex json)

end Literals

/-! ### Reading -/

/-- The wrapper of an interval has the images of its content, and no image as a map. -/
theorem image_range_iff (payload : Json) (value : Value) :
    Image (.object [("$range", payload)]) value ↔
      ∃ interval, RangeImage payload interval ∧ .interval interval = value := by
  constructor
  · intro image
    generalize isRange : [("$range", payload)] = entries at image
    cases image with
    | range image =>
      obtain rfl : payload = _ := by simpa using isRange
      exact ⟨_, image, rfl⟩
    | regex => exact absurd isRange (by simp)
    | map isMap =>
      subst isRange
      exact absurd (.range payload) isMap
  · rintro ⟨interval, image, rfl⟩
    exact .range image

/-- The wrapper of a pattern has the images of its content, and no image as a map. -/
theorem image_regex_iff (payload : Json) (value : Value) :
    Image (.object [("$regex", payload)]) value ↔
      ∃ pattern, PatternImage payload pattern ∧ .pattern pattern = value := by
  constructor
  · intro image
    generalize isRegex : [("$regex", payload)] = entries at image
    cases image with
    | range => exact absurd isRegex (by simp)
    | regex image =>
      obtain rfl : payload = _ := by simpa using isRegex
      exact ⟨_, image, rfl⟩
    | map isMap =>
      subst isRegex
      exact absurd (.regex payload) isMap
  · rintro ⟨pattern, image, rfl⟩
    exact .regex image

/-- An object that is no wrapper has the images of its members, and no image as a literal. -/
theorem image_map_iff {entries : List (String × Json)} (isMap : ¬Json.IsWrapper entries)
    (value : Value) :
    Image (.object entries) value ↔ ∃ pairs, EntryImages entries pairs ∧ .map pairs = value := by
  constructor
  · intro image
    cases image with
    | range => exact absurd (.range _) isMap
    | regex => exact absurd (.regex _) isMap
    | map _ images => exact ⟨_, images, rfl⟩
  · rintro ⟨pairs, images, rfl⟩
    exact .map isMap images

mutual

/-- What is read from a document is its image. -/
theorem valueOf_eq_ok_iff (field : String) : (json : Json) → (value : Value) →
    (valueOf field json = .ok value ↔ Image json value)
  | .null, value => by
    rw [valueOf]
    constructor
    · rintro ⟨⟩
      exact .null
    · rintro ⟨⟩
      rfl
  | .bool set, value => by
    rw [valueOf]
    constructor
    · rintro ⟨⟩
      exact .bool set
    · rintro ⟨⟩
      rfl
  | .number number, value => by
    rw [valueOf]
    constructor
    · rintro ⟨⟩
      exact .number ((ofNumber_eq_iff number _).mp rfl)
    · rintro (_ | _ | image)
      rw [(ofNumber_eq_iff number _).mpr image]
  | .string text, value => by
    rw [valueOf]
    constructor
    · rintro ⟨⟩
      exact .string text
    · rintro ⟨⟩
      rfl
  | .array items, value => by
    have images := valuesOf_eq_ok_iff field items
    rw [valueOf, map_eq_ok_iff]
    constructor
    · rintro ⟨values, read, rfl⟩
      exact .array ((images values).mp read)
    · intro image
      cases image with
      | array itemImages => exact ⟨_, (images _).mpr itemImages, rfl⟩
  | .object entries, value => by
    have images := entriesOf_eq_ok_iff field entries
    rw [valueOf]
    -- Only an object whose single key names a literal is no map.
    by_cases wrapper : Json.IsWrapper entries
    · cases wrapper with
      | range payload =>
        change (rangeOf field payload).map .interval = .ok value ↔ _
        simp only [map_eq_ok_iff, image_range_iff, rangeOf_eq_ok_iff]
      | regex payload =>
        change (patternOf field payload).map .pattern = .ok value ↔ _
        simp only [map_eq_ok_iff, image_regex_iff, patternOf_eq_ok_iff]
    · rw [literal?_of_not_isWrapper field wrapper]
      simp only [map_eq_ok_iff, image_map_iff wrapper, images]

/-- The items of a list are read exactly if each has an image. -/
theorem valuesOf_eq_ok_iff (field : String) : (items : List Json) → (values : List Value) →
    (valuesOf field items = .ok values ↔ ItemImages items values)
  | [], values => by
    constructor
    · rintro ⟨⟩
      exact .nil
    · rintro ⟨⟩
      rfl
  | item :: rest, values => by
    have firstImage := valueOf_eq_ok_iff field item
    have laterImages := valuesOf_eq_ok_iff field rest
    rw [valuesOf, bind_eq_ok_iff]
    constructor
    · rintro ⟨value, read, remaining⟩
      obtain ⟨others, othersRead, last⟩ := (bind_eq_ok_iff _ _ _).mp remaining
      obtain rfl := (pure_eq_ok_iff _ _).mp last
      exact .cons ((firstImage value).mp read) ((laterImages others).mp othersRead)
    · rintro (_ | ⟨first, later⟩)
      refine ⟨_, (firstImage _).mpr first, ?_⟩
      exact (bind_eq_ok_iff _ _ _).mpr ⟨_, (laterImages _).mpr later, rfl⟩

/-- The members of an object are read exactly if each key and each value has an image. -/
theorem entriesOf_eq_ok_iff (field : String) :
    (entries : List (String × Json)) → (pairs : List (Key × Value)) →
      (entriesOf field entries = .ok pairs ↔ EntryImages entries pairs)
  | [], pairs => by
    constructor
    · rintro ⟨⟩
      exact .nil
    · rintro ⟨⟩
      rfl
  | (text, json) :: rest, pairs => by
    have firstImage := valueOf_eq_ok_iff field json
    have laterImages := entriesOf_eq_ok_iff field rest
    rw [entriesOf, bind_eq_ok_iff]
    constructor
    · rintro ⟨key, keyRead, remaining⟩
      obtain ⟨value, read, remaining⟩ := (bind_eq_ok_iff _ _ _).mp remaining
      obtain ⟨others, othersRead, last⟩ := (bind_eq_ok_iff _ _ _).mp remaining
      obtain rfl := (pure_eq_ok_iff _ _).mp last
      exact .cons ((keyOf_eq_ok_iff text key).mp keyRead) ((firstImage value).mp read)
        ((laterImages others).mp othersRead)
    · rintro (_ | ⟨firstKey, first, later⟩)
      refine ⟨_, (keyOf_eq_ok_iff text _).mpr firstKey, ?_⟩
      refine (bind_eq_ok_iff _ _ _).mpr ⟨_, (firstImage _).mpr first, ?_⟩
      exact (bind_eq_ok_iff _ _ _).mpr ⟨_, (laterImages _).mpr later, rfl⟩

end

/-- The entries of a specification are read under their own keys. -/
theorem pairsOf_eq_ok_iff (entries : List (String × Json)) (pairs : List (String × Value)) :
    pairsOf entries = .ok pairs ↔
      List.Forall₂ (fun entry pair => entry.1 = pair.1 ∧ Image entry.2 pair.2) entries pairs := by
  induction entries generalizing pairs with
  | nil =>
    constructor
    · rintro ⟨⟩
      exact .nil
    · rintro ⟨⟩
      rfl
  | cons entry rest inductionHypothesis =>
    obtain ⟨key, json⟩ := entry
    rw [pairsOf, bind_eq_ok_iff]
    constructor
    · rintro ⟨value, read, remaining⟩
      obtain ⟨others, othersRead, last⟩ := (bind_eq_ok_iff _ _ _).mp remaining
      obtain rfl := (pure_eq_ok_iff _ _).mp last
      exact .cons ⟨rfl, (valueOf_eq_ok_iff key json value).mp read⟩
        ((inductionHypothesis others).mp othersRead)
    · intro images
      cases images with
      | @cons _ pair _ others first later =>
        obtain ⟨sameKey, image⟩ := first
        refine ⟨pair.2, (valueOf_eq_ok_iff key json _).mpr image, ?_⟩
        refine (bind_eq_ok_iff _ _ _).mpr ⟨others, (inductionHypothesis others).mpr later, ?_⟩
        exact (pure_eq_ok_iff _ _).mpr (by rw [show key = pair.1 from sameKey])

/-! ### Documents with an image -/

/-- An end of an interval has an image unless it is there and of a wrong kind. -/
theorem exists_endImage_iff (json : Option Json) :
    (∃ finish, EndImage json finish) ↔ ∀ value, json = some value → value.IsEnd := by
  constructor
  · rintro ⟨finish, image⟩ value rfl
    cases image with
    | null => exact .null
    | number => exact .number _
    | string => exact .string _
  · intro isEnd
    cases json with
    | none => exact ⟨_, .missing⟩
    | some value =>
      cases isEnd value rfl with
      | null => exact ⟨_, .null⟩
      | number number =>
        obtain ⟨literal, image⟩ := exists_numberImage number
        exact ⟨_, .number image⟩
      | string text => exact ⟨_, .string text⟩

/-- A flag has an image unless it is there and no truth value. -/
theorem exists_flagImage_iff (json : Option Json) :
    (∃ set, FlagImage json set) ↔ ∀ value, json = some value → ∃ set, value = .bool set := by
  constructor
  · rintro ⟨set, image⟩ value rfl
    cases image
    exact ⟨set, rfl⟩
  · intro isFlag
    cases json with
    | none => exact ⟨_, .missing⟩
    | some value =>
      obtain ⟨set, rfl⟩ := isFlag value rfl
      exact ⟨_, .given set⟩

/-- The wrapper of an interval is well formed if its content has an image. No other form fits it. -/
theorem objectForm_range_iff (payload : Json) :
    ObjectForm [("$range", payload)] ↔ ∃ interval, RangeImage payload interval := by
  constructor
  · intro form
    generalize isRange : [("$range", payload)] = entries at form
    cases form with
    | range members known ends flag =>
      obtain rfl : payload = .object members := by simpa using isRange
      obtain ⟨lower, lowerImage⟩ := (exists_endImage_iff _).mpr (ends "from" (by simp))
      obtain ⟨upper, upperImage⟩ := (exists_endImage_iff _).mpr (ends "to" (by simp))
      obtain ⟨exclusive, flagImage⟩ := (exists_flagImage_iff _).mpr flag
      exact ⟨_, .intro members known lowerImage upperImage flagImage⟩
    | source | regex => exact absurd isRange (by simp)
    | map _ isMap =>
      subst isRange
      exact absurd (.range payload) isMap
  · rintro ⟨_, ⟨members, known, lowerImage, upperImage, flagImage⟩⟩
    refine .range members known ?_ ((exists_flagImage_iff _).mp ⟨_, flagImage⟩)
    intro key isEnd
    obtain rfl | rfl : key = "from" ∨ key = "to" := by simpa using isEnd
    · exact (exists_endImage_iff _).mp ⟨_, lowerImage⟩
    · exact (exists_endImage_iff _).mp ⟨_, upperImage⟩

/-- The wrapper of a pattern is well formed if its content has an image. No other form fits it. -/
theorem objectForm_regex_iff (payload : Json) :
    ObjectForm [("$regex", payload)] ↔ ∃ pattern, PatternImage payload pattern := by
  constructor
  · intro form
    generalize isRegex : [("$regex", payload)] = entries at form
    cases form with
    | range => exact absurd isRegex (by simp)
    | source text =>
      obtain rfl : payload = .string text := by simpa using isRegex
      exact ⟨_, .source text⟩
    | regex members text source flag =>
      obtain rfl : payload = .object members := by simpa using isRegex
      obtain ⟨ignoreCase, flagImage⟩ := (exists_flagImage_iff _).mpr flag
      exact ⟨_, .object members text source flagImage⟩
    | map _ isMap =>
      subst isRegex
      exact absurd (.regex payload) isMap
  · rintro ⟨_, image⟩
    cases image with
    | source text => exact .source text
    | object members text source flagImage =>
      exact .regex members text source ((exists_flagImage_iff _).mp ⟨_, flagImage⟩)

/-- Of an object that is no wrapper only the keys behind dollar signs are looked at: each has to
spell an operator. -/
theorem objectForm_map_iff {entries : List (String × Json)} (isMap : ¬Json.IsWrapper entries) :
    ObjectForm entries ↔
      ∀ key ∈ Entries.keys entries, isMarked key = true → SpellsOperator key := by
  constructor
  · intro form
    cases form with
    | range => exact absurd (.range _) isMap
    | source | regex => exact absurd (.regex _) isMap
    | map _ _ marked => exact marked
  · exact .map entries isMap

/-- A list is well formed if its items are. -/
theorem wellFormed_array_iff (items : List Json) :
    WellFormed (.array items) ↔ ∀ item ∈ items, WellFormed item := by
  constructor
  · intro wellFormed item member inner reaches
    exact wellFormed inner (.item member reaches)
  · rintro each inner ⟨⟩
    rename_i item member reaches
    exact each item member inner reaches

/-- Only the object itself is met in a literal. -/
theorem wellFormed_wrapper_iff {entries : List (String × Json)} (wrapper : Json.IsWrapper entries) :
    WellFormed (.object entries) ↔ ObjectForm entries := by
  constructor
  · intro wellFormed
    exact wellFormed entries (.here entries)
  · intro form inner reaches
    cases reaches with
    | here => exact form
    | member isMap => exact absurd wrapper isMap

/-- An object that is no wrapper is well formed if its own keys and all of its values are. -/
theorem wellFormed_map_iff {entries : List (String × Json)} (isMap : ¬Json.IsWrapper entries) :
    WellFormed (.object entries) ↔
      ObjectForm entries ∧ ∀ entry ∈ entries, WellFormed entry.2 := by
  constructor
  · intro wellFormed
    refine ⟨wellFormed entries (.here entries), ?_⟩
    intro entry member inner reaches
    exact wellFormed inner (.member isMap member reaches)
  · rintro ⟨form, each⟩ inner reaches
    cases reaches with
    | here => exact form
    | member _ member reaches => exact each _ member inner reaches

/-- There is a value built from a part exactly if there is a part to build it from. -/
theorem exists_built_iff {α : Type} (given : α → Prop) (build : α → Value) :
    (∃ value part, given part ∧ build part = value) ↔ ∃ part, given part := by
  constructor
  · rintro ⟨_, part, isGiven, -⟩
    exact ⟨part, isGiven⟩
  · rintro ⟨part, isGiven⟩
    exact ⟨_, part, isGiven, rfl⟩

mutual

/-- Exactly the documents that follow the grammar have an image. -/
theorem exists_image_iff : (json : Json) → ((∃ value, Image json value) ↔ WellFormed json)
  | .null => by
    constructor
    · rintro - inner ⟨⟩
    · intro _
      exact ⟨_, .null⟩
  | .bool set => by
    constructor
    · rintro - inner ⟨⟩
    · intro _
      exact ⟨_, .bool set⟩
  | .number number => by
    obtain ⟨value, image⟩ := exists_numberImage number
    constructor
    · rintro - inner ⟨⟩
    · intro _
      exact ⟨_, .number image⟩
  | .string text => by
    constructor
    · rintro - inner ⟨⟩
    · intro _
      exact ⟨_, .string text⟩
  | .array items => by
    rw [wellFormed_array_iff, ← exists_itemImages_iff items]
    constructor
    · rintro ⟨_, ⟨⟩⟩
      rename_i values images
      exact ⟨values, images⟩
    · rintro ⟨values, images⟩
      exact ⟨_, .array images⟩
  | .object entries => by
    have members := exists_entryImages_iff entries
    -- An object with the key of a literal has the form of that literal, which says what its content
    -- is.
    by_cases wrapper : Json.IsWrapper entries
    · rw [wellFormed_wrapper_iff wrapper]
      cases wrapper with
      | range payload =>
        rw [objectForm_range_iff]
        simp only [image_range_iff, exists_built_iff]
      | regex payload =>
        rw [objectForm_regex_iff]
        simp only [image_regex_iff, exists_built_iff]
    · rw [wellFormed_map_iff wrapper, objectForm_map_iff wrapper, ← members]
      simp only [image_map_iff wrapper, exists_built_iff]

/-- The items of a list have images exactly if each is well formed. -/
theorem exists_itemImages_iff : (items : List Json) →
    ((∃ values, ItemImages items values) ↔ ∀ item ∈ items, WellFormed item)
  | [] => ⟨fun _ => List.forall_mem_nil _, fun _ => ⟨_, .nil⟩⟩
  | item :: rest => by
    rw [List.forall_mem_cons, ← exists_image_iff item, ← exists_itemImages_iff rest]
    constructor
    · rintro ⟨_, ⟨⟩⟩
      rename_i value values first later
      exact ⟨⟨value, first⟩, values, later⟩
    · rintro ⟨⟨value, first⟩, values, later⟩
      exact ⟨_, .cons first later⟩

/-- The members of an object have images exactly if the marked keys spell operators and each value
is well formed. -/
theorem exists_entryImages_iff : (entries : List (String × Json)) →
    ((∃ pairs, EntryImages entries pairs) ↔
      (∀ key ∈ Entries.keys entries, isMarked key = true → SpellsOperator key) ∧
        ∀ entry ∈ entries, WellFormed entry.2)
  | [] => ⟨fun _ => ⟨List.forall_mem_nil _, List.forall_mem_nil _⟩, fun _ => ⟨_, .nil⟩⟩
  | (text, json) :: rest => by
    have later := exists_entryImages_iff rest
    have keys : Entries.keys ((text, json) :: rest) = text :: Entries.keys rest := rfl
    rw [keys, List.forall_mem_cons, List.forall_mem_cons, ← exists_keyImage_iff,
      ← exists_image_iff json]
    constructor
    · rintro ⟨_, ⟨⟩⟩
      rename_i key value pairs firstKey first images
      obtain ⟨keysLater, membersLater⟩ := later.mp ⟨pairs, images⟩
      exact ⟨⟨⟨key, firstKey⟩, keysLater⟩, ⟨value, first⟩, membersLater⟩
    · rintro ⟨⟨⟨key, firstKey⟩, keysLater⟩, ⟨value, first⟩, membersLater⟩
      obtain ⟨pairs, images⟩ := later.mpr ⟨keysLater, membersLater⟩
      exact ⟨_, .cons firstKey first images⟩

end

/-! ### Specifications -/

/-- The members of a specification are read exactly if their values are well formed, whatever their
keys are. -/
theorem exists_pairs_iff (entries : List (String × Json)) :
    (∃ pairs, pairsOf entries = .ok pairs) ↔ ∀ entry ∈ entries, WellFormed entry.2 := by
  simp only [pairsOf_eq_ok_iff]
  induction entries with
  | nil => exact ⟨fun _ => List.forall_mem_nil _, fun _ => ⟨[], .nil⟩⟩
  | cons entry rest inductionHypothesis =>
    rw [List.forall_mem_cons, ← inductionHypothesis, ← exists_image_iff]
    constructor
    · rintro ⟨_, images⟩
      cases images with
      | @cons _ pair _ others first later => exact ⟨⟨pair.2, first.2⟩, others, later⟩
    · rintro ⟨⟨value, image⟩, others, later⟩
      exact ⟨(entry.1, value) :: others, .cons ⟨rfl, image⟩ later⟩

/-- A document is read exactly if it is an object and each object that is met inside its values is a
literal or a map of the grammar. The specification then has the keys of the document in order, each
with the image of its value. -/
theorem ofJson_of_grammar (json : Json) :
    ((∃ spec, ofJson json = .ok spec) ↔
      ∃ entries, json = .object entries ∧ ∀ entry ∈ entries, WellFormed entry.2) ∧
    ∀ entries spec, json = .object entries → (Entries.keys entries).Nodup →
      ofJson json = .ok spec →
        List.Forall₂ (fun entry pair => entry.1 = pair.1 ∧ Image entry.2 pair.2) entries
          spec.entries := by
  constructor
  · constructor
    · rintro ⟨spec, read⟩
      cases json with
      | object entries =>
        obtain ⟨pairs, pairsRead, -⟩ := (map_eq_ok_iff _ _ _).mp read
        exact ⟨entries, rfl, (exists_pairs_iff entries).mp ⟨pairs, pairsRead⟩⟩
      | _ => cases read
    · rintro ⟨entries, rfl, wellFormed⟩
      obtain ⟨pairs, pairsRead⟩ := (exists_pairs_iff entries).mpr wellFormed
      exact ⟨ofPairs pairs, (map_eq_ok_iff _ _ _).mpr ⟨pairs, pairsRead, rfl⟩⟩
  · rintro entries spec rfl distinct read
    obtain ⟨pairs, pairsRead, rfl⟩ := (map_eq_ok_iff _ _ _).mp read
    have kept : (ofPairs pairs).entries = pairs := by
      apply Entries.ofPairs_of_nodup
      rw [keys_of_pairsOf entries pairs pairsRead]
      exact distinct
    rw [kept]
    exact (pairsOf_eq_ok_iff entries pairs).mp pairsRead

/-- A condition with an operator, a negation in its second spelling around an interval without a
lower end, and a list with a pattern and a map in it. A dollar sign means nothing at the top level. -/
theorem ofJson_of_grammar_of_nested :
    let interval : Json :=
      .object [("$range", .object [("to", .integer 9), ("exclusive", .bool true)])]
    let pattern : Json :=
      .object [("$regex", .object [("source", .string "a+"), ("case_insensitive", .bool true)])]
    let entries : List (String × Json) :=
      [("price", .object [("$gte", .integer 0x8000000000000000), ("$_not", interval)]),
        ("$eq", .array [pattern, .object [("lat", .null)]])]
    let pairs : List (String × Value) :=
      [("price", .map [(.op .greaterOrEqual, .scalar (.float (.ofInt 0x8000000000000000))),
          (.op .negation, .interval (.between .unbounded (.excluded (.int 9))))]),
        ("$eq", .list [.pattern ⟨"a+", true⟩, .map [(.name "lat", .null)]])]
    (Entries.keys entries).Nodup ∧ ofJson (.object entries) = .ok (ofPairs pairs) ∧
      List.Forall₂ (fun entry pair => entry.1 = pair.1 ∧ Image entry.2 pair.2) entries
        (ofPairs pairs).entries := by
  intro interval pattern entries pairs
  have distinct : (Entries.keys entries).Nodup := by decide
  have read : ofJson (.object entries) = .ok (ofPairs pairs) := rfl
  exact ⟨distinct, read, (ofJson_of_grammar (.object entries)).2 entries _ rfl distinct read⟩

end FilterSpec

end SearchFilter
