import SearchFilter.Json
import SearchFilter.Binary64.Decimal

/-!
# Reading document text

Reading has two steps. `Lexeme.next?` takes one lexeme off the front of a text and returns what is
left together with the fact that it is shorter, so `Lexeme.all?` ends. `build` then runs over the
lexemes with the list of containers that are still open, so its recursion follows the lexemes and
the nesting depth is bounded by nothing but the text.

A repeated key of an object keeps its first place and takes the last value. A number without point
and exponent that fits sixty-four bits is an integer, any other number is the nearest floating-point
number, and one that is too large for all of them is refused; so is an escape for half of a
surrogate pair.
-/

namespace SearchFilter.Json

/-- What document text consists of, apart from white space. -/
inductive Lexeme
  | openArray
  | closeArray
  | openObject
  | closeObject
  | comma
  | colon
  | literal (value : Json)

namespace Lexeme

/-- The value of four hexadecimal digits. -/
def hex4? (a b c d : Char) : Option Nat :=
  let digit? (x : Char) : Option Nat :=
    if x.isDigit then some (x.toNat - '0'.toNat)
    else if 'a' ≤ x ∧ x ≤ 'f' then some (x.toNat - 'a'.toNat + 10)
    else if 'A' ≤ x ∧ x ≤ 'F' then some (x.toNat - 'A'.toNat + 10)
    else none
  do
    let a ← digit? a
    let b ← digit? b
    let c ← digit? c
    let d ← digit? d
    return ((a * 16 + b) * 16 + c) * 16 + d

/-- The character of a two-character escape. -/
def escaped? (c : Char) : Option Char :=
  if c = '"' || c = '\\' || c = '/' then some c
  else if c = 'b' then some (Char.ofNat 8)
  else if c = 'f' then some (Char.ofNat 12)
  else if c = 'n' then some '\n'
  else if c = 'r' then some '\r'
  else if c = 't' then some '\t'
  else none

/-- The rest of a string behind its opening quote: the characters so far are kept in reverse. A
first half of a surrogate pair waits for the second half, which has to follow at once. -/
def string? (sofar : List Char) (half : Option Nat) : List Char → Option (List Char × List Char)
  | [] => none
  | '"' :: rest => if half.isSome then none else some (sofar.reverse, rest)
  | '\\' :: 'u' :: a :: b :: c :: d :: rest =>
    match hex4? a b c d, half with
    | none, _ => none
    | some unit, some high =>
      if 0xdc00 ≤ unit ∧ unit < 0xe000 then
        string? (Char.ofNat (0x10000 + (high - 0xd800) * 0x400 + (unit - 0xdc00)) :: sofar) none
            rest
      else none
    | some unit, none =>
      if 0xd800 ≤ unit ∧ unit < 0xdc00 then string? sofar (some unit) rest
      else if 0xdc00 ≤ unit ∧ unit < 0xe000 then none
      else string? (Char.ofNat unit :: sofar) none rest
  | '\\' :: c :: rest =>
    match escaped? c, half with
    | some character, none => string? (character :: sofar) none rest
    | _, _ => none
  | c :: rest =>
    if half.isSome || c = '\\' || c.toNat < 32 then none else string? (c :: sofar) none rest

/-- Reading a string to its closing quote leaves a shorter text. This is what lets the reader of
lexemes recurse on what is left. -/
theorem string?_length {sofar : List Char} {half : Option Nat} {text value rest : List Char}
    (read : string? sofar half text = some (value, rest)) : rest.length < text.length := by
  fun_induction string? sofar half text <;> simp_all <;> omega

/-- The value of a number literal. -/
def number? (text : List Char) : Option Number :=
  let (negative, digits) :=
    match text with
    | '-' :: rest => (true, rest)
    | _ => (false, text)
  let whole := digits.takeWhile Char.isDigit
  let rest := digits.dropWhile Char.isDigit
  let wellFormed : Bool :=
    match whole with
    | [] => false
    | '0' :: _ :: _ => false
    | _ => match rest with
      | '.' :: afterPoint => !(afterPoint.takeWhile Char.isDigit).isEmpty
      | _ => true
  if !wellFormed then none
  else
    let value : Int := if negative then -(Decimal.valueOf whole : Int) else Decimal.valueOf whole
    if rest.isEmpty && Number.fitsDocument value && !(negative && value == 0) then
      some (.integer value)
    else do
      let decimal ← Decimal.scan? digits
      let real := Binary64.ofDecimal negative decimal.coefficient decimal.exponent
      if real.isFinite then some (.real real) else none

/-- The value that a run of word characters stands for: one of the three constants, or a number. -/
def word? (text : List Char) : Option Json :=
  if text = "null".toList then some .null
  else if text = "true".toList then some (.bool true)
  else if text = "false".toList then some (.bool false)
  else (number? text).map .number

/-- The characters that words and numbers consist of. -/
def isWordChar (c : Char) : Bool := c.isAlphanum || c = '+' || c = '-' || c = '.'

/-- The first lexeme of a text that starts with `c`, and the rest of the text. -/
def next? (c : Char) (rest : List Char) :
    Option (Lexeme × {left : List Char // left.length ≤ rest.length}) :=
  if c = '[' then some (.openArray, ⟨rest, Nat.le_refl _⟩)
  else if c = ']' then some (.closeArray, ⟨rest, Nat.le_refl _⟩)
  else if c = '\x7b' then some (.openObject, ⟨rest, Nat.le_refl _⟩)
  else if c = '\x7d' then some (.closeObject, ⟨rest, Nat.le_refl _⟩)
  else if c = ',' then some (.comma, ⟨rest, Nat.le_refl _⟩)
  else if c = ':' then some (.colon, ⟨rest, Nat.le_refl _⟩)
  else if c = '"' then
    match read : string? [] none rest with
    | none => none
    | some (value, left) =>
      some (.literal (.string (String.ofList value)), ⟨left, Nat.le_of_lt (string?_length read)⟩)
  else
    (word? (c :: rest.takeWhile isWordChar)).map fun value =>
      (.literal value, ⟨rest.dropWhile isWordChar, (List.dropWhile_sublist _).length_le⟩)

/-- The blanks that may stand between lexemes. -/
def isBlank (c : Char) : Bool := c = ' ' || c = '\n' || c = '\r' || c = '\t'

/-- All lexemes of a text. -/
def all? : List Char → Option (List Lexeme)
  | [] => some []
  | c :: rest =>
    if isBlank c then all? rest
    else
      match next? c rest with
      | none => none
      | some (lexeme, left) => (all? left.val).map (lexeme :: ·)
termination_by text => text.length
decreasing_by
  all_goals simp_wf
  have := left.property
  omega

end Lexeme

/-- A container that is still open: the members before the one being read, in reverse for an array.
-/
inductive Frame
  | array (done : List Json)
  | object (done : List (String × Json)) (key : String)

/-- What may come next in a text. -/
inductive Expected
  | value
  | firstItem
  | firstKey
  | key (done : List (String × Json))
  | colon (done : List (String × Json)) (key : String)
  | afterValue (value : Json)

/-- Runs over the lexemes. The list holds the open containers, the innermost first. -/
def build : Expected → List Frame → List Lexeme → Option Json
  | .afterValue value, [], [] => some value
  | _, _, [] => none
  | .value, frames, .literal value :: rest => build (.afterValue value) frames rest
  | .value, frames, .openArray :: rest => build .firstItem frames rest
  | .value, frames, .openObject :: rest => build .firstKey frames rest
  | .firstItem, frames, .closeArray :: rest => build (.afterValue (.array [])) frames rest
  | .firstItem, frames, .literal value :: rest =>
    build (.afterValue value) (.array [] :: frames) rest
  | .firstItem, frames, .openArray :: rest => build .firstItem (.array [] :: frames) rest
  | .firstItem, frames, .openObject :: rest => build .firstKey (.array [] :: frames) rest
  | .firstKey, frames, .closeObject :: rest => build (.afterValue (.object [])) frames rest
  | .firstKey, frames, .literal (.string key) :: rest => build (.colon [] key) frames rest
  | .key done, frames, .literal (.string key) :: rest => build (.colon done key) frames rest
  | .colon done key, frames, .colon :: rest => build .value (.object done key :: frames) rest
  | .afterValue value, .array done :: frames, .comma :: rest =>
    build .value (.array (value :: done) :: frames) rest
  | .afterValue value, .array done :: frames, .closeArray :: rest =>
    build (.afterValue (.array (value :: done).reverse)) frames rest
  | .afterValue value, .object done key :: frames, .comma :: rest =>
    build (.key (Entries.put key value done)) frames rest
  | .afterValue value, .object done key :: frames, .closeObject :: rest =>
    build (.afterValue (.object (Entries.put key value done))) frames rest
  | _, _, _ => none

/-- The value that a text spells, if it spells one. -/
def ofText? (text : String) : Option Json :=
  (Lexeme.all? text.toList).bind (build .value [])

end SearchFilter.Json
