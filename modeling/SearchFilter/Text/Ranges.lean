/-!
# Sets of characters as ranges of code points

Tables of character properties are written as text, one token for each range: `41-5a` from the first
to the last code point in hexadecimal, `aa` for a single one, and `100-136/2` for every second code
point from the first to the last. `Ranges.ofText` turns such a text into pairs of first and last
code points.
-/

namespace SearchFilter

/-- A set of code points as a list of ranges, each from its first to its last code point. -/
abbrev Ranges := List (Nat × Nat)

namespace Ranges

/-- Whether a code point lies in one of the ranges. -/
def has (ranges : Ranges) (code : Nat) : Bool :=
  ranges.any fun range => range.1 ≤ code && code ≤ range.2

/-- Whether a character lies in one of the ranges. -/
def contains (ranges : Ranges) (c : Char) : Bool := ranges.has c.toNat

/-- The value of hexadecimal digits in lower case. -/
def hex (digits : List Char) : Nat :=
  digits.foldl
    (fun value d =>
      value * 16 + (if d.isDigit then d.toNat - '0'.toNat else d.toNat - 'a'.toNat + 10)) 0

/-- The tokens of a text, which spaces and line ends separate. -/
def tokens (text : List Char) : List (List Char) :=
  let isGap (c : Char) : Bool := c = ' ' || c = '\n'
  let pieces : List (List Char) :=
    text.foldr
      (fun c found =>
        match found with
        | [] => if isGap c then [[]] else [[c]]
        | token :: rest => if isGap c then [] :: token :: rest else (c :: token) :: rest)
      []
  pieces.filter fun token => !token.isEmpty

/-- The code points from `first` to `last` that a token stands for. -/
def ofToken (token : List Char) : Ranges :=
  let first := token.takeWhile (fun c => c ≠ '-')
  match token.dropWhile (fun c => c ≠ '-') with
  | _ :: afterFirst =>
    let last := afterFirst.takeWhile (fun c => c ≠ '/')
    let low := hex first
    let high := hex last
    if last.length = afterFirst.length then [(low, high)]
    else (List.range ((high - low) / 2 + 1)).map fun index => (low + 2 * index, low + 2 * index)
  | [] => [(hex first, hex first)]

/-- The ranges that a table of tokens spells. -/
def ofText (text : String) : Ranges := (tokens text.toList).flatMap ofToken

end Ranges

/-- A set of characters with the names it goes by, in lower case and without separators, and its
ranges as text. -/
structure NamedRanges where
  names : List String
  table : String

namespace NamedRanges

/-- The set that goes by a name. -/
def find? (sets : List NamedRanges) (name : String) : Option Ranges :=
  (sets.find? fun found => found.names.contains name).map fun found => .ofText found.table

end NamedRanges

end SearchFilter
