import SearchFilter.Text.CaseFolding
import SearchFilter.Text.CharacterClass

/-!
# Sets of characters

Sets of characters as expressions over tables of ranges. Ignoring case is the closure of a set under
case variants; it does not commute with complements, so it is a constructor like the others.
-/

namespace SearchFilter.Regex

/-- A set of characters. -/
inductive CharSet
  | ranges (table : Ranges)
  | union (left right : CharSet)
  | intersection (left right : CharSet)
  | difference (left right : CharSet)
  | complement (set : CharSet)
  /-- The set with all characters that differ from a member only in case. -/
  | caseClosure (set : CharSet)
  /-- The same among the letters of ASCII alone. -/
  | asciiCaseClosure (set : CharSet)
deriving Inhabited

namespace CharSet

/-- The set of one character. -/
def single (c : Char) : CharSet := .ranges [(c.toNat, c.toNat)]

/-- The characters in exactly one of two sets. -/
def symmetricDifference (left right : CharSet) : CharSet :=
  .union (.difference left right) (.difference right left)

/-- Whether a set has a code point. -/
def has : CharSet → Nat → Bool
  | .ranges table, code => table.has code
  | .union left right, code => left.has code || right.has code
  | .intersection left right, code => left.has code && right.has code
  | .difference left right, code => left.has code && !right.has code
  | .complement set, code => !set.has code
  | .caseClosure set, code => set.has code || (Text.caseVariants code).any set.has
  | .asciiCaseClosure set, code => set.has code || (Text.asciiCaseVariants code).any set.has

/-- Whether a set contains a character. -/
def contains (set : CharSet) (c : Char) : Bool := set.has c.toNat

/-- About how many ranges the set takes when written out. -/
def extent : CharSet → Nat
  | .ranges table => table.length
  | .union left right => left.extent + right.extent
  | .intersection left right => Nat.max left.extent right.extent
  | .difference left right => left.extent + right.extent
  | .complement set => set.extent + 1
  | .caseClosure set => set.extent + 1
  | .asciiCaseClosure set => set.extent + 1

end CharSet

end SearchFilter.Regex
