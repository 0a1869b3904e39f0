import SearchFilter.Regex.CharSet

/-!
# Regular expressions

Regular expressions with all flags resolved. An expression relates positions of a text: the places
where a match can start to those where it can end.
-/

namespace SearchFilter.Regex

/-- Where a word starts or ends. -/
inductive Boundary
  | either
  | neither
  | start
  | stop
  | startHalf
  | stopHalf
deriving DecidableEq, Inhabited

/-- A condition on the characters around a position. -/
inductive Look
  | textStart
  | textEnd
  | lineStart
  | lineEnd
  /-- Line starts and ends where a carriage return, a newline or both together end a line. -/
  | anyLineStart
  | anyLineEnd
  | boundary (kind : Boundary) (asciiWords : Bool)
deriving DecidableEq, Inhabited

/-- A regular expression. -/
inductive Expr
  | empty
  | look (condition : Look)
  | one (set : CharSet)
  | seq (first second : Expr)
  | either (left right : Expr)
  | repeated (least : Nat) (most? : Option Nat) (body : Expr)
deriving Inhabited

namespace Boundary

/-- Whether a boundary lies between two characters, given which of them belong to words. -/
def holds : Boundary → Bool → Bool → Bool
  | .either, before, after => before != after
  | .neither, before, after => before == after
  | .start, before, after => !before && after
  | .stop, before, after => before && !after
  | .startHalf, before, _ => !before
  | .stopHalf, _, after => !after

end Boundary

/-- Letters, digits and the underscore of ASCII. -/
def isAsciiWord (c : Char) : Bool := c.isAlphanum || c = '_'

namespace Look

/-- Whether the condition holds between two characters, one of which is missing at each end of the
text. -/
def holds (before after : Option Char) : Look → Bool
  | .textStart => before.isNone
  | .textEnd => after.isNone
  | .lineStart => before.isNone || before = some '\n'
  | .lineEnd => after.isNone || after = some '\n'
  | .anyLineStart =>
    before.isNone || before = some '\n' || (before = some '\r' && after ≠ some '\n')
  | .anyLineEnd => after.isNone || after = some '\r' || (after = some '\n' && before ≠ some '\r')
  | .boundary kind asciiWords =>
    let isWord := if asciiWords then isAsciiWord else Text.isWord
    kind.holds (before.any isWord) (after.any isWord)

end Look

namespace Expr

/-- Whether every match is empty. -/
def isWidthless : Expr → Bool
  | .empty => true
  | .look _ => true
  | .one _ => false
  | .seq first second => first.isWidthless && second.isWidthless
  | .either left right => left.isWidthless && right.isWidthless
  | .repeated _ _ body => body.isWidthless

/-- The repetition of an expression. To repeat what matches only the empty text more than once
changes nothing, and what may not occur at all is empty. -/
def times (least : Nat) (most? : Option Nat) (body : Expr) : Expr :=
  let bounds :=
    if body.isWidthless then (Nat.min least 1, some (Nat.min (most?.getD 1) 1)) else (least, most?)
  if bounds = (0, some 0) then .empty else .repeated bounds.1 bounds.2 body

/-- Expressions one after the other. Neither none nor a single one needs a node of its own. -/
def sequence : List Expr → Expr
  | [] => .empty
  | [e] => e
  | e :: rest => .seq e (sequence rest)

/-- One of several expressions. There is at least one. -/
def anyOf : List Expr → Expr
  | [] => .empty
  | [e] => e
  | e :: rest => .either e (anyOf rest)

/-- About how many bytes an automaton for the expression takes: 32 for each of its states, and more
for the ranges of a set. -/
def size : Expr → Nat
  | .empty => 32
  | .look _ => 32
  | .one set => 32 + 26 * (set.extent - 1)
  | .seq first second => first.size + second.size
  | .either left right => left.size + right.size + 36
  | .repeated least most? body => Nat.max least (most?.getD 1) * (body.size + 36)

end Expr

end SearchFilter.Regex
