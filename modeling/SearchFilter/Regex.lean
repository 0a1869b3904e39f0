import SearchFilter.Regex.Match
import SearchFilter.Regex.Meaning
import SearchFilter.Regex.Reader

/-!
# Regular expressions on texts

From the text of a pattern to the question whether it matches. The engine anchors a pattern by
writing it between `^(?:` and `)$`, and what counts is the text that results.
-/

namespace SearchFilter.Regex

/-- How large an expression may become when its repetitions are written out. -/
def maxSize : Nat := 10 * 1024 * 1024

/-- The expression that a text stands for. A text that is not well formed stands for none, and
neither does one that becomes too large. -/
def Expr.ofText? (text : List Char) (ignoreCase : Bool) : Option Expr := do
  let tree ← Tree.ofText? text
  let (expr, _) ← tree.resolve? { ignoreCase := ignoreCase }
  if expr.size ≤ maxSize then some expr else none

/-- The characters that have a meaning of their own somewhere in an expression. -/
def metaCharacters : List Char :=
  ['\\', '.', '+', '*', '?', '(', ')', '|', '[', ']', '\x7b', '\x7d', '^', '$', '#', '&', '-', '~']

/-- A character that stands for itself in an expression. -/
def escape (c : Char) : List Char := if c ∈ metaCharacters then ['\\', c] else [c]

/-- The text of a pattern that has to match from the start to the end. -/
def anchored (pattern : List Char) : List Char :=
  "^(?:".toList ++ pattern ++ ")$".toList

/-- Whether an anchored pattern matches a text. -/
def matchesWhole (pattern : String) (ignoreCase : Bool) (text : String) : Bool :=
  match Expr.ofText? (anchored pattern.toList) ignoreCase with
  | none => false
  | some expr => expr.isMatch text.toList

end SearchFilter.Regex
