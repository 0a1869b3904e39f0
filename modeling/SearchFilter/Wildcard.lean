import SearchFilter.Regex

/-!
# Wildcard patterns

The engine's wildcard syntax, and how LIKE patterns are written in it. Whether a pattern covers a
text is asked of the regular expression that the pattern is rewritten to.
-/

namespace SearchFilter

namespace Wildcard

/-- A character that stands for itself in the wildcard syntax. -/
def escape (c : Char) : List Char := if c = '*' || c = '?' || c = '\\' then ['\\', c] else [c]

/-- The wildcard pattern for a LIKE pattern: `%` stands for any run of characters and `_` for one, a
backslash makes these two and itself literal, and everything else, any other backslash included,
stands for itself. -/
def ofLike : List Char → List Char
  | [] => []
  | '\\' :: '%' :: rest => escape '%' ++ ofLike rest
  | '\\' :: '_' :: rest => escape '_' ++ ofLike rest
  | '\\' :: '\\' :: rest => escape '\\' ++ ofLike rest
  | '%' :: rest => '*' :: ofLike rest
  | '_' :: rest => '?' :: ofLike rest
  | c :: rest => escape c ++ ofLike rest

/-- The regular expression for a pattern: `*` stands for any run of characters and `?` for one. A
backslash takes the next character as itself, and at the end of the pattern it stands for itself. -/
def expression : List Char → List Char
  | [] => []
  | '*' :: rest => '.' :: '*' :: expression rest
  | '?' :: rest => '.' :: expression rest
  | '\\' :: c :: rest => Regex.escape c ++ expression rest
  | c :: rest => Regex.escape c ++ expression rest

/-- The regular expression for a pattern that has to cover a text from its start to its end, where a
character is any, line ends included. -/
def anchored (pattern : List Char) : List Char :=
  "^(?s:".toList ++ expression pattern ++ ")$".toList

/-- Whether a pattern covers a text. -/
def matchesWhole (pattern : String) (ignoreCase : Bool) (text : String) : Bool :=
  match Regex.Expr.ofText? (anchored pattern.toList) ignoreCase with
  | none => false
  | some expr => expr.isMatch text.toList

end Wildcard

end SearchFilter
