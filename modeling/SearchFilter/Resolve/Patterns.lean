import SearchFilter.Query
import SearchFilter.Diagnosed
import SearchFilter.Wildcard

/-!
# Predicates on texts

Prefixes, LIKE patterns and regular expressions. LIKE patterns are brought into the engine's
wildcard syntax. Regular expressions from literals lose their anchors, because the engine anchors
every pattern; a literal that was not anchored at both ends is reported.
-/

namespace SearchFilter

namespace Resolve

/-- The test for a LIKE pattern. Ignoring case needs an engine that can. -/
def like (capabilities : Capabilities) (pattern : String) (ignoreCase : Bool) :
    Except CompileError Test :=
  if ignoreCase && !capabilities.has .caseInsensitiveMatch then
    .error (.unsupportedCapability .likeAnyCase Feature.caseInsensitiveMatch.since)
  else .ok (.wildcard (String.ofList (Wildcard.ofLike pattern.toList)) ignoreCase)

/-- Whether the last character of a text, given in reverse, is taken literally because an odd number
of backslashes stands before the anchor that followed it. -/
def endsEscaped (reversed : List Char) : Bool :=
  (reversed.takeWhile fun c => c = '\\').length % 2 = 1

/-- The text without a start anchor, and whether there was one. -/
def stripStart : List Char → List Char × Bool
  | '\\' :: 'A' :: rest => (rest, true)
  | '^' :: rest => (rest, true)
  | text => (text, false)

/-- The text, given in reverse, without an end anchor that is not escaped, and whether there was
one. -/
def stripEndReversed : List Char → List Char × Bool
  | 'z' :: '\\' :: rest => if endsEscaped rest then ('z' :: '\\' :: rest, false) else (rest, true)
  | 'Z' :: '\\' :: rest => if endsEscaped rest then ('Z' :: '\\' :: rest, false) else (rest, true)
  | '$' :: rest => if endsEscaped rest then ('$' :: rest, false) else (rest, true)
  | text => (text, false)

/-- A pattern without its anchors, and whether it was anchored at both ends. -/
def stripAnchors (source : String) : String × Bool :=
  let (body, atStart) := stripStart source.toList
  let (reversed, atEnd) := stripEndReversed body.reverse
  (String.ofList reversed.reverse, atStart && atEnd)

/-- The test for a pattern literal. Where the engine cannot ignore case, the flag is dropped. -/
def patternLiteral (capabilities : Capabilities) (field : String) (pattern : Pattern) :
    Diagnosed Test :=
  let (source, anchored) := stripAnchors pattern.source
  let dropped := pattern.ignoreCase && !capabilities.has .caseInsensitiveMatch
  .done (.regexp source (pattern.ignoreCase && !dropped) true)
    ((if anchored then [] else [.unanchoredRegexp field]) ++
      (if dropped then [.caseInsensitiveIgnored field Feature.caseInsensitiveMatch.since] else []))

end Resolve

end SearchFilter
