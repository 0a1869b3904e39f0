import SearchFilter.Regex.Bracket

/-!
# Reading regular expressions

The reader goes through the text once and keeps the groups that are still open in a list, the
innermost first. Every step takes at least one character, so the length of the text bounds the
number of steps.
-/

namespace SearchFilter.Regex

/-- How deep an expression may nest. -/
def maxDepth : Nat := 250

/-- What surrounds a group that is still open: the finished branches and the members of the current
branch, the latest first, whether blanks were ignored there, and the flags of the group itself. -/
structure OpenGroup where
  branches : List Tree
  members : List Tree
  spaced : Bool
  changes : FlagChanges
deriving Inhabited

/-- How far the reading of an expression has come: the branches and members of the innermost group,
the latest first, whether blanks are ignored, the groups around it, and the names given to groups.
-/
structure Progress where
  branches : List Tree := []
  members : List Tree := []
  spaced : Bool := false
  outer : List OpenGroup := []
  names : List (List Char) := []
deriving Inhabited

namespace Progress

/-- Adds a member to the branch that is being read, the last one first. -/
def add (progress : Progress) (member : Tree) : Progress :=
  { progress with members := member :: progress.members }

/-- Ends a branch of an alternation. -/
def branch (progress : Progress) : Progress :=
  { progress with
    branches := .ofConcatenation progress.members.reverse :: progress.branches, members := [] }

/-- What the innermost group holds. -/
def body (progress : Progress) : Tree := .ofAlternation progress.branch.branches.reverse

/-- Enters a group with the flags given at its start. -/
def enter (progress : Progress) (changes : FlagChanges) : Progress :=
  { progress with
    branches := []
    members := []
    spaced := (changes.lookup .ignoreWhitespace).getD progress.spaced
    outer := ⟨progress.branches, progress.members, progress.spaced, changes⟩ :: progress.outer }

/-- Leaves the innermost group. Without an open group there is nothing to leave. -/
def leave? (progress : Progress) : Option Progress :=
  match progress.outer with
  | [] => none
  | around :: outer =>
    some { progress with
      branches := around.branches
      members := .group around.changes progress.body :: around.members
      spaced := around.spaced
      outer := outer }

/-- Sets flags for the rest of the innermost group. -/
def setFlags (progress : Progress) (changes : FlagChanges) : Progress :=
  { progress.add (.flags changes) with
    spaced := (changes.lookup .ignoreWhitespace).getD progress.spaced }

/-- Repeats the last member. Flags cannot be repeated, and neither can nothing. -/
def repeatLast? (progress : Progress) (least : Nat) (most? : Option Nat) : Option Progress :=
  match progress.members with
  | [] => none
  | .flags _ :: _ => none
  | member :: members => some { progress with members := .repeated least most? member :: members }

end Progress

/-- The text after the mark of a repetition that takes as little as it can. Whether an expression
matches does not depend on it. -/
def skipLazy : List Char → List Char
  | '?' :: rest => rest
  | text => text

/-- The characters of a group's name: a letter or `_` first, then also numbers, dots and brackets.
-/
def isNameChar (c : Char) (isFirst : Bool) : Bool :=
  c = '_' || Text.alphabetic.contains c ||
    (!isFirst &&
      (c = '.' || c = '[' || c = ']' || Text.decimalNumber.contains c ||
        Text.letterNumber.contains c || Text.otherNumber.contains c))

/-- A group's name up to the closing angle bracket. -/
def readName (isFirst : Bool) : List Char → Option (List Char × List Char)
  | [] => none
  | '>' :: rest => if isFirst then none else some ([], rest)
  | c :: rest =>
    if isNameChar c isFirst then do
      let (name, rest) ← readName false rest
      return (c :: name, rest)
    else none

/-- The flags of `(?…)` or `(?…:`, whether they open a group, and what follows. `turnedOn` says
which value the next flag takes, `seen` what has been read; no flag and no hyphen may come twice,
and a hyphen needs a flag after it. -/
def readFlags (turnedOn dangling : Bool) (seen : FlagChanges) :
    List Char → Option ((FlagChanges × Bool) × List Char)
  | [] => none
  | ')' :: rest => if dangling then none else some ((seen.reverse, false), rest)
  | ':' :: rest => if dangling then none else some ((seen.reverse, true), rest)
  | '-' :: rest => if turnedOn then readFlags false true seen rest else none
  | c :: rest => do
    let flag ← Flag.ofChar? c
    if (seen.lookup flag).isSome then none
    else readFlags turnedOn false ((flag, turnedOn) :: seen) rest

/-- A group with a name of its own. -/
def Progress.enterNamed? (progress : Progress) (text : List Char) :
    Option (Progress × List Char) := do
  let (name, rest) ← readName true text
  if name ∈ progress.names then none
  else return ({ progress.enter [] with names := name :: progress.names }, rest)

/-- Enters a group or sets flags, after the opening parenthesis. Looking ahead and behind is
refused. -/
def Progress.enterOrSet? (progress : Progress) (text : List Char) : Option (Progress × List Char) :=
  match skip progress.spaced text with
  | '?' :: '=' :: _ => none
  | '?' :: '!' :: _ => none
  | '?' :: '<' :: '=' :: _ => none
  | '?' :: '<' :: '!' :: _ => none
  | '?' :: 'P' :: '<' :: rest => progress.enterNamed? rest
  | '?' :: '<' :: rest => progress.enterNamed? rest
  | '?' :: rest => do
    let ((changes, opens), rest) ← readFlags true false [] rest
    if opens then return (progress.enter changes, rest)
    else if changes.isEmpty then none
    else return (progress.setFlags changes, rest)
  | rest => some (progress.enter [], rest)

/-- One step through a text that does not start with something ignored. -/
def Progress.step? (progress : Progress) : List Char → Option (Progress × List Char)
  | [] => none
  | '(' :: rest => progress.enterOrSet? rest
  | ')' :: rest => progress.leave?.map fun progress => (progress, rest)
  | '|' :: rest => some (progress.branch, rest)
  | '[' :: rest =>
    (readClass progress.spaced rest).map fun found => (progress.add (.chars found.1), found.2)
  | '?' :: rest => (progress.repeatLast? 0 (some 1)).map fun progress => (progress, skipLazy rest)
  | '*' :: rest => (progress.repeatLast? 0 none).map fun progress => (progress, skipLazy rest)
  | '+' :: rest => (progress.repeatLast? 1 none).map fun progress => (progress, skipLazy rest)
  | '\x7b' :: rest => do
    let ((least, most?), rest) ← readCount progress.spaced rest
    let repeated ← progress.repeatLast? least most?
    return (repeated, skipLazy (skip progress.spaced rest))
  | text => (readItem progress.spaced text).map fun found => (progress.add found.1.tree, found.2)

/-- The rest of an expression. At its end no group may be open. `fuel` is the length of the text. -/
def Progress.read? : Nat → Progress → List Char → Option Tree
  | 0, _, _ => none
  | fuel + 1, progress, text =>
    match skip progress.spaced text with
    | [] => if progress.outer.isEmpty then some progress.body else none
    | text => do
      let (progress, rest) ← progress.step? text
      Progress.read? fuel progress rest

namespace Tree

/-- The expression that a text spells, if it nests no deeper than allowed. -/
def ofText? (text : List Char) : Option Tree := do
  let tree ← Progress.read? (text.length + 1) {} text
  if tree.depth ≤ maxDepth then some tree else none

end Tree

end SearchFilter.Regex
