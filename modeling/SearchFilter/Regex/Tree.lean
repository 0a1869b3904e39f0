/-!
# Regular expressions as written

The parse tree of a regular expression. It keeps what the text says and leaves to a later reading
what depends on the flags in force: whether letters match in both cases, what `.` and `$` mean, and
whether the classes are those of all characters or of ASCII alone.
-/

namespace SearchFilter.Regex

/-- A switch that `(?…)` turns on or off. -/
inductive Flag
  | ignoreCase
  | multiLine
  | dotMatchesNewline
  | swapGreed
  | unicode
  | carriageReturns
  | ignoreWhitespace
deriving DecidableEq, Inhabited

namespace Flag

/-- The flag that a letter stands for. -/
def ofChar? : Char → Option Flag
  | 'i' => some .ignoreCase
  | 'm' => some .multiLine
  | 's' => some .dotMatchesNewline
  | 'U' => some .swapGreed
  | 'u' => some .unicode
  | 'R' => some .carriageReturns
  | 'x' => some .ignoreWhitespace
  | _ => none

end Flag

/-- Flags with the value that each of them takes. -/
abbrev FlagChanges := List (Flag × Bool)

/-- A position that an expression can ask for. What `^`, `$` and the word boundaries ask exactly
depends on the flags. -/
inductive Anchor
  | lineStart
  | lineEnd
  | textStart
  | textEnd
  | wordBoundary
  | notWordBoundary
  | wordStart
  | wordEnd
  | wordStartHalf
  | wordEndHalf
deriving DecidableEq, Inhabited

/-- The classes that have a letter of their own: `\d`, `\s` and `\w`. -/
inductive Shorthand
  | digit
  | space
  | word
deriving DecidableEq, Inhabited

/-- The classes written `[:name:]` within brackets. -/
inductive PosixClass
  | alnum
  | alpha
  | ascii
  | blank
  | cntrl
  | digit
  | graph
  | lower
  | print
  | punct
  | space
  | upper
  | word
  | xdigit
deriving DecidableEq, Inhabited

namespace PosixClass

/-- The name of a class as it stands between the colons. -/
def name : PosixClass → String
  | .alnum => "alnum"
  | .alpha => "alpha"
  | .ascii => "ascii"
  | .blank => "blank"
  | .cntrl => "cntrl"
  | .digit => "digit"
  | .graph => "graph"
  | .lower => "lower"
  | .print => "print"
  | .punct => "punct"
  | .space => "space"
  | .upper => "upper"
  | .word => "word"
  | .xdigit => "xdigit"

/-- Every named class. -/
def all : List PosixClass :=
  [.alnum, .alpha, .ascii, .blank, .cntrl, .digit, .graph, .lower, .print, .punct, .space, .upper,
    .word, .xdigit]

/-- The class with this name. -/
def ofName? (text : List Char) : Option PosixClass :=
  all.find? fun found => found.name.toList = text

end PosixClass

/-- What `\p` asks for: a name alone, or the value of a named property. -/
inductive PropertyQuery
  | named (name : List Char)
  | valued (property value : List Char)
deriving DecidableEq, Inhabited

/-- A character as written. The form `\x` with exactly two digits can stand for a single byte. -/
structure Literal where
  char : Char
  twoDigits : Bool := false
deriving DecidableEq, Inhabited

/-- The operations between the two sides of a bracketed class. -/
inductive ClassOperation
  | intersection
  | difference
  | symmetricDifference
deriving DecidableEq, Inhabited

/-- A class of characters as written. A union has no items or at least two; one item stands for
itself. -/
inductive CharClass
  | literal (literal : Literal)
  | range (first last : Literal)
  | posix (name : PosixClass) (negated : Bool)
  | shorthand (kind : Shorthand) (negated : Bool)
  | property (query : PropertyQuery) (negated : Bool)
  | bracket (body : CharClass) (negated : Bool)
  | union (items : List CharClass)
  | combine (operation : ClassOperation) (left right : CharClass)
deriving Inhabited

/-- A regular expression as written. A concatenation and an alternation have at least two members;
one member stands for itself and none at all is `empty`. -/
inductive Tree
  | empty
  | literal (literal : Literal)
  | dot
  | anchor (kind : Anchor)
  | chars (set : CharClass)
  /-- Flags that hold up to the end of the group around them. -/
  | flags (changes : FlagChanges)
  /-- At least `least` times and, where there is a bound, at most `most?` times. -/
  | repeated (least : Nat) (most? : Option Nat) (body : Tree)
  /-- A group, with the flags that hold inside it. -/
  | group (changes : FlagChanges) (body : Tree)
  | concatenation (members : List Tree)
  | alternation (members : List Tree)
deriving Inhabited

namespace CharClass

/-- The union of the items of a bracketed class. -/
def ofItems : List CharClass → CharClass
  | [item] => item
  | items => .union items

/-- How deep brackets, unions and operations nest. -/
def depth : CharClass → Nat
  | .bracket body _ => depth body + 1
  | .union [] => 0
  | .union (item :: items) => Nat.max (depth item) (depths items) + 1
  | .combine _ left right => Nat.max (depth left) (depth right) + 1
  | _ => 0
where
  /-- The deepest of several classes. -/
  depths : List CharClass → Nat
    | [] => 0
    | item :: items => Nat.max (depth item) (depths items)

end CharClass

namespace Tree

/-- The tree of a branch with these members. A single one needs no node around it. -/
def ofConcatenation : List Tree → Tree
  | [] => .empty
  | [member] => member
  | members => .concatenation members

/-- The tree of a group with these branches. A single one needs no node around it. -/
def ofAlternation : List Tree → Tree
  | [] => .empty
  | [member] => member
  | members => .alternation members

/-- How deep groups, repetitions, concatenations, alternations and brackets nest. -/
def depth : Tree → Nat
  | .chars (.bracket body _) => body.depth + 1
  | .repeated _ _ body => depth body + 1
  | .group _ body => depth body + 1
  | .concatenation members => depths members + 1
  | .alternation members => depths members + 1
  | _ => 0
where
  /-- The deepest of several expressions. -/
  depths : List Tree → Nat
    | [] => 0
    | member :: members => Nat.max (depth member) (depths members)

end Tree

end SearchFilter.Regex
