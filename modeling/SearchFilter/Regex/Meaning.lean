import SearchFilter.Regex.Expr
import SearchFilter.Regex.Property

/-!
# What a regular expression says

The flags in force at each place of a parse tree resolve it into an expression. A change of flags
lasts to the end of the group around it, across the branches of an alternation. Without the Unicode
flag only ASCII can be matched by classes, and what would match other bytes is refused.
-/

namespace SearchFilter.Regex

/-- The flags on which the meaning of an expression depends. -/
structure Flags where
  ignoreCase : Bool := false
  multiLine : Bool := false
  dotMatchesNewline : Bool := false
  unicode : Bool := true
  carriageReturns : Bool := false
deriving DecidableEq, Inhabited

namespace Flags

/-- Sets one flag. Two flags have no effect on what matches: which of several matches is taken, and
how blanks were read. -/
def change (flags : Flags) (change : Flag × Bool) : Flags :=
  match change with
  | (.ignoreCase, value) => { flags with ignoreCase := value }
  | (.multiLine, value) => { flags with multiLine := value }
  | (.dotMatchesNewline, value) => { flags with dotMatchesNewline := value }
  | (.unicode, value) => { flags with unicode := value }
  | (.carriageReturns, value) => { flags with carriageReturns := value }
  | (.swapGreed, _) => flags
  | (.ignoreWhitespace, _) => flags

/-- Sets flags in the order in which they are written. -/
def apply (flags : Flags) (changes : FlagChanges) : Flags := changes.foldl change flags

/-- A set as it reads under the flags that concern case. -/
def caseFold (flags : Flags) (set : CharSet) : CharSet :=
  if !flags.ignoreCase then set
  else if flags.unicode then .caseClosure set
  else .asciiCaseClosure set

end Flags

namespace PosixClass

/-- The characters of a class, which are all in ASCII. -/
def ranges : PosixClass → Ranges
  | .alnum => .ofText "30-39 41-5a 61-7a"
  | .alpha => .ofText "41-5a 61-7a"
  | .ascii => .ofText "0-7f"
  | .blank => .ofText "9 20"
  | .cntrl => .ofText "0-1f 7f"
  | .digit => .ofText "30-39"
  | .graph => .ofText "21-7e"
  | .lower => .ofText "61-7a"
  | .print => .ofText "20-7e"
  | .punct => .ofText "21-2f 3a-40 5b-60 7b-7e"
  | .space => .ofText "9-d 20"
  | .upper => .ofText "41-5a"
  | .word => .ofText "30-39 41-5a 5f 61-7a"
  | .xdigit => .ofText "30-39 41-46 61-66"

end PosixClass

namespace Shorthand

/-- The characters of a class among all characters. -/
def ranges : Shorthand → Ranges
  | .digit => Text.decimalNumber
  | .space => Text.whiteSpace
  | .word => Text.word

/-- The characters of a class in ASCII. -/
def asciiRanges : Shorthand → Ranges
  | .digit => PosixClass.digit.ranges
  | .space => PosixClass.space.ranges
  | .word => PosixClass.word.ranges

end Shorthand

namespace Flags

/-- The complement where one is asked for. In ASCII a complement would hold bytes that are no text.
-/
def negate? (flags : Flags) (negated : Bool) (set : CharSet) : Option CharSet :=
  if !negated then some set
  else if flags.unicode then some (.complement set)
  else none

/-- A literal within brackets. -/
def member? (flags : Flags) (literal : Literal) : Option Char :=
  if flags.unicode || literal.char.toNat < 0x80 then some literal.char else none

end Flags

namespace CharClass

/-- The set of a class under the flags in force. -/
def set? (flags : Flags) : CharClass → Option CharSet
  | .literal found => (flags.member? found).map .single
  | .range first last => do
    return .ranges [((← flags.member? first).toNat, (← flags.member? last).toNat)]
  | .posix name negated => flags.negate? negated (flags.caseFold (.ranges name.ranges))
  | .shorthand kind negated =>
    flags.negate? negated (.ranges (if flags.unicode then kind.ranges else kind.asciiRanges))
  | .property query negated => do
    if flags.unicode then flags.negate? negated (flags.caseFold (← query.set?)) else none
  | .bracket body negated => do flags.negate? negated (flags.caseFold (← body.set? flags))
  | .union items => sets? items
  | .combine operation left right => do
    let left := flags.caseFold (← left.set? flags)
    let right := flags.caseFold (← right.set? flags)
    return match operation with
      | .intersection => .intersection left right
      | .difference => .difference left right
      | .symmetricDifference => .symmetricDifference left right
where
  /-- The union of several classes. -/
  sets? : List CharClass → Option CharSet
    | [] => some (.ranges [])
    | item :: items => do return .union (← item.set? flags) (← sets? items)

end CharClass

namespace Flags

/-- A literal outside brackets. A byte of two digits beyond ASCII is no text of its own. -/
def literal? (flags : Flags) (literal : Literal) : Option Expr :=
  if flags.unicode then some (.one (flags.caseFold (.single literal.char)))
  else if literal.char.toNat < 0x80 then some (.one (flags.caseFold (.single literal.char)))
  else if literal.twoDigits then none
  else some (.one (.single literal.char))

/-- Any character, newlines only if the flags include them. -/
def dot? (flags : Flags) : Option Expr :=
  if !flags.unicode then none
  else if flags.dotMatchesNewline then some (.one (.complement (.ranges [])))
  else if flags.carriageReturns then some (.one (.complement (.ranges (.ofText "a d"))))
  else some (.one (.complement (.ranges (.ofText "a"))))

/-- The condition that an anchor stands for. -/
def look (flags : Flags) : Anchor → Look
  | .lineStart =>
    if !flags.multiLine then .textStart
    else if flags.carriageReturns then .anyLineStart
    else .lineStart
  | .lineEnd =>
    if !flags.multiLine then .textEnd
    else if flags.carriageReturns then .anyLineEnd
    else .lineEnd
  | .textStart => .textStart
  | .textEnd => .textEnd
  | .wordBoundary => .boundary .either !flags.unicode
  | .notWordBoundary => .boundary .neither !flags.unicode
  | .wordStart => .boundary .start !flags.unicode
  | .wordEnd => .boundary .stop !flags.unicode
  | .wordStartHalf => .boundary .startHalf !flags.unicode
  | .wordEndHalf => .boundary .stopHalf !flags.unicode

end Flags

namespace Tree

/-- The expression for a tree, and the flags in force after it. -/
def resolve? (flags : Flags) : Tree → Option (Expr × Flags)
  | .empty => some (.empty, flags)
  | .literal found => do return (← flags.literal? found, flags)
  | .dot => do return (← flags.dot?, flags)
  | .anchor kind => some (.look (flags.look kind), flags)
  | .chars set => do return (.one (← set.set? flags), flags)
  | .flags changes => some (.empty, flags.apply changes)
  | .repeated least most? body => do
    let (body, after) ← body.resolve? flags
    return (.times least most? body, after)
  | .group changes body => do
    let (body, _) ← body.resolve? (flags.apply changes)
    return (body, flags)
  | .concatenation members => do
    let (members, after) ← resolveAll? flags members
    return (.sequence members, after)
  | .alternation members => do
    let (members, after) ← resolveAll? flags members
    return (.anyOf members, after)
where
  /-- The expressions for several trees, each under the flags that the ones before it leave. -/
  resolveAll? (flags : Flags) : List Tree → Option (List Expr × Flags)
    | [] => some ([], flags)
    | member :: members => do
      let (first, after) ← member.resolve? flags
      let (rest, after) ← resolveAll? after members
      return (first :: rest, after)

end Tree

end SearchFilter.Regex
