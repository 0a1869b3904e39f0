import SearchFilter.Regex.Tree
import SearchFilter.Text.CharacterClass

/-!
# Escapes and other single items of a regular expression

Every reader takes the remaining text and answers the item read together with what follows it, or
nothing where the text is not well formed. `spaced` says whether blanks and comments are ignored,
which concerns also the places between the digits of a number.
-/

namespace SearchFilter.Regex

/-- The text after blanks and comments. A comment runs from `#` to the end of its line. -/
def skipBlanks (inComment : Bool) : List Char → List Char
  | [] => []
  | c :: rest =>
    if inComment then skipBlanks (c ≠ '\n') rest
    else if Text.isWhiteSpace c then skipBlanks false rest
    else if c = '#' then skipBlanks true rest
    else c :: rest

/-- The text after what is ignored. -/
def skip (spaced : Bool) (text : List Char) : List Char :=
  if spaced then skipBlanks false text else text

/-- What an escape or a character outside brackets can be. -/
inductive Item
  | literal (literal : Literal)
  | dot
  | anchor (kind : Anchor)
  | chars (set : CharClass)
deriving Inhabited

namespace Item

/-- A single item as a parse tree. -/
def tree : Item → Tree
  | .literal found => .literal found
  | .dot => .dot
  | .anchor kind => .anchor kind
  | .chars set => .chars set

/-- The item as a member of a bracketed class, where positions and `.` have no meaning. -/
def member? : Item → Option CharClass
  | .literal found => some (.literal found)
  | .chars set => some set
  | _ => none

/-- The item as an end of a range. -/
def literal? : Item → Option Literal
  | .literal found => some found
  | _ => none

end Item

/-- The value of a hexadecimal digit in either case. -/
def hexValue? (c : Char) : Option Nat :=
  if '0' ≤ c && c ≤ '9' then some (c.toNat - '0'.toNat)
  else if 'a' ≤ c && c ≤ 'f' then some (c.toNat - 'a'.toNat + 10)
  else if 'A' ≤ c && c ≤ 'F' then some (c.toNat - 'A'.toNat + 10)
  else none

/-- The character with a code point, which is not a surrogate and not beyond the last one. -/
def scalar? (code : Nat) : Option Char :=
  if code.isValidChar then some (Char.ofNat code) else none

/-- Exactly `count` more hexadecimal digits after those read so far. -/
def readHexDigits (spaced : Bool) (value : Nat) : Nat → List Char → Option (Nat × List Char)
  | 0, text => some (value, text)
  | _ + 1, [] => none
  | count + 1, c :: rest => do
    let digit ← hexValue? c
    readHexDigits spaced (value * 16 + digit) count (skip spaced rest)

/-- Hexadecimal digits up to the closing brace. `fuel` is the length of the text. -/
def readBracedHex (spaced : Bool) (value : Nat) (anyDigit : Bool) :
    Nat → List Char → Option (Nat × List Char)
  | 0, _ => none
  | _ + 1, [] => none
  | fuel + 1, c :: rest =>
    if c = '\x7d' then if anyDigit then some (value, skip spaced rest) else none
    else do
      let digit ← hexValue? c
      readBracedHex spaced (value * 16 + digit) true fuel (skip spaced rest)

/-- The character given by its code point, after the letter of the escape. -/
def readCodePoint (spaced : Bool) (digits : Nat) (text : List Char) :
    Option (Literal × List Char) :=
  match skip spaced text with
  | '\x7b' :: rest => do
    let (code, rest) ← readBracedHex spaced 0 false (rest.length + 1) (skip spaced rest)
    return (⟨← scalar? code, false⟩, rest)
  | text => do
    let (code, rest) ← readHexDigits spaced 0 digits text
    return (⟨← scalar? code, digits = 2⟩, rest)

/-- The characters up to the closing brace, without those that are ignored. `fuel` is the length of
the text. -/
def readBraced (spaced : Bool) : Nat → List Char → Option (List Char × List Char)
  | 0, _ => none
  | _ + 1, [] => none
  | fuel + 1, c :: rest =>
    if c = '\x7d' then some ([], rest)
    else do
      let (name, rest) ← readBraced spaced fuel (skip spaced rest)
      return (c :: name, rest)

/-- The parts of a text before and after the first place where another text stands in it. -/
def cutAt? (mark : List Char) : List Char → Option (List Char × List Char)
  | [] => none
  | c :: rest =>
    if mark.isPrefixOf (c :: rest) then some ([], (c :: rest).drop mark.length)
    else (cutAt? mark rest).map fun parts => (c :: parts.1, parts.2)

/-- The query that stands in braces, and whether it is negated once more: a name, or a property and
its value, between which stands `!=`, `:` or `=`. -/
def propertyQuery (text : List Char) : PropertyQuery × Bool :=
  match cutAt? ['!', '='] text with
  | some (property, value) => (.valued property value, true)
  | none =>
    match (cutAt? [':'] text).orElse fun _ => cutAt? ['='] text with
    | some (property, value) => (.valued property value, false)
    | none => (.named text, false)

/-- The class after `\p` or `\P`. -/
def readProperty (spaced negated : Bool) (text : List Char) : Option (CharClass × List Char) :=
  match skip spaced text with
  | [] => none
  | '\x7b' :: rest => do
    let (name, rest) ← readBraced spaced (rest.length + 1) (skip spaced rest)
    let (query, unequal) := propertyQuery name
    return (.property query (negated != unequal), rest)
  | c :: rest => if c = '\\' then none else some (.property (.named [c]) negated, skip spaced rest)

/-- The boundary that a name in braces after `\b` stands for. -/
def namedBoundary? (name : List Char) : Option Anchor :=
  if name = "start".toList then some .wordStart
  else if name = "end".toList then some .wordEnd
  else if name = "start-half".toList then some .wordStartHalf
  else if name = "end-half".toList then some .wordEndHalf
  else none

/-- The characters that the name of a boundary between braces may have. -/
def isBoundaryLetter (c : Char) : Bool := c.isAlpha || c = '-'

/-- Letters of a boundary's name and what follows them. `fuel` is the length of the text. -/
def spanBoundary (spaced : Bool) : Nat → List Char → List Char × List Char
  | fuel + 1, c :: rest =>
    if isBoundaryLetter c then
      let (name, rest) := spanBoundary spaced fuel (skip spaced rest)
      (c :: name, rest)
    else ([], c :: rest)
  | _, text => ([], text)

/-- What `\b` stands for. Braces after it name a boundary unless they start like a count. -/
def readBoundary (spaced : Bool) : List Char → Option (Anchor × List Char)
  | '\x7b' :: rest =>
    match skip spaced rest with
    | [] => none
    | c :: inner =>
      if isBoundaryLetter c then
        match spanBoundary spaced (inner.length + 1) (c :: inner) with
        | (name, '\x7d' :: after) => (namedBoundary? name).map fun kind => (kind, after)
        | _ => none
      else some (.wordBoundary, '\x7b' :: rest)
  | text => some (.wordBoundary, text)

/-- Whether a backslash makes a character stand for itself: every ASCII character but the letters
and digits, which have meanings of their own, and the angle brackets. -/
def isEscapable (c : Char) : Bool :=
  c.toNat < 0x80 && !c.isAlphanum && c ≠ '<' && c ≠ '>'

/-- The item after a backslash. Digits are refused, since there are no back references. -/
def readEscape (spaced : Bool) : List Char → Option (Item × List Char)
  | [] => none
  | c :: rest =>
    if isEscapable c then some (.literal ⟨c, false⟩, rest)
    else
      match c with
      | 'x' => (readCodePoint spaced 2 rest).map fun found => (.literal found.1, found.2)
      | 'u' => (readCodePoint spaced 4 rest).map fun found => (.literal found.1, found.2)
      | 'U' => (readCodePoint spaced 8 rest).map fun found => (.literal found.1, found.2)
      | 'p' => (readProperty spaced false rest).map fun found => (.chars found.1, found.2)
      | 'P' => (readProperty spaced true rest).map fun found => (.chars found.1, found.2)
      | 'd' => some (.chars (.shorthand .digit false), rest)
      | 'D' => some (.chars (.shorthand .digit true), rest)
      | 's' => some (.chars (.shorthand .space false), rest)
      | 'S' => some (.chars (.shorthand .space true), rest)
      | 'w' => some (.chars (.shorthand .word false), rest)
      | 'W' => some (.chars (.shorthand .word true), rest)
      | 'a' => some (.literal ⟨'\x07', false⟩, rest)
      | 'f' => some (.literal ⟨'\x0c', false⟩, rest)
      | 't' => some (.literal ⟨'\t', false⟩, rest)
      | 'n' => some (.literal ⟨'\n', false⟩, rest)
      | 'r' => some (.literal ⟨'\r', false⟩, rest)
      | 'v' => some (.literal ⟨'\x0b', false⟩, rest)
      | 'A' => some (.anchor .textStart, rest)
      | 'z' => some (.anchor .textEnd, rest)
      | 'b' => (readBoundary spaced rest).map fun found => (.anchor found.1, found.2)
      | 'B' => some (.anchor .notWordBoundary, rest)
      | '<' => some (.anchor .wordStart, rest)
      | '>' => some (.anchor .wordEnd, rest)
      | _ => none

/-- One item outside brackets. -/
def readItem (spaced : Bool) : List Char → Option (Item × List Char)
  | [] => none
  | '\\' :: rest => readEscape spaced rest
  | '.' :: rest => some (.dot, rest)
  | '^' :: rest => some (.anchor .lineStart, rest)
  | '$' :: rest => some (.anchor .lineEnd, rest)
  | c :: rest => some (.literal ⟨c, false⟩, rest)

/-- One item within brackets, where only the backslash is special. -/
def readMember (spaced : Bool) : List Char → Option (Item × List Char)
  | [] => none
  | '\\' :: rest => readEscape spaced rest
  | c :: rest => some (.literal ⟨c, false⟩, rest)

/-- Digits of a decimal number, between which may stand what is ignored. `fuel` is the length of the
text. -/
def spanDigits (spaced : Bool) : Nat → List Char → List Char × List Char
  | fuel + 1, c :: rest =>
    if c.isDigit then
      let (digits, rest) := spanDigits spaced fuel (skip spaced rest)
      (c :: digits, rest)
    else ([], c :: rest)
  | _, text => ([], text)

/-- A decimal number below 2³², with the white space around it. -/
def readDecimal (spaced : Bool) (text : List Char) : Option (Nat × List Char) :=
  let start := text.dropWhile Text.isWhiteSpace
  let (digits, rest) := spanDigits spaced (start.length + 1) start
  let value := digits.foldl (fun value d => value * 10 + (d.toNat - '0'.toNat)) 0
  if digits.isEmpty || UInt32.size ≤ value then none
  else some (value, rest.dropWhile Text.isWhiteSpace)

/-- The bounds of a counted repetition, after the opening brace: `n`, `n,` or `n,m` in order. -/
def readCount (spaced : Bool) (text : List Char) : Option ((Nat × Option Nat) × List Char) := do
  let (least, rest) ← readDecimal spaced (skip spaced text)
  match rest with
  | '\x7d' :: rest => return ((least, some least), rest)
  | ',' :: rest =>
    match skip spaced rest with
    | '\x7d' :: rest => return ((least, none), rest)
    | rest =>
      match ← readDecimal spaced rest with
      | (most, '\x7d' :: rest) => if least ≤ most then return ((least, some most), rest) else none
      | _ => none
  | _ => none

end SearchFilter.Regex
