import SearchFilter.Regex.Escape

/-!
# Bracketed classes

Brackets nest, and each level may join several unions by operations, which all bind alike and from
the left. The reader keeps the levels that are still open in a list, the innermost first.
-/

namespace SearchFilter.Regex

/-- What has been read of a bracketed class that is still open. -/
structure BracketLevel where
  negated : Bool
  /-- The class before the last operation, and that operation. -/
  pending : Option (CharClass × ClassOperation)
  /-- The members since the last operation, the latest first. -/
  members : List CharClass
deriving Inhabited

namespace BracketLevel

/-- Adds a member to the union that is being read, the last one first. -/
def add (level : BracketLevel) (member : CharClass) : BracketLevel :=
  { level with members := member :: level.members }

/-- All that has been read so far as one class. -/
def body (level : BracketLevel) : CharClass :=
  let last := CharClass.ofItems level.members.reverse
  match level.pending with
  | none => last
  | some (left, operation) => .combine operation left last

/-- Makes what has been read the left side of an operation. -/
def operate (level : BracketLevel) (operation : ClassOperation) : BracketLevel :=
  { level with pending := some (level.body, operation), members := [] }

/-- The class that a level amounts to when its bracket closes. -/
def closed (level : BracketLevel) : CharClass := .bracket level.body level.negated

end BracketLevel

/-- The hyphens at the start of a bracketed class, which stand for themselves. `fuel` is the length
of the text. -/
def spanHyphens (spaced : Bool) : Nat → List Char → List CharClass × List Char
  | fuel + 1, '-' :: rest =>
    let (hyphens, rest) := spanHyphens spaced fuel (skip spaced rest)
    (.literal ⟨'-', false⟩ :: hyphens, rest)
  | _, text => ([], text)

/-- The start of a bracketed class, after the bracket. A closing bracket stands for itself where it
comes first. -/
def openBracket (spaced : Bool) (text : List Char) : BracketLevel × List Char :=
  let (negated, text) :=
    match skip spaced text with
    | '^' :: rest => (true, skip spaced rest)
    | text => (false, text)
  match spanHyphens spaced (text.length + 1) text with
  | ([], ']' :: rest) => (⟨negated, none, [.literal ⟨']', false⟩]⟩, skip spaced rest)
  | (hyphens, rest) => (⟨negated, none, hyphens⟩, rest)

/-- A class written `[:name:]` or `[:^name:]`, after its first bracket. -/
def readPosix : List Char → Option (CharClass × List Char)
  | ':' :: rest =>
    let (negated, rest) :=
      match rest with
      | '^' :: rest => (true, rest)
      | rest => (false, rest)
    match rest.dropWhile fun c => c ≠ ':' with
    | ':' :: ']' :: after =>
      (PosixClass.ofName? (rest.takeWhile fun c => c ≠ ':')).map fun name =>
        (.posix name negated, after)
    | _ => none
  | _ => none

/-- The character that decides whether a hyphen makes a range, given the text after the hyphen. Of
what is ignored, white space and the sign that starts a comment are passed over. -/
def afterHyphen? (spaced : Bool) (text : List Char) : Option Char :=
  if spaced then
    match text.dropWhile Text.isWhiteSpace with
    | '#' :: rest => (rest.dropWhile Text.isWhiteSpace).head?
    | rest => rest.head?
  else text.head?

/-- A member of a bracketed class, or a range of characters from one to another. -/
def readRange (spaced : Bool) (text : List Char) : Option (CharClass × List Char) := do
  let (first, rest) ← readMember spaced text
  match skip spaced rest with
  | [] => none
  | '-' :: rest =>
    let next := afterHyphen? spaced rest
    if next = some ']' || next = some '-' then return (← first.member?, '-' :: rest)
    else
      let (last, rest) ← readMember spaced (skip spaced rest)
      let low ← first.literal?
      let high ← last.literal?
      if low.char ≤ high.char then return (.range low high, rest) else none
  | rest => return (← first.member?, rest)

/-- The rest of a bracketed class, with the level being read and those around it. `fuel` is the
length of the text. -/
def readBracketed (spaced : Bool) :
    Nat → BracketLevel → List BracketLevel → List Char → Option (CharClass × List Char)
  | 0, _, _, _ => none
  | fuel + 1, level, outer, text =>
    match skip spaced text with
    | [] => none
    | '[' :: rest =>
      match readPosix rest with
      | some (member, rest) => readBracketed spaced fuel (level.add member) outer rest
      | none =>
        let (inner, rest) := openBracket spaced rest
        readBracketed spaced fuel inner (level :: outer) rest
    | ']' :: rest =>
      match outer with
      | [] => some (level.closed, rest)
      | parent :: outer => readBracketed spaced fuel (parent.add level.closed) outer rest
    | '&' :: '&' :: rest => readBracketed spaced fuel (level.operate .intersection) outer rest
    | '-' :: '-' :: rest => readBracketed spaced fuel (level.operate .difference) outer rest
    | '~' :: '~' :: rest =>
      readBracketed spaced fuel (level.operate .symmetricDifference) outer rest
    | text => do
      let (member, rest) ← readRange spaced text
      readBracketed spaced fuel (level.add member) outer rest

/-- A bracketed class, after its first bracket. -/
def readClass (spaced : Bool) (text : List Char) : Option (CharClass × List Char) :=
  let (level, rest) := openBracket spaced text
  readBracketed spaced (text.length + 1) level [] rest

end SearchFilter.Regex
