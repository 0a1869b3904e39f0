import SearchFilter.Toml.Value

/-!
# Strings, keys and blanks

Strings stand between double quotes, where a backslash escapes, or between single quotes, where
nothing does; three quotes of a kind enclose a string of several lines. A line ends with a newline,
before which a carriage return may stand.
-/

namespace SearchFilter.Toml

/-- The blanks within a line. -/
def isBlank (c : Char) : Bool := c = ' ' || c = '\t'

/-- What follows the blanks at the front of a text. -/
def skipBlanks (text : List Char) : List Char := text.dropWhile isBlank

/-- Whether a character may stand in comments and strings of one line: no control but the tab. -/
def isPlain (c : Char) : Bool := c = '\t' || (0x20 ≤ c.toNat && c.toNat ≠ 0x7f)

/-- The text after a line end. -/
def skipNewline? : List Char → Option (List Char)
  | '\n' :: rest => some rest
  | '\r' :: '\n' :: rest => some rest
  | _ => none

/-- The text after a comment, up to the end of its line. -/
def skipComment : List Char → List Char
  | '#' :: rest => rest.dropWhile isPlain
  | text => text

/-- The text after the end of a line, before which blanks and a comment may stand. The end of the
text ends a line too. -/
def endLine? (text : List Char) : Option (List Char) :=
  match skipComment (skipBlanks text) with
  | [] => some []
  | rest => skipNewline? rest

/-- The text after blanks, line ends and comments. `fuel` is the length of the text. -/
def skipLines : Nat → List Char → List Char
  | 0, text => text
  | fuel + 1, text =>
    match skipBlanks text with
    | '#' :: rest => skipLines fuel (skipComment ('#' :: rest))
    | rest =>
      match skipNewline? rest with
      | some rest => skipLines fuel rest
      | none => rest

/-- The value of exactly this many hexadecimal digits, as a character. -/
def readCodePoint (count : Nat) (text : List Char) : Option (Char × List Char) :=
  let digits := text.take count
  let digit? (c : Char) : Option Nat :=
    if '0' ≤ c && c ≤ '9' then some (c.toNat - '0'.toNat)
    else if 'a' ≤ c && c ≤ 'f' then some (c.toNat - 'a'.toNat + 10)
    else if 'A' ≤ c && c ≤ 'F' then some (c.toNat - 'A'.toNat + 10)
    else none
  match digits.mapM digit? with
  | none => none
  | some values =>
    let code := values.foldl (fun code value => code * 16 + value) 0
    if digits.length = count && code.isValidChar then some (Char.ofNat code, text.drop count)
    else none

/-- The character of an escape, after the backslash. -/
def readEscape : List Char → Option (Char × List Char)
  | 'b' :: rest => some ('\x08', rest)
  | 't' :: rest => some ('\t', rest)
  | 'n' :: rest => some ('\n', rest)
  | 'f' :: rest => some ('\x0c', rest)
  | 'r' :: rest => some ('\r', rest)
  | '"' :: rest => some ('"', rest)
  | '\\' :: rest => some ('\\', rest)
  | 'u' :: rest => readCodePoint 4 rest
  | 'U' :: rest => readCodePoint 8 rest
  | _ => none

/-- The rest of a string of one line between double quotes. `fuel` exceeds the length of the text.
-/
def readQuoted : Nat → List Char → Option (List Char × List Char)
  | 0, _ => none
  | _ + 1, [] => none
  | _ + 1, '"' :: rest => some ([], rest)
  | fuel + 1, '\\' :: rest => do
    let (c, rest) ← readEscape rest
    let (value, rest) ← readQuoted fuel rest
    return (c :: value, rest)
  | fuel + 1, c :: rest =>
    if isPlain c then do
      let (value, rest) ← readQuoted fuel rest
      return (c :: value, rest)
    else none

/-- The rest of a string of one line between single quotes. -/
def readLiteral (text : List Char) : Option (List Char × List Char) :=
  match text.dropWhile fun c => isPlain c && c ≠ '\'' with
  | '\'' :: rest => some (text.takeWhile fun c => isPlain c && c ≠ '\'', rest)
  | _ => none

/-- The end of a string of several lines: three quotes, before which one or two more may belong to
the string. -/
def closing? (quote : Char) : List Char → Option (List Char × List Char)
  | a :: b :: c :: rest =>
    if a = quote && b = quote && c = quote then
      match rest with
      | d :: e :: rest =>
        if d = quote && e = quote then some ([quote, quote], rest)
        else if d = quote then some ([quote], e :: rest)
        else some ([], d :: e :: rest)
      | [d] => if d = quote then some ([quote], []) else some ([], [d])
      | [] => some ([], [])
    else none
  | _ => none

/-- The rest of a string of several lines. Between double quotes a backslash at the end of a line
takes away all blanks and line ends that follow. `fuel` exceeds the length of the text. -/
def readLines (quote : Char) : Nat → List Char → Option (List Char × List Char)
  | 0, _ => none
  | _ + 1, [] => none
  | fuel + 1, c :: rest =>
    match closing? quote (c :: rest) with
    | some found => some found
    | none =>
      match skipNewline? (c :: rest) with
      | some rest => (readLines quote fuel rest).map fun found => ('\n' :: found.1, found.2)
      | none =>
        if c = '\\' && quote = '"' then
          match skipNewline? (skipBlanks rest) with
          | some next =>
            readLines quote fuel (next.dropWhile fun c => isBlank c || c = '\n' || c = '\r')
          | none => do
            let (escaped, rest) ← readEscape rest
            let (value, rest) ← readLines quote fuel rest
            return (escaped :: value, rest)
        else if isPlain c then
          (readLines quote fuel rest).map fun found => (c :: found.1, found.2)
        else none

/-- A string of several lines, after its opening quotes. A line end that follows them at once does
not belong to it. -/
def openLines (quote : Char) (text : List Char) : Option (List Char × List Char) :=
  readLines quote (text.length + 1) ((skipNewline? text).getD text)

/-- A string. -/
def readString : List Char → Option (List Char × List Char)
  | '"' :: '"' :: '"' :: rest => openLines '"' rest
  | '\'' :: '\'' :: '\'' :: rest => openLines '\'' rest
  | '"' :: rest => readQuoted (rest.length + 1) rest
  | '\'' :: rest => readLiteral rest
  | _ => none

/-- The characters that a key may have without quotes. -/
def isBareKeyChar (c : Char) : Bool := c.isAlphanum || c = '_' || c = '-'

/-- One part of a key: a run of letters, digits, underscores and hyphens, or a string of one line.
-/
def readKeyPart : List Char → Option (String × List Char)
  | '"' :: rest =>
    (readQuoted (rest.length + 1) rest).map fun found => (String.ofList found.1, found.2)
  | '\'' :: rest => (readLiteral rest).map fun found => (String.ofList found.1, found.2)
  | text =>
    let part := text.takeWhile isBareKeyChar
    if part.isEmpty then none else some (String.ofList part, text.dropWhile isBareKeyChar)

/-- The parts of a key, which dots separate. Blanks may stand around each of them. `fuel` exceeds
the number of parts. -/
def readKeyParts : Nat → List Char → Option (List String × List Char)
  | 0, _ => none
  | fuel + 1, text => do
    let (part, rest) ← readKeyPart (skipBlanks text)
    match skipBlanks rest with
    | '.' :: rest =>
      let (parts, rest) ← readKeyParts fuel rest
      return (part :: parts, rest)
    | rest => return ([part], rest)

/-- A key, with the blanks around it. -/
def readKey (text : List Char) : Option (List String × List Char) := readKeyParts maxDepth text

end SearchFilter.Toml
