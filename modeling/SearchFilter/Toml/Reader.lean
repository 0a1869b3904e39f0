import SearchFilter.Toml.Number
import SearchFilter.Toml.Table
import SearchFilter.Toml.Text

/-!
# Reading configuration texts

A text consists of lines with a key and its value, and of headers that say to which table the lines
after them belong.
-/

namespace SearchFilter.Toml

/-- A value that holds no other values. -/
def readSimple : List Char → Option (Value × List Char)
  | 't' :: 'r' :: 'u' :: 'e' :: rest => some (.bool true, rest)
  | 'f' :: 'a' :: 'l' :: 's' :: 'e' :: rest => some (.bool false, rest)
  | c :: rest =>
    if c = '"' || c = '\'' then
      (readString (c :: rest)).map fun found => (.string (String.ofList found.1), found.2)
    else readNumber (c :: rest)
  | [] => none

mutual

/-- A value. `fuel` exceeds the length of the text, and `depth` counts the arrays and inline tables
that may still be opened. -/
def readValue : Nat → Nat → List Char → Option (Value × List Char)
  | 0, _, _ => none
  | fuel + 1, depth, '[' :: rest =>
    if depth = 0 then none
    else (readItems fuel (depth - 1) rest).map fun found => (.array found.1, found.2)
  | fuel + 1, depth, '\x7b' :: rest =>
    if depth = 0 then none
    else
      match skipBlanks rest with
      | '\x7d' :: rest => some (.table [], rest)
      | rest => (readPairs fuel (depth - 1) [] rest).map fun found =>
          (.table (Growing.finish found.1), found.2)
  | _ + 1, _, text => readSimple text

/-- The items of an array up to its end. A comma may stand after the last one, and lines may end
anywhere between them. -/
def readItems : Nat → Nat → List Char → Option (List Value × List Char)
  | 0, _, _ => none
  | fuel + 1, depth, text =>
    match skipLines text.length text with
    | ']' :: rest => some ([], rest)
    | rest => do
      let (item, rest) ← readValue fuel depth rest
      match skipLines rest.length rest with
      | ']' :: rest => return ([item], rest)
      | ',' :: rest =>
        let (items, rest) ← readItems fuel depth rest
        return (item :: items, rest)
      | _ => none

/-- The pairs of an inline table up to its end, added to those before them. -/
def readPairs : Nat → Nat → Growing → List Char → Option (Growing × List Char)
  | 0, _, _, _ => none
  | fuel + 1, depth, entries, text => do
    match ← readKey text with
    | (path, '=' :: rest) =>
      let (value, rest) ← readValue fuel depth (skipBlanks rest)
      let entries ← entries.add? path value
      match skipBlanks rest with
      | '\x7d' :: rest => return (entries, rest)
      | ',' :: rest => readPairs fuel depth entries rest
      | _ => none
    | _ => none

end

/-- How far the reading of a text has come: all tables so far, and the path of the latest header. -/
structure Progress where
  root : Growing := []
  header : List String := []
deriving Inhabited

namespace Progress

/-- A header in single brackets, after the first one. -/
def readHeader (progress : Progress) (text : List Char) : Option (Progress × List Char) := do
  match ← readKey text with
  | (path, ']' :: rest) =>
    let root ← Growing.modify? (Growing.open? (path.getLastD "")) path.dropLast progress.root
    return (⟨root, path⟩, ← endLine? rest)
  | _ => none

/-- A header in double brackets, after the first two. -/
def readNextHeader (progress : Progress) (text : List Char) : Option (Progress × List Char) := do
  match ← readKey text with
  | (path, ']' :: ']' :: rest) =>
    let root ← Growing.modify? (Growing.openNext? (path.getLastD "")) path.dropLast progress.root
    return (⟨root, path⟩, ← endLine? rest)
  | _ => none

/-- A line with a key and its value. -/
def readPair (progress : Progress) (text : List Char) : Option (Progress × List Char) := do
  match ← readKey text with
  | (path, '=' :: rest) =>
    let (value, rest) ← readValue (rest.length + 1) maxDepth (skipBlanks rest)
    let root ←
      Growing.modify? (fun entries => Growing.add? entries path value) progress.header progress.root
    return (⟨root, progress.header⟩, ← endLine? rest)
  | _ => none

/-- One line that is not blank. -/
def readLine (progress : Progress) : List Char → Option (Progress × List Char)
  | '[' :: '[' :: rest => progress.readNextHeader rest
  | '[' :: rest => progress.readHeader rest
  | text => progress.readPair text

/-- All lines. `fuel` exceeds the length of the text. -/
def readAll : Nat → Progress → List Char → Option Growing
  | 0, _, _ => none
  | fuel + 1, progress, text =>
    match skipLines text.length text with
    | [] => some progress.root
    | rest => do
      let (progress, rest) ← progress.readLine rest
      readAll fuel progress rest

end Progress

/-- The table that a text describes. A mark of the byte order may stand in front. -/
def ofText? (text : String) : Option (List (String × Value)) :=
  let chars :=
    match text.toList with
    | '\ufeff' :: rest => rest
    | chars => chars
  (Progress.readAll (chars.length + 1) {} chars).map Growing.finish

end SearchFilter.Toml
