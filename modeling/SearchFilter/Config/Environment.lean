import SearchFilter.Config.Value
import SearchFilter.Entries
import SearchFilter.Text.CharacterClass

/-!
# Settings from environment variables

A variable belongs to the program if its name starts with the program's own lead in any case; what
follows names the setting in any case. Its text is read as a truth value, a number or a quoted text
where it is one, and otherwise stands for itself.
-/

namespace SearchFilter.Config.Environment

/-- A natural number of sixty-four bits, with or without a plus sign. -/
def natural? (text : List Char) : Option Nat :=
  let digits :=
    match text with
    | '+' :: rest => rest
    | _ => text
  let value := Decimal.valueOf digits
  if !digits.isEmpty && digits.all Char.isDigit && value < UInt64.size then some value else none

/-- A negative integer of sixty-four bits. -/
def negative? : List Char → Option Int
  | '-' :: digits =>
    let value := Decimal.valueOf digits
    if !digits.isEmpty && digits.all Char.isDigit && value ≤ 0x8000000000000000 then
      some (-(value : Int))
    else none
  | _ => none

/-- The value of a text without quotes and brackets. -/
def plain (text : List Char) : Value :=
  match natural? text with
  | some value => .integer value
  | none =>
    match negative? text with
    | some value => .integer value
    | none =>
      match Binary64.ofText? text with
      | some value => .real value
      | none => .text (String.ofList text)

/-- The rest of a text in double quotes, with its escapes resolved. -/
def unquote : List Char → Option (List Char × List Char)
  | [] => none
  | '"' :: rest => some ([], rest)
  | '\\' :: c :: rest => do
    let escaped ←
      match c with
      | '"' => some '"'
      | '\\' => some '\\'
      | '\'' => some '\''
      | 'n' => some '\n'
      | 'r' => some '\r'
      | 't' => some '\t'
      | _ => none
    let (value, rest) ← unquote rest
    return (escaped :: value, rest)
  | c :: rest => do
    let (value, rest) ← unquote rest
    return (c :: value, rest)

/-- The blanks that may stand around a value and its parts. -/
def isBlank (c : Char) : Bool := c = ' ' || c = '\t' || c = '\n' || c = '\x0c' || c = '\r'

/-- Separates the members of arrays and tables, and so stands in no plain text. -/
def isSeparator (c : Char) : Bool :=
  c = ',' || c = '\x7b' || c = '\x7d' || c = '[' || c = ']'

/-- The value of a text that follows one of the forms, blanks around it aside. -/
def read? (text : List Char) : Option Value :=
  let start := text.dropWhile isBlank
  let whole := (start.reverse.dropWhile isBlank).reverse
  match start with
  | '"' :: rest =>
    match unquote rest with
    | some (value, rest) => if rest.all isBlank then some (.text (String.ofList value)) else none
    | none => none
  | '\'' :: c :: '\'' :: rest => if rest.all isBlank then some (.text (String.ofList [c])) else none
  | '\'' :: _ => none
  | '[' :: _ => if whole.getLast? = some ']' then some .array else none
  | '\x7b' :: _ => if whole.getLast? = some '\x7d' then some .table else none
  | _ =>
    if whole = "true".toList then some (.bool true)
    else if whole = "false".toList then some (.bool false)
    else if "true".toList.isPrefixOf whole || "false".toList.isPrefixOf whole then none
    else if whole.any isSeparator then none
    else some (plain (Text.trim whole))

/-- The value that the text of a variable gives. -/
def value (text : String) : Value := (read? text.toList).getD (.text text)

/-- The name of a setting and what follows the first dot in it. -/
def splitName (name : List Char) : String × List Char :=
  (String.ofList (name.takeWhile fun c => c ≠ '.'), (name.dropWhile fun c => c ≠ '.').drop 1)

/-- The setting that a variable gives, if it is one of the program's. A dot in the name leads into a
table. -/
def setting? (lead : String) (given : String × String) : Option (String × Value) :=
  let name := (Text.trim given.1.toList).map Char.toLower
  let own := (lead.toList.map Char.toLower)
  if own.isPrefixOf name then
    match splitName (name.drop own.length) with
    | ("", _) => none
    | (key, []) => some (key, value given.2)
    | (key, '.' :: _) => some (key, value given.2)
    | (key, _) => some (key, .table)
  else none

/-- The settings that the variables give, a later one replacing an earlier one of the same name. -/
def layer (lead : String) (environment : List (String × String)) : Layer :=
  Entries.ofPairs (environment.filterMap (setting? lead))

end SearchFilter.Config.Environment
