import SearchFilter.Regex.CharSet
import SearchFilter.Regex.Tree
import SearchFilter.Text.Property
import SearchFilter.Text.Script

/-!
# Properties of characters by name

The sets that `\p` can name: general categories and groups of them, properties, and scripts. Names
are compared in lower case and without separators, and a leading `is` is ignored.
-/

namespace SearchFilter.Regex

open Text

/-- A name in the form in which names are compared. -/
def plainName (name : List Char) : String :=
  let stripped :=
    match name with
    | i :: s :: rest => if i.toLower = 'i' && s.toLower = 's' then rest else name
    | _ => name
  let plain :=
    (stripped.filter fun c => c ≠ ' ' && c ≠ '_' && c ≠ '-' && c.toNat < 0x80).map Char.toLower
  -- What remains of `isc` is not the category `c`.
  if plain = ['c'] && stripped.length < name.length then "isc" else String.ofList plain

namespace CharSet

/-- Letters of all kinds. -/
def letter : Ranges :=
  uppercaseLetter ++ lowercaseLetter ++ titlecaseLetter ++ modifierLetter ++ otherLetter

/-- Letters of the three cases. -/
def casedLetter : Ranges := uppercaseLetter ++ lowercaseLetter ++ titlecaseLetter

/-- Signs that combine with the character before them. -/
def mark : Ranges := nonspacingMark ++ spacingMark ++ enclosingMark

/-- Digits and other numbers. -/
def number : Ranges := decimalNumber ++ letterNumber ++ otherNumber

/-- Punctuation of every kind. -/
def punctuation : Ranges :=
  connectorPunctuation ++ dashPunctuation ++ openPunctuation ++ closePunctuation ++
    initialPunctuation ++ finalPunctuation ++ otherPunctuation

/-- Signs of mathematics, of currencies and others. -/
def symbol : Ranges := mathSymbol ++ currencySymbol ++ modifierSymbol ++ otherSymbol

/-- Spaces and separators of lines and paragraphs. -/
def separator : Ranges := spaceSeparator ++ lineSeparator ++ paragraphSeparator

/-- The general category with a name: its long name or its abbreviation. -/
def ofCategory? (name : String) : Option CharSet :=
  match name with
  | "any" => some (.complement (.ranges []))
  | "ascii" => some (.ranges [(0, 0x7f)])
  | "assigned" => some (.ranges assigned)
  | "l" | "letter" => some (.ranges letter)
  | "lc" | "casedletter" => some (.ranges casedLetter)
  | "lu" | "uppercaseletter" => some (.ranges uppercaseLetter)
  | "ll" | "lowercaseletter" => some (.ranges lowercaseLetter)
  | "lt" | "titlecaseletter" => some (.ranges titlecaseLetter)
  | "lm" | "modifierletter" => some (.ranges modifierLetter)
  | "lo" | "otherletter" => some (.ranges otherLetter)
  | "m" | "mark" | "combiningmark" => some (.ranges mark)
  | "mn" | "nonspacingmark" => some (.ranges nonspacingMark)
  | "mc" | "spacingmark" => some (.ranges spacingMark)
  | "me" | "enclosingmark" => some (.ranges enclosingMark)
  | "n" | "number" => some (.ranges number)
  | "nd" | "decimalnumber" | "digit" => some (.ranges decimalNumber)
  | "nl" | "letternumber" => some (.ranges letterNumber)
  | "no" | "othernumber" => some (.ranges otherNumber)
  | "p" | "punctuation" | "punct" => some (.ranges punctuation)
  | "pc" | "connectorpunctuation" => some (.ranges connectorPunctuation)
  | "pd" | "dashpunctuation" => some (.ranges dashPunctuation)
  | "ps" | "openpunctuation" => some (.ranges openPunctuation)
  | "pe" | "closepunctuation" => some (.ranges closePunctuation)
  | "pi" | "initialpunctuation" => some (.ranges initialPunctuation)
  | "pf" | "finalpunctuation" => some (.ranges finalPunctuation)
  | "po" | "otherpunctuation" => some (.ranges otherPunctuation)
  | "s" | "symbol" => some (.ranges symbol)
  | "sm" | "mathsymbol" => some (.ranges mathSymbol)
  | "sc" | "currencysymbol" => some (.ranges currencySymbol)
  | "sk" | "modifiersymbol" => some (.ranges modifierSymbol)
  | "so" | "othersymbol" => some (.ranges otherSymbol)
  | "z" | "separator" => some (.ranges separator)
  | "zs" | "spaceseparator" => some (.ranges spaceSeparator)
  | "zl" | "lineseparator" => some (.ranges lineSeparator)
  | "zp" | "paragraphseparator" => some (.ranges paragraphSeparator)
  | "c" | "other" =>
    some (.complement (.ranges (letter ++ mark ++ number ++ punctuation ++ symbol ++ separator)))
  | "cc" | "control" | "cntrl" => some (.ranges control)
  | "cf" | "format" => some (.ranges format)
  | "co" | "privateuse" => some (.ranges privateUse)
  | "cs" | "surrogate" => some (.ranges [])
  | "cn" | "unassigned" => some (.complement (.ranges assigned))
  | _ => none

/-- The characters of a script. -/
def ofScript? (name : String) : Option CharSet := (NamedRanges.find? scripts name).map .ranges

/-- Lower-case letters and the other characters that count as lower case. -/
def lowercase : CharSet :=
  .ranges (lowercaseLetter ++ .ofText "
    aa ba 2b0-2b8 2c0-2c1 2e0-2e4 345 37a 10fc 1d2c-1d6a 1d78 1d9b-1dbf 2071 207f 2090-209c
    2170-217f 24d0-24e9 2c7c-2c7d a69c-a69d a770 a7f2-a7f4 a7f8-a7f9 ab5c-ab5f ab69 10780
    10783-10785 10787-107b0 107b2-107ba 1e030-1e06d")

/-- Upper-case letters and the other characters that count as upper case. -/
def uppercase : CharSet :=
  .ranges (uppercaseLetter ++ .ofText "2160-216f 24b6-24cf 1f130-1f149 1f150-1f169 1f170-1f189")

/-- Characters that can start an identifier. -/
def identifierStart : CharSet :=
  .difference (.ranges (letter ++ letterNumber ++ .ofText "1885-1886 2118 212e 309b-309c"))
    (.ranges (.ofText "2e2f"))

/-- Characters that can continue an identifier. -/
def identifierContinue : CharSet :=
  .union identifierStart
    (.ranges (nonspacingMark ++ spacingMark ++ decimalNumber ++ connectorPunctuation ++
      .ofText "b7 387 1369-1371 19da 200c-200d 30fb ff65"))

/-- The property with a name. -/
def ofProperty? (name : String) : Option CharSet :=
  match name with
  | "alphabetic" | "alpha" => some (.ranges alphabetic)
  | "whitespace" | "wspace" | "space" => some (.ranges whiteSpace)
  | "lowercase" | "lower" => some lowercase
  | "uppercase" | "upper" => some uppercase
  | "cased" => some (.union (.union lowercase uppercase) (.ranges titlecaseLetter))
  | "caseignorable" | "ci" =>
    some (.ranges (nonspacingMark ++ enclosingMark ++ format ++ modifierLetter ++ modifierSymbol ++
      .ofText "27 2e 3a b7 387 55f 5f4 2018-2019 2024 2027 fe13 fe52 fe55 ff07 ff0e ff1a"))
  | "graphemeextend" | "grext" => some (.ranges graphemeExtend)
  | "graphemebase" | "grbase" =>
    some (.difference
      (.ranges (letter ++ mark ++ number ++ punctuation ++ symbol ++ spaceSeparator))
      (.ranges graphemeExtend))
  | "idstart" | "ids" => some identifierStart
  | "idcontinue" | "idc" => some identifierContinue
  | "xidstart" | "xids" =>
    some (.difference identifierStart
      (.ranges (.ofText "37a e33 eb3 309b-309c fc5e-fc63 fdfa-fdfb fe70-fe7e/2 ff9e-ff9f")))
  | "xidcontinue" | "xidc" =>
    some (.difference identifierContinue
      (.ranges (.ofText "37a 309b-309c fc5e-fc63 fdfa-fdfb fe70-fe7e/2")))
  | _ => (NamedRanges.find? properties name).map .ranges

/-- The set that a name alone stands for. Properties come first, then general categories, then
scripts. -/
def ofName? (name : String) : Option CharSet :=
  if name = "cf" || name = "sc" || name = "lc" then ofCategory? name
  else
    ((ofProperty? name).orElse fun _ => ofCategory? name).orElse fun _ => ofScript? name

/-- The set of the characters for which a property has a value. -/
def ofValue? (property value : String) : Option CharSet :=
  match property with
  | "generalcategory" | "gc" => ofCategory? value
  | "script" | "sc" => ofScript? value
  | _ => none

end CharSet

namespace PropertyQuery

/-- The set that a query asks for. -/
def set? : PropertyQuery → Option CharSet
  | .named name => CharSet.ofName? (plainName name)
  | .valued property value => CharSet.ofValue? (plainName property) (plainName value)

end PropertyQuery

end SearchFilter.Regex
