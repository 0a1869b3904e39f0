import SearchFilter.Text.CharacterClass

/-!
# Quoted text in messages

A text inside a message stands between double quotes. Quotes and backslashes are escaped, the common
controls have short escapes, and every character that could not be told from its surroundings,
because it has no visible form or combines with its neighbour, is shown by its code point.
-/

namespace SearchFilter.Text

/-- One character inside the quotes. -/
def quoteChar (c : Char) : List Char :=
  if c.toNat = 0 then ['\\', '0']
  else if c = '\t' then ['\\', 't']
  else if c = '\r' then ['\\', 'r']
  else if c = '\n' then ['\\', 'n']
  else if c = '"' then ['\\', '"']
  else if c = '\\' then ['\\', '\\']
  else if graphemeExtend.contains c || !printable.contains c then
    '\\' :: 'u' :: '\x7b' :: Nat.toDigits 16 c.toNat ++ ['\x7d']
  else [c]

/-- A text between double quotes, with whatever could not be read back escaped. -/
def quoted (text : String) : String :=
  String.ofList ('"' :: text.toList.flatMap quoteChar ++ ['"'])

end SearchFilter.Text
