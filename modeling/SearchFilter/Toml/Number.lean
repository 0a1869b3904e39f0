import SearchFilter.Toml.Value

/-!
# Numbers, dates and times

Every reader takes the remaining text and answers what it read together with what follows it, or
nothing where the text does not start as it should.
-/

namespace SearchFilter.Toml

/-- The value of a digit of a base of at most sixteen. -/
def digitValue? (base : Nat) (c : Char) : Option Nat :=
  let value? : Option Nat :=
    if '0' ≤ c && c ≤ '9' then some (c.toNat - '0'.toNat)
    else if 'a' ≤ c && c ≤ 'f' then some (c.toNat - 'a'.toNat + 10)
    else if 'A' ≤ c && c ≤ 'F' then some (c.toNat - 'A'.toNat + 10)
    else none
  value?.filter fun value => value < base

/-- Whether a character is a digit in a base. -/
def isDigit (base : Nat) (c : Char) : Bool := (digitValue? base c).isSome

/-- Digits, with single underscores between them. The underscores are left out. -/
def spanDigits (base : Nat) : List Char → List Char × List Char
  | '_' :: rest => ([], '_' :: rest)
  | c :: '_' :: next :: rest =>
    if isDigit base c && isDigit base next then
      let (digits, rest) := spanDigits base (next :: rest)
      (c :: digits, rest)
    else if isDigit base c then ([c], '_' :: next :: rest)
    else ([], c :: '_' :: next :: rest)
  | c :: rest =>
    if isDigit base c then
      let (digits, rest) := spanDigits base rest
      (c :: digits, rest)
    else ([], c :: rest)
  | [] => ([], [])

/-- The value of digits. -/
def valueOf (base : Nat) (digits : List Char) : Nat :=
  digits.foldl (fun value d => value * base + (digitValue? base d).getD 0) 0

/-- The digits of a decimal number: a zero alone, or digits that do not start with one. -/
def spanWhole : List Char → List Char × List Char
  | '0' :: rest => (['0'], rest)
  | text => spanDigits 10 text

/-- A sign, and whether it is a minus. -/
def spanSign : List Char → Bool × List Char
  | '-' :: rest => (true, rest)
  | '+' :: rest => (false, rest)
  | text => (false, text)

/-- An integer, if it fits sixty-four bits. -/
def integer? (value : Int) : Option Value :=
  if -0x8000000000000000 ≤ value && value ≤ 0x7fffffffffffffff then some (.integer value)
  else none

/-- An integer in another base, after the letter that names the base. -/
def readBased (base : Nat) (text : List Char) : Option (Value × List Char) := do
  let (digits, rest) := spanDigits base text
  if digits.isEmpty then none
  else return (← integer? (valueOf base digits), rest)

/-- An integer. -/
def readInteger : List Char → Option (Value × List Char)
  | '0' :: 'x' :: rest => readBased 16 rest
  | '0' :: 'o' :: rest => readBased 8 rest
  | '0' :: 'b' :: rest => readBased 2 rest
  | text => do
    let (negative, rest) := spanSign text
    let (digits, rest) := spanWhole rest
    let value : Int := valueOf 10 digits
    if digits.isEmpty then none
    else return (← integer? (if negative then -value else value), rest)

/-- The exponent of a floating-point number, after its letter. -/
def readExponent (text : List Char) : Option (Int × List Char) :=
  let (negative, rest) := spanSign text
  let (digits, rest) := spanDigits 10 rest
  let value : Int := valueOf 10 digits
  if digits.isEmpty then none else some (if negative then -value else value, rest)

/-- A floating-point number, which has a fraction, an exponent or both. Those too large for all of
them are refused. -/
def readReal (text : List Char) : Option (Value × List Char) :=
  let (negative, rest) := spanSign text
  let (whole, rest) := spanWhole rest
  let finish (fraction : List Char) (exponent : Int) (rest : List Char) :
      Option (Value × List Char) :=
    let value :=
      Binary64.ofDecimal negative (valueOf 10 (whole ++ fraction)) (exponent - fraction.length)
    if value = .infinity false then none else some (.real value, rest)
  if whole.isEmpty then none
  else
    match rest with
    | '.' :: rest =>
      let (fraction, rest) := spanDigits 10 rest
      if fraction.isEmpty then none
      else
        match rest with
        | c :: afterLetter =>
          if c = 'e' || c = 'E' then do
            let (exponent, rest) ← readExponent afterLetter
            finish fraction exponent rest
          else finish fraction 0 (c :: afterLetter)
        | [] => finish fraction 0 []
    | c :: rest =>
      if c = 'e' || c = 'E' then do
        let (exponent, rest) ← readExponent rest
        finish [] exponent rest
      else none
    | [] => none

/-- An infinity or what is not a number. -/
def readSpecial (text : List Char) : Option (Value × List Char) :=
  let (negative, rest) := spanSign text
  match rest with
  | 'i' :: 'n' :: 'f' :: rest => some (.real (.infinity negative), rest)
  | 'n' :: 'a' :: 'n' :: rest => some (.real .nan, rest)
  | _ => none

/-- Exactly this many digits, as a number. -/
def readFixed (count : Nat) (text : List Char) : Option (Nat × List Char) :=
  let digits := text.take count
  if digits.length = count && digits.all (isDigit 10) then
    some (valueOf 10 digits, text.drop count)
  else none

/-- The number of days of a month. -/
def daysInMonth (year month : Nat) : Nat :=
  if month = 2 then
    if year % 4 = 0 && (year % 100 ≠ 0 || year % 400 = 0) then 29 else 28
  else if month = 4 || month = 6 || month = 9 || month = 11 then 30
  else 31

/-- A date. The answer is what follows it. -/
def skipDate (text : List Char) : Option (List Char) := do
  match ← readFixed 4 text with
  | (year, '-' :: rest) =>
    match ← readFixed 2 rest with
    | (month, '-' :: rest) =>
      let (day, rest) ← readFixed 2 rest
      if 1 ≤ month && month ≤ 12 && 1 ≤ day && day ≤ daysInMonth year month then some rest else none
    | _ => none
  | _ => none

/-- The fraction of a second, if there is one. -/
def skipFraction : List Char → List Char
  | '.' :: c :: rest => if isDigit 10 c then rest.dropWhile (isDigit 10) else '.' :: c :: rest
  | text => text

/-- A time of the day, to seconds at least. -/
def skipTime (text : List Char) : Option (List Char) := do
  match ← readFixed 2 text with
  | (hour, ':' :: rest) =>
    match ← readFixed 2 rest with
    | (minute, ':' :: rest) =>
      let (second, rest) ← readFixed 2 rest
      if hour ≤ 23 && minute ≤ 59 && second ≤ 60 then some (skipFraction rest) else none
    | _ => none
  | _ => none

/-- The distance from universal time. -/
def skipOffset : List Char → Option (List Char)
  | 'Z' :: rest => some rest
  | 'z' :: rest => some rest
  | sign :: rest =>
    if sign = '+' || sign = '-' then do
      match ← readFixed 2 rest with
      | (hour, ':' :: rest) =>
        let (minute, rest) ← readFixed 2 rest
        if hour ≤ 23 && minute ≤ 59 then some rest else none
      | _ => none
    else some (sign :: rest)
  | [] => some []

/-- Whether a text starts like a time of the day. -/
def startsLikeTime : List Char → Bool
  | a :: b :: ':' :: _ => isDigit 10 a && isDigit 10 b
  | _ => false

/-- Whether a text starts like a date. -/
def startsLikeDate : List Char → Bool
  | a :: b :: c :: d :: '-' :: _ => [a, b, c, d].all (isDigit 10)
  | _ => false

/-- A date with or without a time and an offset. -/
def skipDateTime (text : List Char) : Option (List Char) := do
  match ← skipDate text with
  | mark :: rest =>
    if mark = 'T' || mark = 't' || (mark = ' ' && startsLikeTime rest) then
      skipOffset (← skipTime rest)
    else some (mark :: rest)
  | [] => some []

/-- A number, a date or a time. -/
def readNumber (text : List Char) : Option (Value × List Char) :=
  if startsLikeDate text then (skipDateTime text).map fun rest => (.date, rest)
  else if startsLikeTime text then (skipTime text).map fun rest => (.date, rest)
  else ((readReal text).orElse fun _ => readSpecial text).orElse fun _ => readInteger text

end SearchFilter.Toml
