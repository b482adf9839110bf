import EntitySql.Toml.Basic

/-!
# TOML numbers, truth values, dates and times

A scalar that is no string is a word, whose form says what it is. The form of a number is checked as
far as its underscores and leading zeros go; whether an integer has proper digits and whether a
number is in range only shows in its value.
-/

namespace EntitySql.Toml

/-! ### Dates and times -/

/-- A number of exactly `count` digits, and what follows it. -/
def fixedNumber? (count : Nat) (s : List Char) : Option (Nat × List Char) := do
  let digits := s.take count
  if digits.length < count then none
  else do pure (← number? 10 digits, s.drop count)

def daysInMonth (year month : Nat) : Nat :=
  if month = 2 then
    if year % 4 = 0 ∧ (year % 100 ≠ 0 ∨ year % 400 = 0) then 29 else 28
  else if month ∈ [4, 6, 9, 11] then 30 else 31

/-- A date such as `1979-05-27`, and what follows it. -/
def date? (s : List Char) : Option (List Char) := do
  let (year, s) ← fixedNumber? 4 s
  let (month, s) ← match s with
    | '-' :: s => fixedNumber? 2 s
    | _ => none
  let (day, s) ← match s with
    | '-' :: s => fixedNumber? 2 s
    | _ => none
  if 1 ≤ month ∧ month ≤ 12 ∧ 1 ≤ day ∧ day ≤ daysInMonth year month then some s else none

/-- The hour and the minute of a time, and what follows them. -/
def hourMinute? (s : List Char) : Option (List Char) := do
  let (hour, s) ← fixedNumber? 2 s
  let (minute, s) ← match s with
    | ':' :: s => fixedNumber? 2 s
    | _ => none
  if hour ≤ 23 ∧ minute ≤ 59 then some s else none

/-- A time such as `07:32:00.5`, whose seconds may be left out, and what follows it. -/
def time? (s : List Char) : Option (List Char) := do
  let s ← hourMinute? s
  match s with
  | ':' :: s =>
    let (second, s) ← fixedNumber? 2 s
    if second > 60 then none
    else
      match s with
      | '.' :: fraction =>
        if (fraction.takeWhile Char.isDigit).isEmpty then none
        else some (fraction.dropWhile Char.isDigit)
      | s => some s
  | s => some s

/-- The distance from Greenwich time, or nothing. -/
def isOffset : List Char → Bool
  | [] => true
  | ['Z'] | ['z'] => true
  | '+' :: s | '-' :: s => hourMinute? s = some []
  | _ => false

/-- A date, a time, or both with or without a distance from Greenwich time. -/
def isDateTime (s : List Char) : Bool :=
  time? s = some [] ||
    match date? s with
    | none => false
    | some [] => true
    | some (separator :: s) =>
      (separator == 'T' || separator == 't' || separator == ' ')
        && ((time? s).map isOffset).getD false

/-! ### Numbers -/

/-- Whether each underscore in a text stands between two digits, `before` being the character in
front of the text. -/
def underscoresAfter (isDigit : Char → Bool) (before : Char) : List Char → Bool
  | [] => true
  | '_' :: d :: rest => isDigit before && isDigit d && underscoresAfter isDigit d rest
  | ['_'] => false
  | c :: rest => underscoresAfter isDigit c rest

/-- Whether each underscore in a number stands between two digits. The first one may also follow a
sign. -/
def underscoresFit (isDigit : Char → Bool) : List Char → Bool
  | [] => true
  | '+' :: rest | '-' :: rest => underscoresAfter isDigit '0' rest
  | c :: rest => c ≠ '_' && underscoresAfter isDigit c rest

def isHexDigit (c : Char) : Bool :=
  (Text.hexDigit? c).isSome

/-- The number with the given digits and sign. -/
def signedNumber? (base : Nat) : List Char → Option Int
  | '-' :: c :: digits => (number? base (c :: digits)).map fun n => -(Int.ofNat n)
  | '+' :: c :: digits | c :: digits => (number? base (c :: digits)).map Int.ofNat
  | [] => none

/-- The integer with the given digits, underscores among them. Integers of 128 bits, with or without
a sign, are in range. -/
def integerValue (base : Nat) (s : List Char) : Value :=
  match signedNumber? base (s.filter (· ≠ '_')) with
  | some n =>
    if -(1 <<< 127 : Nat) ≤ n ∧ n < (1 <<< 128 : Nat) then .integer n else .faultyNumber
  | none => .faultyNumber

/-- An integer in the base that its mark stands for, from after the mark. Without digits it is no
number, but has the form of one. -/
def based? (base : Nat) (s : List Char) : Option Value :=
  if s.all (fun c => c == '_' || (digit? base c).isSome) && underscoresFit isHexDigit s then
    some (integerValue base s)
  else none

/-- A decimal integer, of which `s` is the part without a sign. It begins with a digit or an
underscore, and has no needless zero in front; what follows an underscore may be anything that keeps
digits beside underscores. -/
def integer? (word s : List Char) : Option Value :=
  if (s.head? = some '0' && s ≠ ['0']) || !underscoresFit isHexDigit word then none
  else some (integerValue 10 word)

/-- Digits with underscores among them, without the underscores, and what follows them. -/
def readDigits? (s : List Char) : Option (List Char × List Char) :=
  let digits := (s.takeWhile fun c => c.isDigit || c == '_').filter (· ≠ '_')
  if digits.isEmpty then none else some (digits, s.dropWhile fun c => c.isDigit || c == '_')

/-- A number with a fraction, an exponent or both. -/
structure Decimal where
  whole : List Char
  fraction : List Char
  exponent : Int

/-- The fraction of a number, if it has one, and what follows. -/
def readFraction? : List Char → Option (List Char × List Char)
  | '.' :: rest => readDigits? rest
  | s => some ([], s)

/-- The exponent that a number ends in, if it has one. -/
def exponent? : List Char → Option Int
  | [] => some 0
  | 'e' :: '-' :: s | 'E' :: '-' :: s => (digits? s).map fun n => -(Int.ofNat n)
  | 'e' :: '+' :: s | 'E' :: '+' :: s | 'e' :: s | 'E' :: s => (digits? s).map Int.ofNat
  | _ => none
where
  /-- The number that the digits of a whole text make up. -/
  digits? (s : List Char) : Option Nat := do
    match ← readDigits? s with
    | (digits, []) => number? 10 digits
    | _ => none

/-- The decimal number that is written without a sign. -/
def decimal? (s : List Char) : Option Decimal := do
  let (whole, rest) ← readDigits? s
  let (fraction, rest) ← readFraction? rest
  let exponent ← exponent? rest
  if s.head? = some '0' && 1 < whole.length then none else some ⟨whole, fraction, exponent⟩

/-- The least number that is too large for a floating-point number of 64 bits: half a step above the
largest one. -/
def floatBound : Nat := 0x3FFFFFFFFFFFFF <<< 970

/-- Whether the floating-point number of 64 bits nearest to a number is finite. Numbers below
`10 ^ 308` are, those from `10 ^ 309` are not, and what is in between is compared. -/
def Decimal.isFinite (d : Decimal) : Bool :=
  let digits := (d.whole ++ d.fraction).dropWhile (· == '0')
  let shift := d.exponent - d.fraction.length
  let size := digits.length + shift
  if digits.isEmpty || size < 309 then true
  else if 309 < size then false
  else
    match number? 10 digits with
    | none => false
    | some n => n * Nat.pow 10 shift.toNat < floatBound * Nat.pow 10 (-shift).toNat

/-- A number with a fraction or an exponent, of which `s` is the part without a sign. -/
def float? (word s : List Char) : Option Value := do
  let d ← decimal? s
  if underscoresFit Char.isDigit word then
    some (if d.isFinite then .float else .faultyNumber)
  else none

/-- A number, a date or a time, of which `s` is the part without a sign. What follows the first
digits tells them apart. -/
def numeral? (word s : List Char) : Option Value :=
  match s.dropWhile Char.isDigit with
  | '-' :: _ | ':' :: _ => if isDateTime word then some .dateTime else none
  | rest =>
    if rest.any (fun c => c == '.' || c == 'e' || c == 'E') then float? word s
    else
      match rest with
      | [] | '_' :: _ => integer? word s
      | _ => none

/-- What begins with a digit, a sign or an underscore; `s` is the part without a sign. The mark of a
base goes without a sign. -/
def signed? (word s : List Char) : Option Value :=
  match s with
  | '0' :: 'x' :: digits => if word = s then based? 16 digits else none
  | '0' :: 'o' :: digits => if word = s then based? 8 digits else none
  | '0' :: 'b' :: digits => if word = s then based? 2 digits else none
  | c :: _ => if c.isDigit || c == '_' then numeral? word s else none
  | [] => none

/-! ### Words -/

def dropSign : List Char → List Char
  | '+' :: rest | '-' :: rest => rest
  | s => s

/-- The value that a word is written for. -/
def scalar? (word : List Char) : Option Value :=
  let s := dropSign word
  if word = ['t', 'r', 'u', 'e'] then some (.boolean true)
  else if word = ['f', 'a', 'l', 's', 'e'] then some (.boolean false)
  else if s = ['i', 'n', 'f'] ∨ s = ['n', 'a', 'n'] then some .float
  else signed? word s

/-- A character that may stand within a word: anything but signs of the grammar, blanks and line
ends. -/
def isWordChar (c : Char) : Bool :=
  !(isBlank c || c ∈ ['.', '=', ',', '[', ']', '\x7b', '\x7d', '#', '\r', '\n'])

/-- A character that may begin a word or a part of one; quotes begin strings. -/
def isWordStart (c : Char) : Bool :=
  isWordChar c && c ≠ '"' && c ≠ '\''

/-- The word that a text begins with, and what follows it. Dots belong to it, and so do blanks in
front of a character that may begin a word, as between a date and a time. `within` tells whether a
quote would stand within the word. -/
def readWord (within : Bool) : List Char → List Char × List Char
  | [] => ([], [])
  | c :: rest =>
    let belongs := isWordStart c || (within && isWordChar c) || c == '.'
      || (isBlank c && ((skipBlanks rest).head?.map isWordStart).getD false)
    if belongs then
      let (word, rest) := readWord (isWordChar c) rest
      (c :: word, rest)
    else ([], c :: rest)

/-- The value at the start of a text, and what follows it. -/
def readScalar? (s : List Char) : Option (Value × List Char) := do
  let (word, rest) := readWord false s
  pure (← scalar? word, rest)

end EntitySql.Toml
