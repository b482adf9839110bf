import EntitySql.Declaration.Token
import EntitySql.Text.Hexadecimal
import EntitySql.Text.Identifier

/-!
# Literals

Strings of text or bytes, with escapes or raw, single characters and bytes, and numbers. Any literal
may end in a name, its suffix. Each reader gives what follows what it read.
-/

namespace EntitySql.Declaration

open Text (hexDigit? isNameStart isNameChar)

/-- What the characters of a string stand for. -/
inductive StringKind
  | text
  /-- Bytes, written as ASCII characters. -/
  | bytes
  /-- Text that a null character ends, so that it holds none. -/
  | terminated
  deriving DecidableEq, Repr

/-- Whether a character may stand in a string as it is. -/
def StringKind.permits : StringKind → Char → Bool
  | text, _ => true
  | bytes, c => c.toNat < 128
  | terminated, c => c ≠ '\x00'

/-- Whether the escape of two hexadecimal digits may stand for a number. -/
def StringKind.permitsByte : StringKind → Nat → Bool
  | text, n => n < 128
  | bytes, _ => true
  | terminated, n => n ≠ 0

/-- Puts a character in front of what was read. -/
def pushChar (c : Char) (read : Option (List Char × List Char)) : Option (List Char × List Char) :=
  read.map fun (s, rest) => (c :: s, rest)

/-- The character whose code is written in at most six hexadecimal digits up to a closing brace,
`count` digits of value `code` being read. Underscores may stand after the first digit. -/
def readCode (count code : Nat) : List Char → Option (Char × List Char)
  | [] => none
  | c :: rest =>
    if c = '_' then if count = 0 then none else readCode count code rest
    else if c = '\x7d' then
      if count ≠ 0 ∧ code.isValidChar then some (Char.ofNat code, rest) else none
    else
      match hexDigit? c with
      | some d => if count = 6 then none else readCode (count + 1) (code * 16 + d) rest
      | none => none

/-- The character that an escape stands for, read from after its backslash. -/
def readEscape (kind : StringKind) : List Char → Option (Char × List Char)
  | 'x' :: a :: b :: rest => do
    let n := (← hexDigit? a) * 16 + (← hexDigit? b)
    if kind.permitsByte n then some (Char.ofNat n, rest) else none
  | 'u' :: '\x7b' :: rest => do
    let (c, rest) ← readCode 0 0 rest
    if kind ≠ .bytes ∧ kind.permits c then some (c, rest) else none
  | c :: rest => do
    let c ← [('n', '\n'), ('r', '\r'), ('t', '\t'), ('0', '\x00'), ('\\', '\\'), ('\'', '\''),
      ('"', '"')].lookup c
    if kind.permits c then some (c, rest) else none
  | [] => none

/-- What follows the blanks and line ends at the start of a text, in which no carriage return stands
alone. -/
def skipIndent : List Char → Option (List Char)
  | '\r' :: '\n' :: rest => skipIndent rest
  | '\r' :: _ => none
  | ' ' :: rest | '\t' :: rest | '\n' :: rest => skipIndent rest
  | s => some s

/-- The characters of a string with escapes, from after its opening quote, of which at most `fuel`
are read. A backslash at the end of a line joins it to what follows the indentation of the next;
other line ends stand for a line feed. -/
def readQuoted (kind : StringKind) : Nat → List Char → Option (List Char × List Char)
  | 0, _ | _, [] => none
  | _, '"' :: rest => some ([], rest)
  | fuel + 1, '\r' :: '\n' :: rest => pushChar '\n' (readQuoted kind fuel rest)
  | fuel + 1, '\\' :: '\n' :: rest => do readQuoted kind fuel (← skipIndent rest)
  | fuel + 1, '\\' :: '\r' :: '\n' :: rest => do readQuoted kind fuel (← skipIndent rest)
  | fuel + 1, '\\' :: rest => do
    let (c, rest) ← readEscape kind rest
    pushChar c (readQuoted kind fuel rest)
  | fuel + 1, c :: rest =>
    if c ≠ '\r' ∧ kind.permits c then pushChar c (readQuoted kind fuel rest) else none

/-- The characters of a raw string, from after its opening quote: it goes up to a quote that
`hashes` signs `#` follow. -/
def readRaw (kind : StringKind) (hashes : Nat) : List Char → Option (List Char × List Char)
  | [] => none
  | '\r' :: '\n' :: rest => pushChar '\r' (pushChar '\n' (readRaw kind hashes rest))
  | c :: rest =>
    if c = '"' ∧ rest.take hashes = List.replicate hashes '#' then some ([], rest.drop hashes)
    else if c ≠ '\r' ∧ kind.permits c then pushChar c (readRaw kind hashes rest)
    else none

/-- The characters of a string, from its opening quote on. -/
def readString (kind : StringKind) : List Char → Option (List Char × List Char)
  | '"' :: rest => readQuoted kind (rest.length + 1) rest
  | _ => none

/-- The characters of a raw string, from after the letter that marks it. -/
def readRawString (kind : StringKind) (s : List Char) : Option (List Char × List Char) :=
  let hashes := (s.takeWhile (· == '#')).length
  match s.drop hashes with
  | '"' :: rest => if hashes < 256 then readRaw kind hashes rest else none
  | _ => none

/-- A single character, from after its opening quote. -/
def skipCharacter (kind : StringKind) (s : List Char) : Option (List Char) := do
  let rest ← match s with
    | '\\' :: rest => (readEscape kind rest).map (·.2)
    | c :: rest => if kind.permits c then some rest else none
    | [] => none
  match rest with
  | '\'' :: rest => some rest
  | _ => none

/-- What follows the name at the start of a text, if there is one. -/
def skipSuffix : List Char → List Char
  | c :: rest => if isNameStart c then rest.dropWhile isNameChar else c :: rest
  | [] => []

/-! ### Numbers -/

def isDigitOrUnderscore (c : Char) : Bool :=
  c.isDigit || c == '_'

/-- What follows an exponent, from after its letter: digits, with a sign before them and underscores
anywhere. -/
def skipExponent (signed digits : Bool) : List Char → Option (List Char)
  | [] => if digits then some [] else none
  | c :: rest =>
    if c = '+' ∨ c = '-' then
      if digits then some (c :: rest)
      else if signed then none
      else skipExponent true false rest
    else if c.isDigit then skipExponent signed true rest
    else if c = '_' then skipExponent signed digits rest
    else if digits then some (c :: rest)
    else none

/-- What follows a number with a fraction or an exponent. A dot before a name or another dot is no
part of a number, and after a fraction an exponent may turn out to be a suffix. -/
def skipFloat (s : List Char) : Option (List Char) :=
  match s.dropWhile isDigitOrUnderscore with
  | '.' :: rest =>
    match rest.head? with
    | some c =>
      if c = '.' ∨ isNameStart c then none
      else
        match rest.dropWhile isDigitOrUnderscore with
        | 'e' :: more => some ((skipExponent false false more).getD ('e' :: more))
        | 'E' :: more => some ((skipExponent false false more).getD ('E' :: more))
        | rest => some rest
    | none => some []
  | 'e' :: rest | 'E' :: rest => skipExponent false false rest
  | _ => none

/-- What follows digits of a base and underscores; `digits` tells whether there were digits. Other
letters end the number, other decimal digits are refused. -/
def skipDigits (base : Nat) (digits : Bool) : List Char → Option (List Char)
  | [] => if digits then some [] else none
  | c :: rest =>
    match hexDigit? c with
    | some d =>
      if d < base then skipDigits base true rest
      else if digits ∧ !c.isDigit then some (c :: rest)
      else none
    | none =>
      if c = '_' then
        if digits ∨ base ≠ 10 then skipDigits base digits rest else none
      else if digits then some (c :: rest)
      else none

/-- What follows an integer. -/
def skipInteger : List Char → Option (List Char)
  | '0' :: 'x' :: rest => skipDigits 16 false rest
  | '0' :: 'o' :: rest => skipDigits 8 false rest
  | '0' :: 'b' :: rest => skipDigits 2 false rest
  | s => skipDigits 10 false s

/-- What follows a number and its suffix, `rest` being what follows the number. -/
def endNumber (rest : List Char) : Option (List Char) :=
  let rest := skipSuffix rest
  if (rest.head?.map isNameChar).getD false then none else some rest

def skipNumber (s : List Char) : Option (List Char) :=
  if (s.head?.map Char.isDigit).getD false then
    ((skipFloat s).bind endNumber).or ((skipInteger s).bind endNumber)
  else none

/-! ### All literals -/

/-- The text that was read of `s`, `rest` being left. -/
def textBefore (s rest : List Char) : String :=
  String.ofList (s.take (s.length - rest.length))

/-- The string that a text begins with, and the rest. -/
def stringLiteral? (s : List Char) : Option (Token × List Char) := do
  let (value, rest) ← match s with
    | 'r' :: rest => readRawString .text rest
    | s => readString .text s
  let rest := skipSuffix rest
  pure (.string (String.ofList value) (textBefore s rest), rest)

/-- What follows a string of bytes, a string that a null character ends, a byte or a character. -/
def skipQuoted : List Char → Option (List Char)
  | 'b' :: 'r' :: rest => (readRawString .bytes rest).map fun read => skipSuffix read.2
  | 'c' :: 'r' :: rest => (readRawString .terminated rest).map fun read => skipSuffix read.2
  | 'b' :: '\'' :: rest => (skipCharacter .bytes rest).map skipSuffix
  | 'b' :: rest => (readString .bytes rest).map fun read => skipSuffix read.2
  | 'c' :: rest => (readString .terminated rest).map fun read => skipSuffix read.2
  | '\'' :: rest => (skipCharacter .text rest).map skipSuffix
  | _ => none

/-- The literal that a text begins with, and the rest. -/
def literal? (s : List Char) : Option (Token × List Char) :=
  (stringLiteral? s).or
    (((skipQuoted s).or (skipNumber s)).map fun rest => (.literal (textBefore s rest), rest))

end EntitySql.Declaration
