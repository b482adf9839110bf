import EntitySql.Text.Hexadecimal

/-!
# TOML values

What a TOML document holds. Numbers with a fraction or an exponent, and dates and times, are told
apart from all else but not kept. A number is looked at closely only where it is used, so a document
may hold text that has the beginning of a number and is none.
-/

namespace EntitySql.Toml

inductive Value
  | string (s : String)
  | integer (n : Int)
  | float
  /-- What begins like a number but is none, or is beyond the range of numbers. -/
  | faultyNumber
  | boolean (b : Bool)
  | dateTime
  | array (elements : List Value)
  | table (entries : List (String × Value))

/-- A line end, and what follows it. -/
def newline? : List Char → Option (List Char)
  | '\n' :: rest => some rest
  | '\r' :: '\n' :: rest => some rest
  | _ => none

def isBlank (c : Char) : Bool :=
  c == ' ' || c == '\t'

/-- Tabs and everything that is no control character. -/
def isText (c : Char) : Bool :=
  c == '\t' || (32 ≤ c.toNat && c.toNat ≠ 127)

def skipBlanks (s : List Char) : List Char :=
  s.dropWhile isBlank

/-- The value of a digit in the given base, of at most 16. -/
def digit? (base : Nat) (c : Char) : Option Nat := do
  let n ← Text.hexDigit? c
  if n < base then some n else none

/-- The number with the given digits. -/
def number? (base : Nat) (digits : List Char) : Option Nat :=
  digits.foldlM (fun n c => (digit? base c).map (n * base + ·)) 0

mutual

/-- Whether all numbers in a value are numbers. -/
def Value.isSound : Value → Bool
  | .faultyNumber => false
  | .array elements => elementsSound elements
  | .table entries => entriesSound entries
  | _ => true

def elementsSound : List Value → Bool
  | [] => true
  | v :: rest => v.isSound && elementsSound rest

def entriesSound : List (String × Value) → Bool
  | [] => true
  | (_, v) :: rest => v.isSound && entriesSound rest

end

end EntitySql.Toml
