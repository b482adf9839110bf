import EntitySql.Error
import EntitySql.Sql.Lexeme
import EntitySql.Text.Quoted

/-!
# Dialects

A dialect says how a database wants names quoted and what it takes for a placeholder. Written in a
dialect, a statement becomes a text and the values bound by its placeholders, in the same order.
-/

namespace EntitySql

/-- What stands in the place of a bound value. -/
inductive PlaceholderStyle
  /-- A question mark each time. -/
  | question
  /-- A dollar sign and the number of the value. -/
  | numbered
  deriving DecidableEq, Repr

/-- A dialect put together from a quote character and a placeholder style. -/
structure CustomDialect where
  quote : Char
  placeholder : PlaceholderStyle
  deriving DecidableEq, Repr

/-- How a database wants its statements written. -/
inductive Dialect
  | mysql
  | sqlite
  | postgres
  | custom (d : CustomDialect)
  deriving DecidableEq, Repr

/-- The visible ASCII characters that are neither letters nor digits. -/
def isAsciiPunctuation (c : Char) : Bool :=
  (33 ≤ c.toNat && c.toNat ≤ 47) || (58 ≤ c.toNat && c.toNat ≤ 64)
    || (91 ≤ c.toNat && c.toNat ≤ 96) || (123 ≤ c.toNat && c.toNat ≤ 126)

namespace CustomDialect

/-- The signs that have another use in a statement, and brackets that are closed by another one. -/
def reserved : List Char :=
  ['?', '$', ';', '\'', ']', '(', ')', '\x7b', '\x7d', '<', '>']

/-- Refuses quote characters that other text could hold. -/
def validate (d : CustomDialect) : Except Error Unit :=
  if !isAsciiPunctuation d.quote || reserved.contains d.quote then
    .error (.config (.invalidQuote d.quote))
  else .ok ()

/-- The custom dialect with the given parts, if its quote character will do. -/
def make (quote : Char) (placeholder : PlaceholderStyle) : Except Error CustomDialect := do
  let d : CustomDialect := ⟨quote, placeholder⟩
  d.validate
  pure d

end CustomDialect

namespace Dialect

/-- Only custom dialects can be invalid. -/
def validate : Dialect → Except Error Unit
  | custom d => d.validate
  | _ => .ok ()

def name : Dialect → String
  | mysql => "mysql"
  | sqlite => "sqlite"
  | postgres => "postgres"
  | custom _ => "custom"

/-- The mark before a quoted name. -/
def openingQuote : Dialect → Char
  | mysql => '\x60'
  | sqlite | postgres => '"'
  | custom d => d.quote

/-- The mark after a quoted name: the opening one, save that a bracket is closed by its
counterpart. -/
def closingQuote (d : Dialect) : Char :=
  if d.openingQuote = '[' then ']' else d.openingQuote

def placeholderStyle : Dialect → PlaceholderStyle
  | mysql | sqlite => .question
  | postgres => .numbered
  | custom d => d.placeholder

/-- The placeholder of the value with the given number, the first one being 1. -/
def placeholder (d : Dialect) (index : Nat) : String :=
  match d.placeholderStyle with
  | .question => "?"
  | .numbered => "$" ++ toString index

/-- A name between the quotes of the dialect. -/
def quote (d : Dialect) (name : String) : List Char :=
  Text.Quoted.encode d.openingQuote d.closingQuote name.toList

/-- The text of lexemes, of which the first value is number `bound + 1`. -/
def write (d : Dialect) (bound : Nat) : List Sql.Lexeme → List Char
  | [] => []
  | .word w :: rest => w.text.toList ++ d.write bound rest
  | .name s :: rest => d.quote s ++ d.write bound rest
  | .value _ :: rest => (d.placeholder (bound + 1)).toList ++ d.write (bound + 1) rest

end Dialect

/-- A statement ready to be sent: its text, and the values that its placeholders stand for. -/
structure Query where
  sql : String
  args : List Value
  deriving DecidableEq, Repr

/-- The values among lexemes. -/
def Sql.boundValues (lexemes : List Sql.Lexeme) : List Value :=
  lexemes.filterMap fun
    | .value v => some v
    | _ => none

/-- The statement of the given lexemes in a dialect, with a semicolon at its end. -/
def Dialect.query (d : Dialect) (lexemes : List Sql.Lexeme) : Query where
  sql := String.ofList (d.write 0 (lexemes ++ [.word .semicolon]))
  args := Sql.boundValues lexemes

end EntitySql
