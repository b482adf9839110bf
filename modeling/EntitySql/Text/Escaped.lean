import EntitySql.Text.GraphemeExtend
import EntitySql.Text.Unprintable

/-!
# Characters and strings between quotes

Messages and descriptions show a character or a string between quotes. The enclosing quote and the
backslash take a backslash before them; line ends, tabs and the null character have letters of
their own; combining and unprintable characters are written by their code point.
-/

namespace EntitySql.Text

/-- The code point of a character between braces, in hexadecimal. -/
def codePoint (c : Char) : List Char :=
  "\\u\x7b".toList ++ Nat.toDigits 16 c.toNat ++ ['\x7d']

/-- One character as it stands between two marks `quote`. -/
def escapeChar (quote c : Char) : List Char :=
  if c = '\x00' then ['\\', '0']
  else if c = '\t' then ['\\', 't']
  else if c = '\r' then ['\\', 'r']
  else if c = '\n' then ['\\', 'n']
  else if c = '\\' ∨ c = quote then ['\\', c]
  else if graphemeExtend.contains c ∨ unprintable.contains c then codePoint c
  else [c]

/-- A character between single quotes. -/
def quoteChar (c : Char) : String :=
  String.ofList ('\'' :: escapeChar '\'' c ++ ['\''])

/-- A string between double quotes. -/
def quoteString (s : String) : String :=
  String.ofList ('"' :: s.toList.flatMap (escapeChar '"') ++ ['"'])

end EntitySql.Text
