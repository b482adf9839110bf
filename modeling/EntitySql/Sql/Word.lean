/-!
# The words of SQL

Apart from names and placeholders, a statement is made of a fixed stock of words and signs. Each
one is written with the blanks around it.
-/

namespace EntitySql.Sql

/-- The operators that compare two operands. -/
inductive Comparison
  | eq
  | ne
  | lt
  | le
  | gt
  | ge
  | like
  deriving DecidableEq, Repr

def Comparison.text : Comparison → String
  | eq => "="
  | ne => "!="
  | lt => "<"
  | le => "<="
  | gt => ">"
  | ge => ">="
  | like => "LIKE"

/-- The functions that sum up a column over many rows. -/
inductive AggregateFn
  | avg
  | sum
  | count
  | max
  | min
  deriving DecidableEq, Repr

def AggregateFn.text : AggregateFn → String
  | avg => "AVG"
  | sum => "SUM"
  | count => "COUNT"
  | max => "MAX"
  | min => "MIN"

/-- How many rows of a subquery a comparison has to hold for. -/
inductive Quantifier
  | any
  | all
  | some
  deriving DecidableEq, Repr

def Quantifier.text : Quantifier → String
  | any => "ANY"
  | all => "ALL"
  | some => "SOME"

/-- The ways to join two tables. -/
inductive JoinKind
  | inner
  | left
  | right
  deriving DecidableEq, Repr

def JoinKind.text : JoinKind → String
  | inner => "JOIN"
  | left => "LEFT JOIN"
  | right => "RIGHT JOIN"

/-- A word or sign of a statement. -/
inductive Word
  | select
  | star
  | comma
  | dot
  | openParen
  | closeParen
  | aliased
  | from
  | filter
  | groupBy
  | having
  | limit
  | offset
  | condition
  | sharing
  | update
  | set
  | assign
  | compare (op : Comparison)
  | member
  | not
  | exists
  | and
  | or
  | quantifier (q : Quantifier)
  | aggregate (fn : AggregateFn)
  | join (kind : JoinKind)
  | semicolon
  deriving DecidableEq, Repr

/-- A word with the blanks around it. -/
def Word.text : Word → String
  | select => "SELECT "
  | star => "*"
  | comma => ","
  | dot => "."
  | openParen => "("
  | closeParen => ")"
  | aliased => " AS "
  | .from => " FROM "
  | filter => " WHERE "
  | groupBy => " GROUP BY "
  | having => " HAVING "
  | limit => " LIMIT "
  | offset => " OFFSET "
  | condition => " ON "
  | sharing => " USING "
  | update => "UPDATE "
  | set => " SET "
  | assign => " = "
  | compare op => " " ++ op.text ++ " "
  | member => " IN "
  | not => "NOT "
  | .exists => "EXISTS "
  | and => " AND "
  | or => " OR "
  | quantifier q => q.text ++ " "
  | aggregate fn => fn.text
  | join kind => " " ++ kind.text ++ " "
  | semicolon => ";"

end EntitySql.Sql
