import EntitySql.Sql.Word
import EntitySql.Value.Basic

/-!
# SQL statements

The statements as they are sent: every name is the name of a table, a column or an alias, and no
entity type is left. A condition that is made of several predicates is one predicate here, their
conjunction.
-/

namespace EntitySql.Sql

/-- A column, with the table or alias that it belongs to where that is said. -/
structure Column where
  qualifier? : Option String
  name : String
  deriving DecidableEq, Repr

/-- What can be selected and compared: a column or an aggregate. -/
inductive Term
  | column (c : Column)
  | aggregate (fn : AggregateFn) (argument : Column)
  /-- The number of rows. -/
  | countAll
  deriving DecidableEq, Repr

/-- An entry of a select list. -/
structure Selection where
  term : Term
  alias? : Option String
  deriving DecidableEq, Repr

mutual

/-- Where rows come from. -/
inductive Source
  | table (name : String) (alias? : Option String)
  | join (kind : JoinKind) (left right : Source) (condition : JoinCondition)
  | subquery (query : Select) (aliasName : String)

/-- Which pairs of rows a join keeps. -/
inductive JoinCondition
  | unconditional
  | holds (p : Predicate)
  | sharing (columns : List String)

/-- A query for rows. -/
structure Select where
  /-- An empty list stands for every column. -/
  selections : List Selection
  source : Source
  filter : Filter
  groupBy : List Column
  having : Filter
  /-- The number of rows at most; 0 stands for no limit. -/
  limit : Nat
  /-- The number of rows left out in front. -/
  offset : Nat

/-- Which rows or groups are kept: all of them or those that a predicate holds of. -/
inductive Filter
  | all
  | only (p : Predicate)

/-- A condition on a row or a group. -/
inductive Predicate
  | compare (op : Comparison) (left : Term) (right : Expr)
  | member (left : Column) (query : Select)
  | not (p : Predicate)
  | exists (query : Select)
  | and (p q : Predicate)
  | or (p q : Predicate)

/-- The right side of a comparison or an assignment. -/
inductive Expr
  | term (t : Term)
  | literal (v : Value)
  | predicate (p : Predicate)
  | subquery (query : Select)
  | quantified (q : Quantifier) (query : Select)

end

/-- The conjunction of a list of predicates, from left to right. -/
def Filter.conjunction : List Predicate → Filter
  | [] => .all
  | p :: rest => .only (rest.foldl .and p)

/-- A change of the columns of some rows. -/
structure Update where
  table : String
  assignments : List (String × Expr)
  filter : Filter

end EntitySql.Sql
