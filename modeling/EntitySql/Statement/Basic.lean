import EntitySql.Entity
import EntitySql.Record.Basic
import EntitySql.Sql.Word

/-!
# Statements over entity types

Statements as they are put together in a program. Tables are given by entity types, and columns by
a field name or a column name of the type that they belong to. What these names stand for is
settled against table models when the statement is built.
-/

namespace EntitySql

open Sql (AggregateFn Comparison JoinKind Quantifier)

mutual

/-- A reference to a column. -/
inductive Column
  /-- A column of the entity type of the statement. -/
  | bare (name : String)
  /-- A column of a table, qualified by its alias or else by its name. -/
  | ofTable (entity : EntityType) (alias? : Option String) (name : String)
  /-- A column that a subquery exposes, qualified by its alias. -/
  | ofSubquery (query : Select) (aliasName name : String)

/-- What can be selected and compared. -/
inductive Term
  | column (c : Column)
  | aggregate (fn : AggregateFn) (argument : Column)
  | countAll

/-- An entry of a select list. -/
structure Selection where
  term : Term
  alias? : Option String

/-- Where rows come from. -/
inductive Source
  /-- The table of the entity type of the statement. -/
  | own
  | table (entity : EntityType) (alias? : Option String)
  /-- The pairs of rows that all the predicates hold of; every pair where there is none. -/
  | joinWhere (kind : JoinKind) (left right : Source) (predicates : List Predicate)
  /-- The pairs of rows that agree in the given columns; every pair where there is none. -/
  | joinSharing (kind : JoinKind) (left right : Source) (columns : List String)
  | subquery (query : Select) (aliasName : String)

/-- A query for rows. -/
structure Select where
  entity : EntityType
  /-- An empty list stands for every column. -/
  selections : List Selection
  source : Source
  /-- The predicates that a row has to meet. -/
  filter : List Predicate
  groupBy : List Column
  /-- The predicates that a group has to meet. -/
  having : List Predicate
  /-- The number of rows at most; 0 stands for no limit. -/
  limit : Nat
  /-- The number of rows left out in front. -/
  offset : Nat

/-- A condition on a row or a group. -/
inductive Predicate
  | compare (op : Comparison) (left : Term) (right : Expr)
  | member (left : Column) (query : Select)
  | not (p : Predicate)
  | exists (query : Select)
  | and (p q : Predicate)
  | or (p q : Predicate)

/-- The right side of a comparison or an assignment. -/
inductive Expr
  | term (t : Term)
  | literal (v : Value)
  | predicate (p : Predicate)
  | subquery (query : Select)
  | quantified (q : Quantifier) (query : Select)

end

/-- The name that a column reference goes by. -/
def Column.name : Column → String
  | bare name | ofTable _ _ name | ofSubquery _ _ name => name

/-- The outermost operator of a predicate. -/
def Predicate.operator : Predicate → String
  | compare op _ _ => op.text
  | member _ _ => "IN"
  | not _ => "NOT"
  | .exists _ => "EXISTS"
  | and _ _ => "AND"
  | or _ _ => "OR"

/-- All rows and columns of the table of `e`. -/
def EntityType.rows (e : EntityType) : Select :=
  ⟨e, [], .own, [], [], [], 0, 0⟩

namespace Select

/-- Adds one more predicate that a row has to meet. -/
def andWhere (s : Select) (p : Predicate) : Select :=
  { s with filter := s.filter ++ [p] }

end Select

/-- An entry in the list of changes of an UPDATE. -/
inductive Assignment
  /-- Sets a column to the value of an expression. -/
  | assign (column : String) (value : Expr)
  /-- The same, but left out when the expression is a literal zero. -/
  | assignNonZero (column : String) (value : Expr)
  /-- Sets a column to its value in the updated entity, but is left out while that is the zero of
  the field's type. -/
  | fromEntity (column : Column)

/-- The changes of an UPDATE. -/
inductive Assignments
  | list (entries : List Assignment)
  /-- Every mapped field, taken from the updated entity. -/
  | nonZeroFields

/-- A change of the columns of some rows. -/
structure Update where
  entity : EntityType
  /-- The record that fields can take their values from. -/
  value? : Option Record
  assignments : Assignments
  /-- The predicates that a row has to meet. -/
  filter : List Predicate

/-- An UPDATE that changes nothing yet. -/
def EntityType.update (e : EntityType) : Update :=
  ⟨e, none, .list [], []⟩

end EntitySql
