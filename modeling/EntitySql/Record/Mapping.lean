import EntitySql.Record.Accessor

/-!
# Mapping rows to records

A mapping turns the rows of a result into records: a fresh record for each row, into which the
values go column by column. Here a column name goes before a field name.
-/

namespace EntitySql

/-- How the columns of a result fill records. -/
structure Mapping where
  accessor : Accessor

namespace Mapping

def model (m : Mapping) : TableModel :=
  m.accessor.model

/-- A record to fill. -/
def newRow (m : Mapping) : Record :=
  m.model.entity.zero

/-- Stores the value of a result column. -/
def setColumn (m : Mapping) (r : Record) (column : String) (v : Value) : Except Error Record :=
  match m.model.column? column <|> m.model.field? column with
  | none => .error (.unknownColumn column)
  | some f => m.accessor.set r f.field v

/-- Stores the values of several columns, one after the other. -/
def setColumns (m : Mapping) (r : Record) : List (String × Value) → Except Error Record
  | [] => .ok r
  | (column, v) :: rest => do m.setColumns (← m.setColumn r column v) rest

/-- The record of a row that is given column by column. -/
def rowOf (m : Mapping) (columns : List (String × Value)) : Except Error Record :=
  m.setColumns m.newRow columns

/-- How a mapping describes itself. -/
def describe (m : Mapping) : String :=
  "Mapping \x7b table: " ++ Text.quoteString m.model.table ++ " \x7d"

end Mapping

end EntitySql
