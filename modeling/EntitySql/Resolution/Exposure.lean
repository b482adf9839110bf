import EntitySql.Registry.Inquiry
import EntitySql.Statement.Basic

/-!
# The columns that a subquery exposes

A statement can refer to the columns of a subquery: those in its select list, or every column of
its entity type where the list is empty. An entry with an alias goes by that alone. An entry
without one goes by its column and by the field name of the column. The first entry that answers
to a name is the one meant.
-/

namespace EntitySql

mutual

/-- The name under which a subquery exposes the column `name`, if it does. -/
def Select.exposed? (query : Select) (name : String) : Inquiry (Option String) :=
  match query with
  | ⟨entity, selections, _, _, _, _, _, _⟩ => do
    let model ← Inquiry.model entity
    match selections with
    | [] => pure ((model.resolve? name).map (·.column))
    | first :: rest => firstExposed? model name (first :: rest)

/-- The name of the first entry that answers to `name`, the select list being one over `model`. -/
def firstExposed? (model : TableModel) (name : String) : List Selection → Inquiry (Option String)
  | [] => pure none
  | ⟨.column c, none⟩ :: rest => do
    match ← c.answering? model name with
    | some column => pure (some column)
    | none => firstExposed? model name rest
  | ⟨_, alias?⟩ :: rest =>
    if alias? = some name then pure (some name) else firstExposed? model name rest

/-- The column that a selected column `c` stands for, if it answers to `name`. -/
def Column.answering? (model : TableModel) (name : String) (c : Column) :
    Inquiry (Option String) :=
  match c with
  | .bare own => pure (model.columnAnswering? own name)
  | .ofTable entity _ own => do
    let other ← Inquiry.model entity
    pure (other.columnAnswering? own name)
  | .ofSubquery query _ own => do
    match ← query.exposed? own with
    | none => pure none
    | some column =>
      if column = name then pure (some column)
      else
        let other? ← query.exposed? name
        pure (if other? = some column then some column else none)

end

end EntitySql
