import EntitySql.Record.Accessor
import EntitySql.Resolution.Select

/-!
# Resolving updates

Each entry in the list of changes comes to an assignment in SQL or drops out. An entry that takes
its value from the updated entity reads it through an accessor, and becomes a literal. Where no
assignment is left there is nothing to update.
-/

namespace EntitySql

/-- Whether an expression is a literal zero. -/
def Expr.isLiteralZero : Expr → Bool
  | .literal v => v.isZero
  | _ => false

/-- The changes as a list, in which every mapped field of the model is named where all of them are
meant. -/
def Assignments.entries (model : TableModel) : Assignments → List Assignment
  | .list entries => entries
  | .nonZeroFields => model.fields.map fun f => .fromEntity (.bare f.field)

/-- A column that takes its value from the updated entity may be qualified only by the table of
that entity. -/
def Column.checkOwn (model : TableModel) : Column → Inquiry Unit
  | .bare _ => pure ()
  | .ofTable entity _ name => do
    let other ← Inquiry.model entity
    if other.entity = model.entity then pure ()
    else .fail (.unsupportedTable (.foreignQualifier "table" name model.typeName))
  | .ofSubquery _ _ name =>
    .fail (.unsupportedTable (.foreignQualifier "subquery" name model.typeName))

/-- The column of `name` in the model of the updated table. -/
def assignedColumn (model : TableModel) (name : String) : Inquiry String := do
  let field ← Inquiry.require (model.resolve? name) (.unknownColumn name)
  pure field.column

/-- The assignment that an entry stands for, if it does not drop out. -/
def Assignment.resolve (model : TableModel) (accessor : Accessor) (value? : Option Record) :
    Assignment → Inquiry (Option (String × Sql.Expr))
  | .assign column value => do
    let column ← assignedColumn model column
    pure (some (column, ← value.resolve model))
  | .assignNonZero column value =>
    if value.isLiteralZero then pure none
    else do
      let column ← assignedColumn model column
      pure (some (column, ← value.resolve model))
  | .fromEntity c => do
    c.checkOwn model
    let record ← Inquiry.require value? (.validation (.missingEntity c.name))
    let field ← Inquiry.require (model.resolve? c.name) (.unknownColumn c.name)
    let value ← Inquiry.done (accessor.get record field.field)
    pure (if field.type.isZero value then none else some (field.column, .literal value))

/-- The assignments of a list of changes. -/
def resolveAssignments (model : TableModel) (accessor : Accessor) (value? : Option Record) :
    List Assignment → Inquiry (List (String × Sql.Expr))
  | [] => pure []
  | entry :: rest => do
    let first? ← entry.resolve model accessor value?
    let more ← resolveAssignments model accessor value? rest
    pure (first?.toList ++ more)

/-- The SQL update of an update. -/
def Update.resolve (strategy : AccessorStrategy) (u : Update) : Inquiry Sql.Update :=
  match u.assignments with
  | .list [] => .fail .noUpdatedColumns
  | assignments => do
    let model ← Inquiry.model u.entity
    let accessor ← Inquiry.done (strategy.accessor u.entity model)
    match ← resolveAssignments model accessor u.value? (assignments.entries model) with
    | [] => .fail .noUpdatedColumns
    | resolved => do pure ⟨model.table, resolved, ← resolveFilter model u.filter⟩

end EntitySql
