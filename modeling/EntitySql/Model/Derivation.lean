import EntitySql.Error
import EntitySql.Model.Basic
import EntitySql.Text.SnakeCase

/-!
# Deriving table models

A table or column name is the one given on registration, else the one that the entity type asks
for, else the snake case of the type or field name. A model is derived only where every name is
present, no two fields share a field name or a column, and every field lies inside the record.
-/

namespace EntitySql

/-- What a registration says of names. -/
inductive ModelOption
  | table (name : String)
  | column (field column : String)
  deriving DecidableEq, Repr

namespace ModelOption

/-- The table name among `options`; a later one replaces an earlier one. -/
def table? (options : List ModelOption) : Option String :=
  (options.filterMap fun
    | table name => some name
    | column _ _ => none).getLast?

/-- The column of `field` among `options`; a later one replaces an earlier one. -/
def column? (options : List ModelOption) (field : String) : Option String :=
  (options.filterMap fun
    | column f c => if f = field then some c else none
    | table _ => none).getLast?

/-- The first field that an option names and the entity type does not have. -/
def strayField? (options : List ModelOption) (e : EntityType) : Option String :=
  options.findSome? fun
    | column f _ => if e.fields.any (·.name == f) then none else some f
    | table _ => none

end ModelOption

/-- Whether a field of type `type` at `offset` lies inside a record of `size` bytes, at a multiple
of its alignment. -/
def fits (type : FieldType) (offset size : Nat) : Bool :=
  offset + type.size ≤ size ∧ offset % type.alignment = 0

namespace EntityType

/-- The name of the table that `e` stands for. -/
def tableName (e : EntityType) (options : List ModelOption) : String :=
  (ModelOption.table? options <|> e.table?).getD (Text.snakeCase e.typeName)

/-- The name of the column that the field `f` has. -/
def columnName (options : List ModelOption) (f : Field) : String :=
  (ModelOption.column? options f.name <|> f.column?).getD (Text.snakeCase f.name)

/-- Checks that the next field is named, lies inside the record, and shares no name with the fields
that went before it. -/
def checkField (e : EntityType) (before : List FieldModel) (f : FieldModel) :
    Except ModelFault Unit := do
  if f.field.isEmpty || f.column.isEmpty then throw .emptyName
  if !fits f.type f.offset e.size then throw (.misplacedField f.field f.type f.offset)
  if before.any (·.field == f.field) then throw (.duplicateField f.field)
  if before.any (·.column == f.column) then throw (.duplicateColumn f.column)

/-- The models of the remaining fields, the fields before them being `before`. -/
def fieldModels (e : EntityType) (options : List ModelOption) (before : List FieldModel) :
    List Field → Except ModelFault (List FieldModel)
  | [] => pure []
  | f :: rest => do
    let model : FieldModel := ⟨f.name, columnName options f, f.type, f.offset, before.length⟩
    checkField e before model
    let more ← fieldModels e options (before ++ [model]) rest
    pure (model :: more)

/-- The model of `e` under the given options, or the first thing that stands in its way. -/
def deriveModel (e : EntityType) (options : List ModelOption) : Except Error TableModel := do
  if e.fields.isEmpty then throw (.unsupportedType e.typeName)
  if let some field := ModelOption.strayField? options e then throw (.unknownField field)
  let table := e.tableName options
  if table.isEmpty then throw (.invalidModel e.typeName .emptyTable)
  match fieldModels e options [] e.fields with
  | .error fault => throw (.invalidModel e.typeName fault)
  | .ok fields => pure ⟨e, table, fields⟩

end EntityType

end EntitySql
