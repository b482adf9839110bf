import EntitySql.Entity

/-!
# Table models

A table model settles which table an entity type stands for and which column each of its mapped
fields has. Fields can be looked up by field name, by column name, or by either, where a field
name goes before a column name.
-/

namespace EntitySql

/-- A field together with its column. -/
structure FieldModel where
  field : String
  column : String
  type : FieldType
  offset : Nat
  /-- The place of the field in the order of declaration. -/
  index : Nat
  deriving DecidableEq, Repr

/-- The table of an entity type. -/
structure TableModel where
  entity : EntityType
  table : String
  /-- The mapped fields in the order of declaration. -/
  fields : List FieldModel
  deriving DecidableEq, Repr

namespace TableModel

/-- The name of the entity type in messages. -/
def typeName (m : TableModel) : String :=
  m.entity.typeName

/-- Whether the model is one of the entity type `e`. -/
def isFor (m : TableModel) (e : EntityType) : Bool :=
  m.entity == e

/-- The field with the field name `name`. -/
def field? (m : TableModel) (name : String) : Option FieldModel :=
  m.fields.find? (·.field == name)

/-- The field with the column name `name`. -/
def column? (m : TableModel) (name : String) : Option FieldModel :=
  m.fields.find? (·.column == name)

/-- The field that `name` stands for in a statement: field names go first. -/
def resolve? (m : TableModel) (name : String) : Option FieldModel :=
  m.field? name <|> m.column? name

/-- The column of the field that `own` stands for, provided that `name` answers to it: as the column
itself or as another name of the same field. -/
def columnAnswering? (m : TableModel) (own name : String) : Option String :=
  match m.resolve? own with
  | none => none
  | some f =>
    if f.column = name ∨ (m.resolve? name).any (·.index == f.index) then some f.column else none

end TableModel

end EntitySql
