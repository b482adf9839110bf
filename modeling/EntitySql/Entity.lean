import EntitySql.Text.Escaped
import EntitySql.Value.Basic

/-!
# Entity types

An entity type is a record type that stands for a table: what it is called, the table and columns
it asks for, and how its members lie in memory. Members without a `FieldType` are not mapped.
-/

namespace EntitySql

/-- A mapped member of an entity type. A column of its own replaces the one that follows from its
name. -/
structure Field where
  name : String
  column? : Option String
  type : FieldType
  /-- The distance in bytes from the start of a record. -/
  offset : Nat
  deriving DecidableEq, Repr

/-- A member that no column stands for. -/
structure UnmappedMember where
  name : String
  offset : Nat
  size : Nat
  deriving DecidableEq, Repr

/-- A record type that stands for a table. -/
structure EntityType where
  /-- The modules that the type lies in, which tell apart types of one name. -/
  home : String
  /-- The name of the type with the types it is applied to. -/
  shortName : String
  /-- The name of the type alone. -/
  typeName : String
  /-- A table of its own replaces the one that follows from its name. -/
  table? : Option String
  fields : List Field
  unmapped : List UnmappedMember
  /-- The size of a record in bytes. -/
  size : Nat
  deriving DecidableEq, Repr

/-- How a reference to an entity type describes itself. -/
def EntityType.describe (e : EntityType) : String :=
  "EntityRef(" ++ Text.quoteString e.shortName ++ ")"

end EntitySql
