import EntitySql.Model.Derivation
import EntitySql.Record.Basic

/-!
# Accessors

An accessor reads and writes the mapped members of records through a table model, where a member
may be given by its field name or by its column. It either goes by the names of the members or by
the offsets that the model recorded; both come to the same.
-/

namespace EntitySql

/-- How an accessor reaches the members of a record. -/
inductive AccessorStrategy
  /-- By name. -/
  | reflective
  /-- By offset. -/
  | direct
  deriving DecidableEq, Repr

/-- A way into the records of an entity type. -/
structure Accessor where
  strategy : AccessorStrategy
  model : TableModel

/-- The accessor to records of type `e` over a model of that type. The direct one goes by offsets
and so makes sure that they lie inside a record. -/
def AccessorStrategy.accessor (s : AccessorStrategy) (e : EntityType) (m : TableModel) :
    Except Error Accessor :=
  if !m.isFor e then .error (.modelMismatch m.typeName e.shortName)
  else
    match s with
    | .reflective => .ok ⟨s, m⟩
    | .direct =>
      match m.fields.find? fun f => !fits f.type f.offset e.size with
      | some f => .error (.invalidModel m.typeName (.misplacedField f.field f.type f.offset))
      | none => .ok ⟨s, m⟩

namespace Accessor

/-- The value of a member, given by field name or column. -/
def get (a : Accessor) (r : Record) (name : String) : Except Error Value :=
  match a.model.resolve? name with
  | none => .error (.unknownField name)
  | some f =>
    let value? :=
      match a.strategy with
      | .reflective => r.get? f.field
      | .direct => r.load? f.type f.offset
    match value? with
    | some v => .ok v
    | none => .error (.unknownField name)

/-- Stores a value in a member, given by field name or column. On an error the record stays as it
was. -/
def set (a : Accessor) (r : Record) (name : String) (v : Value) : Except Error Record :=
  match a.model.resolve? name with
  | none => .error (.unknownField name)
  | some f =>
    match a.strategy with
    | .reflective => r.set f.field v
    | .direct =>
      match f.type.ofValue v with
      | .error mismatch => .error (.typeMismatch f.field mismatch)
      | .ok content => .ok (r.store f.type f.offset content)

end Accessor

end EntitySql
