import EntitySql.Entity
import EntitySql.Error
import EntitySql.Value.Conversion

/-!
# Records

A record is an instance of an entity type. Its members lie at offsets: a mapped one has a name, a
type and content of that type, an unmapped one holds bytes that mean nothing here. A mapped member
can be reached by its name, or by its offset and type.
-/

namespace EntitySql

/-- A mapped member and what it holds. -/
structure Cell where
  name : String
  offset : Nat
  type : FieldType
  content : type.Content

/-- What a cell holds, as a value. -/
def Cell.value (c : Cell) : Value :=
  c.type.toValue c.content

/-- An unmapped member and what it holds. -/
structure Opaque where
  name : String
  offset : Nat
  bytes : List UInt8
  deriving DecidableEq, Repr

/-- An instance of an entity type. -/
structure Record where
  /-- The mapped members in the order of declaration. -/
  cells : List Cell
  unmapped : List Opaque

/-- The record of type `e` in which every mapped member has the zero of its type. -/
def EntityType.zero (e : EntityType) : Record where
  cells := e.fields.map fun f => ⟨f.name, f.offset, f.type, f.type.zero⟩
  unmapped := e.unmapped.map fun m => ⟨m.name, m.offset, List.replicate m.size 0⟩

namespace Record

/-- The values of the mapped members under their names. -/
def row (r : Record) : List (String × Value) :=
  r.cells.map fun c => (c.name, c.value)

/-- Replaces the first cell that `p` holds of. -/
def replaceFirst (p : Cell → Bool) (f : Cell → Cell) : List Cell → List Cell
  | [] => []
  | c :: rest => if p c then f c :: rest else c :: replaceFirst p f rest

/-! ### By name -/

/-- The value of the member `name`. -/
def get? (r : Record) (name : String) : Option Value :=
  (r.cells.find? (·.name == name)).map (·.value)

/-- Stores a value in the member `name`. On an error the record stays as it was. -/
def set (r : Record) (name : String) (v : Value) : Except Error Record :=
  match r.cells.find? (·.name == name) with
  | none => .error (.unknownField name)
  | some c =>
    match c.type.ofValue v with
    | .error mismatch => .error (.typeMismatch name mismatch)
    | .ok content =>
      let fill (c' : Cell) : Cell := ⟨c'.name, c'.offset, c.type, content⟩
      .ok ⟨replaceFirst (·.name == name) fill r.cells, r.unmapped⟩

/-- Stores values in members one after the other. -/
def setAll (r : Record) : List (String × Value) → Except Error Record
  | [] => .ok r
  | (name, v) :: rest => do (← r.set name v).setAll rest

/-! ### By place -/

/-- The value of the member of type `type` at `offset`. -/
def load? (r : Record) (type : FieldType) (offset : Nat) : Option Value :=
  (r.cells.find? fun c => c.offset == offset && c.type == type).map (·.value)

/-- Writes content into the member of type `type` at `offset`. -/
def store (r : Record) (type : FieldType) (offset : Nat) (content : type.Content) : Record :=
  let here (c : Cell) : Bool := c.offset == offset && c.type == type
  let fill (c : Cell) : Cell := ⟨c.name, c.offset, type, content⟩
  ⟨replaceFirst here fill r.cells, r.unmapped⟩

end Record

end EntitySql
