import EntitySql.Value.Binary

/-!
# Values

A `Value` is what a statement binds to a placeholder and what a field of a record holds. It is
null or belongs to one of ten kinds. A `FieldType` is a kind, with or without null.
-/

namespace EntitySql

/-- A date and time of day without a time zone, as nanoseconds since the start of 1970. -/
structure Timestamp where
  nanoseconds : Int
  deriving DecidableEq, Repr

/-- A universally unique identifier; its first byte is the most significant one. -/
structure Uuid where
  bits : BitVec 128
  deriving DecidableEq, Repr

/-- The kinds of scalars that a field can hold. -/
inductive Kind
  | bool
  | int16
  | int32
  | int64
  | float32
  | float64
  | text
  | bytes
  | timestamp
  | uuid
  deriving DecidableEq, Repr

namespace Kind

/-- The name of a kind in messages. -/
def name : Kind → String
  | bool => "bool"
  | int16 => "i16"
  | int32 => "i32"
  | int64 => "i64"
  | float32 => "f32"
  | float64 => "f64"
  | text => "text"
  | bytes => "bytes"
  | timestamp => "timestamp"
  | uuid => "uuid"

/-- Every kind there is. -/
def all : List Kind :=
  [bool, int16, int32, int64, float32, float64, text, bytes, timestamp, uuid]

/-- The scalars of a kind. -/
def Scalar : Kind → Type
  | bool => Bool
  | int16 => Int16
  | int32 => Int32
  | int64 => Int64
  | float32 => Binary32
  | float64 => Binary64
  | text => String
  | bytes => List UInt8
  | timestamp => Timestamp
  | uuid => Uuid

/-- False, zero, the empty text, no bytes, the start of 1970 and the nil identifier. -/
def zero : (k : Kind) → k.Scalar
  | bool => false
  | int16 => (0 : Int16)
  | int32 => (0 : Int32)
  | int64 => (0 : Int64)
  | float32 => (⟨0⟩ : Binary32)
  | float64 => (⟨0⟩ : Binary64)
  | text => ""
  | bytes => ([] : List UInt8)
  | timestamp => (⟨0⟩ : Timestamp)
  | uuid => (⟨0⟩ : Uuid)

end Kind

/-- A null or a scalar of some kind. -/
inductive Value
  | null
  | bool (b : Bool)
  | int16 (n : Int16)
  | int32 (n : Int32)
  | int64 (n : Int64)
  | float32 (x : Binary32)
  | float64 (x : Binary64)
  | text (s : String)
  | bytes (b : List UInt8)
  | timestamp (t : Timestamp)
  | uuid (u : Uuid)
  deriving DecidableEq, Repr

namespace Value

/-- The kind of a value; null has none. -/
def kind? : Value → Option Kind
  | null => none
  | bool _ => some .bool
  | int16 _ => some .int16
  | int32 _ => some .int32
  | int64 _ => some .int64
  | float32 _ => some .float32
  | float64 _ => some .float64
  | text _ => some .text
  | bytes _ => some .bytes
  | timestamp _ => some .timestamp
  | uuid _ => some .uuid

/-- The name of a value's type in messages. -/
def typeName (v : Value) : String :=
  match v.kind? with
  | none => "null"
  | some k => k.name

def isNull : Value → Bool
  | null => true
  | _ => false

/-- Null and the zero of every kind; a negative zero counts as zero. -/
def isZero : Value → Bool
  | null => true
  | bool b => !b
  | int16 n => n == 0
  | int32 n => n == 0
  | int64 n => n == 0
  | float32 x => x.isZero
  | float64 x => x.isZero
  | text s => s.isEmpty
  | bytes b => b.isEmpty
  | timestamp t => t.nanoseconds == 0
  | uuid u => u.bits == 0

end Value

/-- The type of a mapped field. -/
structure FieldType where
  kind : Kind
  nullable : Bool
  deriving DecidableEq, Repr

namespace FieldType

/-- The name of a field type in messages. -/
def name (t : FieldType) : String :=
  if t.nullable then "Option<" ++ t.kind.name ++ ">" else t.kind.name

/-- Every field type there is. -/
def all : List FieldType :=
  Kind.all.flatMap fun k => [⟨k, false⟩, ⟨k, true⟩]

/-- What a field of the type holds. -/
def Content (t : FieldType) : Type :=
  match t.nullable with
  | true => Option t.kind.Scalar
  | false => t.kind.Scalar

/-- The content a new field starts with: null where the type has it, else the zero of its kind. -/
def zero : (t : FieldType) → t.Content
  | ⟨_, true⟩ => none
  | ⟨k, false⟩ => k.zero

/-- A field that may be null is unset only when it is null; any other is unset while it has the
zero of its kind. -/
def isZero (t : FieldType) (v : Value) : Bool :=
  if t.nullable then v.isNull else v.isZero

/-- The bytes that a field of the type takes up. -/
def size : FieldType → Nat
  | ⟨.bool, _⟩ => 1
  | ⟨.int16, false⟩ => 2
  | ⟨.int16, true⟩ => 4
  | ⟨.int32, false⟩ | ⟨.float32, false⟩ => 4
  | ⟨.int32, true⟩ | ⟨.float32, true⟩ => 8
  | ⟨.int64, false⟩ | ⟨.float64, false⟩ => 8
  | ⟨.int64, true⟩ | ⟨.float64, true⟩ => 16
  | ⟨.text, _⟩ | ⟨.bytes, _⟩ => 24
  | ⟨.timestamp, _⟩ => 12
  | ⟨.uuid, false⟩ => 16
  | ⟨.uuid, true⟩ => 17

/-- The number that the offset of a field of the type is a multiple of. -/
def alignment (t : FieldType) : Nat :=
  match t.kind with
  | .bool | .uuid => 1
  | .int16 => 2
  | .int32 | .float32 | .timestamp => 4
  | .int64 | .float64 | .text | .bytes => 8

end FieldType

end EntitySql
