import EntitySql.Value.Conversion

/-!
# PostgreSQL types

The types that a PostgreSQL server reports for placeholders and columns, and which of them a scalar
of each kind can be sent as and read from.
-/

namespace EntitySql.Postgres

inductive WireType
  | bool
  | int2
  | int4
  | int8
  | float4
  | float8
  | text
  | varchar
  | bpchar
  | name
  | unknown
  | bytea
  | timestamp
  | timestamptz
  | uuid
  | json
  | numeric
  | date
  deriving DecidableEq, Repr

namespace WireType

def spelling : WireType → String
  | bool => "bool"
  | int2 => "int2"
  | int4 => "int4"
  | int8 => "int8"
  | float4 => "float4"
  | float8 => "float8"
  | text => "text"
  | varchar => "varchar"
  | bpchar => "bpchar"
  | name => "name"
  | unknown => "unknown"
  | bytea => "bytea"
  | timestamp => "timestamp"
  | timestamptz => "timestamptz"
  | uuid => "uuid"
  | json => "json"
  | numeric => "numeric"
  | date => "date"

def all : List WireType :=
  [bool, int2, int4, int8, float4, float8, text, varchar, bpchar, name, unknown, bytea, timestamp,
    timestamptz, uuid, json, numeric, date]

/-- Whether scalars of kind `k` travel as this type. -/
def carries (t : WireType) (k : Kind) : Bool :=
  match k, t with
  | .bool, bool => true
  | .int16, int2 => true
  | .int32, int4 => true
  | .int64, int8 => true
  | .float32, float4 => true
  | .float64, float8 => true
  | .text, text | .text, varchar | .text, bpchar | .text, name | .text, unknown => true
  | .bytes, bytea => true
  | .timestamp, timestamp => true
  | .uuid, uuid => true
  | _, _ => false

end WireType

/-- The type that holds scalars of a kind in the program, as messages call it. -/
def holderName : Kind → String
  | .bool => "bool"
  | .int16 => "i16"
  | .int32 => "i32"
  | .int64 => "i64"
  | .float32 => "f32"
  | .float64 => "f64"
  | .text => "alloc::string::String"
  | .bytes => "alloc::vec::Vec<u8>"
  | .timestamp => "chrono::naive::datetime::NaiveDateTime"
  | .uuid => "uuid::Uuid"

end EntitySql.Postgres
