import EntitySql.Postgres.WireType
import EntitySql.Value.BigEndian
import EntitySql.Value.Calendar

/-!
# The binary format of PostgreSQL

How scalars are sent and read: numbers with their most significant byte first, text as UTF-8, and
timestamps as the microseconds since the start of the year 2000. Null is no bytes at all.
-/

namespace EntitySql.Postgres

/-- The moment that timestamps are counted from. -/
def epoch : Timestamp :=
  Calendar.startOfYear 2000

/-- The whole microseconds from the epoch to a timestamp, rounded toward the epoch. -/
def microseconds (t : Timestamp) : Int64 :=
  Int64.ofInt ((t.nanoseconds - epoch.nanoseconds).tdiv 1000)

/-- The timestamp so many microseconds after the epoch, if there is one. -/
def ofMicroseconds? (n : Int64) : Option Timestamp :=
  let t : Timestamp := ⟨epoch.nanoseconds + n.toInt * 1000⟩
  if Calendar.inRange t then some t else none

/-- The bytes of a value, whatever type is asked for; none for null. -/
def encode : Value → Option (List UInt8)
  | .null => none
  | .bool b => some [if b then 1 else 0]
  | .int16 n => some (bigEndian 2 n.toUInt16.toNat)
  | .int32 n => some (bigEndian 4 n.toUInt32.toNat)
  | .int64 n => some (bigEndian 8 n.toUInt64.toNat)
  | .float32 x => some (bigEndian 4 x.bits.toNat)
  | .float64 x => some (bigEndian 8 x.bits.toNat)
  | .text s => some s.toUTF8.toList
  | .bytes b => some b
  | .timestamp t => some (bigEndian 8 (microseconds t).toUInt64.toNat)
  | .uuid u => some (bigEndian 16 u.bits.toNat)

/-- Any type may be asked for; whether a value can be sent as it is seen value by value. -/
def accepts (_ : WireType) : Bool :=
  true

/-- A value that cannot be sent as a type. -/
structure EncodeFault where
  kind : Kind
  type : WireType
  deriving DecidableEq, Repr

def EncodeFault.message (f : EncodeFault) : String :=
  s!"cannot convert between the Rust type `{holderName f.kind}` "
    ++ s!"and the Postgres type `{f.type.spelling}`"

/-- The bytes of a value sent as a given type. Null can be sent as any type, and a scalar only as
one that carries its kind. -/
def encodeAs (type : WireType) (v : Value) : Except EncodeFault (Option (List UInt8)) :=
  match v.kind? with
  | none => .ok (encode v)
  | some kind => if type.carries kind then .ok (encode v) else .error ⟨kind, type⟩

/-- The scalar of kind `kind` that the bytes stand for. -/
def decodeScalar? (kind : Kind) (bytes : List UInt8) : Option Value :=
  let n := ofBigEndian bytes
  match kind, bytes.length with
  | .bool, 1 => some (.bool (n ≠ 0))
  | .int16, 2 => some (.int16 (Int16.ofNat n))
  | .int32, 4 => some (.int32 (Int32.ofNat n))
  | .int64, 8 => some (.int64 (Int64.ofNat n))
  | .float32, 4 => some (.float32 ⟨UInt32.ofNat n⟩)
  | .float64, 8 => some (.float64 ⟨UInt64.ofNat n⟩)
  | .text, _ => (String.fromUTF8? ⟨bytes.toArray⟩).map .text
  | .bytes, _ => some (.bytes bytes)
  | .timestamp, 8 => (ofMicroseconds? (Int64.ofNat n)).map .timestamp
  | .uuid, 16 => some (.uuid ⟨BitVec.ofNat 128 n⟩)
  | _, _ => none

/-- The value of a cell that is read as a scalar of kind `kind`. The column has to be of a type that
carries the kind, also where the cell is null. -/
def decodeAs? (kind : Kind) (type : WireType) (cell : Option (List UInt8)) : Option Value :=
  if !type.carries kind then none
  else
    match cell with
    | none => some .null
    | some bytes => decodeScalar? kind bytes

end EntitySql.Postgres
