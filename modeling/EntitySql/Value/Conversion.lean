import EntitySql.Value.Basic

/-!
# Values in and out of fields

`toValue` reads the content of a field as a value. `ofValue?` goes the other way: it takes a value
of the field's own kind, a number of a narrower kind of the same sort, which it widens, and null
where the field may be null. Anything else is a `Mismatch`.
-/

namespace EntitySql

/-- A value that a field of type `expected` does not take; `found` names the value's type. -/
structure Mismatch where
  expected : FieldType
  found : String
  deriving DecidableEq, Repr

/-- A scalar as a value. -/
def Kind.toValue : (k : Kind) → k.Scalar → Value
  | .bool, b => .bool b
  | .int16, n => .int16 n
  | .int32, n => .int32 n
  | .int64, n => .int64 n
  | .float32, x => .float32 x
  | .float64, x => .float64 x
  | .text, s => .text s
  | .bytes, b => .bytes b
  | .timestamp, t => .timestamp t
  | .uuid, u => .uuid u

/-- The scalar of kind `k` that a value stands for, if any. -/
def Kind.ofValue? : (k : Kind) → Value → Option k.Scalar
  | .bool, .bool b => some b
  | .int16, .int16 n => some n
  | .int32, .int16 n => some n.toInt32
  | .int32, .int32 n => some n
  | .int64, .int16 n => some n.toInt64
  | .int64, .int32 n => some n.toInt64
  | .int64, .int64 n => some n
  | .float32, .float32 x => some x
  | .float64, .float32 x => some x.widen
  | .float64, .float64 x => some x
  | .text, .text s => some s
  | .bytes, .bytes b => some b
  | .timestamp, .timestamp t => some t
  | .uuid, .uuid u => some u
  | _, _ => none

namespace FieldType

/-- The content of a field as a value. -/
def toValue : (t : FieldType) → t.Content → Value
  | ⟨_, true⟩, none => .null
  | ⟨k, true⟩, some x => k.toValue x
  | ⟨k, false⟩, x => k.toValue x

/-- The content that stands for a value. -/
def ofValue? : (t : FieldType) → Value → Option t.Content
  | ⟨_, true⟩, .null => some none
  | ⟨k, true⟩, v => (k.ofValue? v).map some
  | ⟨k, false⟩, v => k.ofValue? v

/-- The content that stands for a value, or what was expected in its place. -/
def ofValue (t : FieldType) (v : Value) : Except Mismatch t.Content :=
  match t.ofValue? v with
  | some content => .ok content
  | none => .error ⟨t, v.typeName⟩

/-- What is read from a field can be stored in it again. -/
theorem ofValue?_toValue (t : FieldType) (content : t.Content) :
    t.ofValue? (t.toValue content) = some content := by
  rcases t with ⟨k, _ | _⟩
  · cases k <;> rfl
  · cases content with
    | none => rfl
    | some x => cases k <;> rfl

end FieldType

end EntitySql
