import EntitySql.Text.Hexadecimal
import EntitySql.Value.Basic

/-!
# Numbers as bytes

Numbers of a fixed size as bytes, the most significant one first, and what is written by them: the
bits of floating-point numbers and the text of identifiers.
-/

namespace EntitySql

/-- The lowest `count` bytes of a number. -/
def bigEndian : Nat → Nat → List UInt8
  | 0, _ => []
  | count + 1, n => bigEndian count (n / 256) ++ [UInt8.ofNat (n % 256)]

/-- The number whose bytes are given. -/
def ofBigEndian (bytes : List UInt8) : Nat :=
  bytes.foldl (fun n b => n * 256 + b.toNat) 0

/-- The text of an identifier: its digits in five groups. -/
def Uuid.text (u : Uuid) : String :=
  let digits := (bigEndian 16 u.bits.toNat).flatMap Text.hexByte
  let group (start count : Nat) := String.ofList ((digits.drop start).take count)
  "-".intercalate [group 0 8, group 8 4, group 12 4, group 16 4, group 20 12]

/-- The identifier with the given digits; dashes between them do not count. -/
def Uuid.ofText? (text : String) : Option Uuid :=
  (Text.hexNumber? (text.toList.filter (· ≠ '-'))).map fun n => ⟨BitVec.ofNat 128 n⟩

end EntitySql
