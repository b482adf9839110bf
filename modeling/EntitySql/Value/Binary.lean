/-!
# Floating-point numbers by their bits

A floating-point value is stored, sent and compared as the bits of its IEEE 754 encoding. The two
operations that look inside are the test for zero and the widening of a single to a double.
-/

namespace EntitySql

/-- A single precision number: 1 sign bit, 8 exponent bits, 23 fraction bits. -/
structure Binary32 where
  bits : UInt32
  deriving DecidableEq, Repr

/-- A double precision number: 1 sign bit, 11 exponent bits, 52 fraction bits. -/
structure Binary64 where
  bits : UInt64
  deriving DecidableEq, Repr

namespace Binary32

def negative (x : Binary32) : Bool :=
  x.bits.toNat.testBit 31

def exponent (x : Binary32) : Nat :=
  (x.bits.toNat >>> 23) % 256

def fraction (x : Binary32) : Nat :=
  x.bits.toNat % (1 <<< 23)

/-- Both zeros, whatever their sign. -/
def isZero (x : Binary32) : Bool :=
  x.exponent = 0 ∧ x.fraction = 0

def isNaN (x : Binary32) : Bool :=
  x.exponent = 255 ∧ x.fraction ≠ 0

end Binary32

namespace Binary64

/-- The number with the given sign, biased exponent and fraction. -/
def ofParts (negative : Bool) (exponent fraction : Nat) : Binary64 :=
  ⟨UInt64.ofNat ((if negative then 1 <<< 63 else 0) + (exponent <<< 52) + fraction)⟩

def exponent (x : Binary64) : Nat :=
  (x.bits.toNat >>> 52) % 2048

def fraction (x : Binary64) : Nat :=
  x.bits.toNat % (1 <<< 52)

/-- Both zeros, whatever their sign. -/
def isZero (x : Binary64) : Bool :=
  x.exponent = 0 ∧ x.fraction = 0

def isNaN (x : Binary64) : Bool :=
  x.exponent = 2047 ∧ x.fraction ≠ 0

end Binary64

/-- The same number in double precision. Every single is a double: a normal one gets its exponent
rebiased from 127 to 1023, a subnormal one `f · 2⁻¹⁴⁹` is normalised at its highest bit. Infinities
stay; a NaN keeps its sign and its fraction, with the quiet bit set. -/
def Binary32.widen (x : Binary32) : Binary64 :=
  let make := Binary64.ofParts x.negative
  if x.exponent = 255 then
    if x.fraction = 0 then make 2047 0 else make 2047 ((x.fraction <<< 29) ||| (1 <<< 51))
  else if x.exponent = 0 then
    if x.fraction = 0 then make 0 0
    else
      let top := x.fraction.log2
      make (874 + top) ((x.fraction - (1 <<< top)) <<< (52 - top))
  else make (x.exponent + 896) (x.fraction <<< 29)

end EntitySql
