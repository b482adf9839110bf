import EntitySql.Proofs.Records
import Mathlib.Algebra.Group.Nat.Defs

/-!
# Values that fit a field

A field takes the values of its own kind, the numbers of a narrower kind of the same sort, and null
where it may be null. What it then holds is the value itself or the same number in the wider format
(`FieldType.takes_of_ofValue?`, `FieldType.exists_of_takes`). An integer is a number by what it
counts, a floating-point one by its magnitude, which every wider format can tell exactly
(`Binary32.sameAs_widen`).
-/

namespace EntitySql

/-! ### Floating-point numbers -/

/-- A finite number without its sign, counted in units of `2⁻¹⁴⁹`. -/
def Binary32.magnitude (x : Binary32) : Nat :=
  if x.exponent = 0 then x.fraction else (2 ^ 23 + x.fraction) * 2 ^ (x.exponent - 1)

/-- A finite number without its sign, counted in units of `2⁻¹⁰⁷⁴`. -/
def Binary64.magnitude (x : Binary64) : Nat :=
  if x.exponent = 0 then x.fraction else (2 ^ 52 + x.fraction) * 2 ^ (x.exponent - 1)

def Binary64.negative (x : Binary64) : Bool :=
  x.bits.toNat.testBit 63

/-- The double `y` is what the single `x` is: a NaN, an infinity or a number, and of the same
sign. -/
structure Binary32.SameAs (x : Binary32) (y : Binary64) : Prop where
  sign : y.negative = x.negative
  nan : x.isNaN = y.isNaN
  number : x.exponent ≠ 255 → y.exponent ≠ 2047 ∧ y.magnitude = x.magnitude * 2 ^ 925
  infinity : x.exponent = 255 → y.exponent = 2047

section Parts

variable {negative : Bool} {exponent fraction : Nat}

namespace Binary64

/-- What a number was made of is found in its bits. -/
theorem toNat_ofParts (he : exponent < 2048) (hf : fraction < 2 ^ 52) :
    (ofParts negative exponent fraction).bits.toNat =
      (if negative then 2 ^ 63 else 0) + exponent * 2 ^ 52 + fraction := by
  have small : (if negative then 2 ^ 63 else 0) + exponent * 2 ^ 52 + fraction < 2 ^ 64 := by
    split <;> omega
  rw [ofParts, UInt64.toNat_ofNat', Nat.shiftLeft_eq, Nat.shiftLeft_eq, Nat.one_mul]
  exact Nat.mod_eq_of_lt small

theorem exponent_ofParts (he : exponent < 2048) (hf : fraction < 2 ^ 52) :
    (ofParts negative exponent fraction).exponent = exponent := by
  rw [Binary64.exponent, toNat_ofParts he hf, Nat.shiftRight_eq_div_pow]
  split <;> omega

theorem fraction_ofParts (he : exponent < 2048) (hf : fraction < 2 ^ 52) :
    (ofParts negative exponent fraction).fraction = fraction := by
  rw [Binary64.fraction, toNat_ofParts he hf, Nat.shiftLeft_eq, Nat.one_mul]
  split <;> omega

theorem negative_ofParts (he : exponent < 2048) (hf : fraction < 2 ^ 52) :
    (ofParts negative exponent fraction).negative = negative := by
  rw [Binary64.negative, toNat_ofParts he hf, Nat.testBit_eq_decide_div_mod_eq]
  cases negative with
  | false => simp; omega
  | true => simp; omega

end Binary64

end Parts

namespace Binary32

variable {x : Binary32}

theorem fraction_lt (x : Binary32) : x.fraction < 2 ^ 23 :=
  Nat.mod_lt _ (by decide)

theorem exponent_lt (x : Binary32) : x.exponent < 256 :=
  Nat.mod_lt _ (by decide)

/-- A double with the sign, the magnitude and the sort of a single is the same. -/
theorem sameAs_ofParts {exponent fraction : Nat} (he : exponent < 2048) (hf : fraction < 2 ^ 52)
    (special : x.exponent = 255 ↔ exponent = 2047)
    (nan : x.exponent = 255 → (x.fraction = 0 ↔ fraction = 0))
    (magnitude : x.exponent ≠ 255 →
      (if exponent = 0 then fraction else (2 ^ 52 + fraction) * 2 ^ (exponent - 1)) =
        x.magnitude * 2 ^ 925) :
    x.SameAs (.ofParts x.negative exponent fraction) where
  sign := Binary64.negative_ofParts he hf
  nan := by
    rw [isNaN, Binary64.isNaN, Binary64.exponent_ofParts he hf, Binary64.fraction_ofParts he hf,
      decide_eq_decide, special]
    exact and_congr_right fun h => not_congr (nan (special.2 h))
  number := by
    intro finite
    rw [Binary64.magnitude, Binary64.exponent_ofParts he hf, Binary64.fraction_ofParts he hf]
    exact ⟨mt special.2 finite, magnitude finite⟩
  infinity := by
    rw [Binary64.exponent_ofParts he hf]
    exact special.1

/-- Infinities and NaNs. -/
theorem sameAs_special (special : x.exponent = 255) {fraction : Nat} (hf : fraction < 2 ^ 52)
    (whole : x.fraction = 0 ↔ fraction = 0) : x.SameAs (.ofParts x.negative 2047 fraction) := by
  apply sameAs_ofParts (by decide) hf
  · simp [special]
  · intro _
    exact whole
  · intro finite
    exact absurd special finite

theorem sameAs_zero (small : x.exponent = 0) (zero : x.fraction = 0) :
    x.SameAs (.ofParts x.negative 0 0) := by
  apply sameAs_ofParts (by decide) (by decide)
  · simp [small]
  · simp [zero]
  · intro _
    have nothing : x.magnitude = 0 := (if_pos small).trans zero
    simp only [if_pos, nothing, Nat.zero_mul]

/-- The highest bit of a subnormal number becomes the leading one of a normal number. -/
theorem sameAs_subnormal (small : x.exponent = 0) (zero : x.fraction ≠ 0) :
    x.SameAs (.ofParts x.negative (874 + x.fraction.log2)
      ((x.fraction - 2 ^ x.fraction.log2) * 2 ^ (52 - x.fraction.log2))) := by
  have low : 2 ^ x.fraction.log2 ≤ x.fraction := Nat.log2_self_le zero
  have high : x.fraction < 2 ^ (x.fraction.log2 + 1) := Nat.lt_log2_self
  have top_lt : x.fraction.log2 < 23 := (Nat.log2_lt zero).2 x.fraction_lt
  generalize x.fraction.log2 = top at low high top_lt ⊢
  have scale : 2 ^ 52 = 2 ^ top * 2 ^ (52 - top) := by
    rw [← Nat.pow_add, Nat.add_sub_cancel' (by omega)]
  have leading : 2 ^ 52 + (x.fraction - 2 ^ top) * 2 ^ (52 - top) =
      x.fraction * 2 ^ (52 - top) := by
    rw [scale, ← Nat.add_mul, Nat.add_sub_cancel' low]
  have within : (x.fraction - 2 ^ top) * 2 ^ (52 - top) < 2 ^ 52 := by
    rw [Nat.pow_succ] at high
    rw [scale]
    exact Nat.mul_lt_mul_of_pos_right (by omega) (Nat.two_pow_pos _)
  have large : ¬874 + top = 0 := by omega
  apply sameAs_ofParts (by omega) within
  · omega
  · omega
  · intro _
    rw [if_neg large, magnitude, if_pos small, leading, Nat.mul_assoc, ← Nat.pow_add]
    congr 2
    omega

/-- A normal number gets another bias, and zeros behind its fraction. -/
theorem sameAs_normal (special : x.exponent ≠ 255) (small : x.exponent ≠ 0) :
    x.SameAs (.ofParts x.negative (x.exponent + 896) (x.fraction * 2 ^ 29)) := by
  have fraction := x.fraction_lt
  have exponent := x.exponent_lt
  have large : ¬x.exponent + 896 = 0 := by omega
  have leading : 2 ^ 52 + x.fraction * 2 ^ 29 = (2 ^ 23 + x.fraction) * 2 ^ 29 := by omega
  have scale : 2 ^ 29 * 2 ^ (x.exponent + 896 - 1) = 2 ^ (x.exponent - 1) * 2 ^ 925 := by
    rw [← Nat.pow_add, ← Nat.pow_add 2 (x.exponent - 1) 925,
      show 29 + (x.exponent + 896 - 1) = x.exponent - 1 + 925 by omega]
  apply sameAs_ofParts (by omega) (by omega)
  · omega
  · omega
  · intro _
    rw [if_neg large, magnitude, if_neg small, leading, Nat.mul_assoc, scale, Nat.mul_assoc]

/-- Widening changes nothing but the format: every single is a double. -/
theorem sameAs_widen (x : Binary32) : x.SameAs x.widen := by
  unfold widen
  simp only [Nat.shiftLeft_eq, Nat.one_mul]
  split
  case isTrue special =>
    split
    case isTrue whole => exact sameAs_special special (by decide) (by simp [whole])
    case isFalse payload =>
      have fraction := x.fraction_lt
      -- The quiet bit fits beside the fraction.
      have within : x.fraction * 2 ^ 29 ||| 2 ^ 51 < 2 ^ 52 :=
        Nat.or_lt_two_pow (by omega) (by decide)
      exact sameAs_special special within (by simp [payload])
  case isFalse special =>
    split
    case isTrue small =>
      split
      case isTrue zero => exact sameAs_zero small zero
      case isFalse zero => exact sameAs_subnormal small zero
    case isFalse small => exact sameAs_normal special small

end Binary32
/-! ### Fitting values -/

/-- A scalar of kind `k` that is given as `v` is `w`. -/
inductive Kind.Widens : Kind → Value → Value → Prop
  | same {k : Kind} {v : Value} (own : v.kind? = some k) : Widens k v v
  | int16ToInt32 {n : Int16} {n' : Int32} (number : n'.toInt = n.toInt) :
    Widens .int32 (.int16 n) (.int32 n')
  | int16ToInt64 {n : Int16} {n' : Int64} (number : n'.toInt = n.toInt) :
    Widens .int64 (.int16 n) (.int64 n')
  | int32ToInt64 {n : Int32} {n' : Int64} (number : n'.toInt = n.toInt) :
    Widens .int64 (.int32 n) (.int64 n')
  | float32ToFloat64 {x : Binary32} {y : Binary64} (number : x.SameAs y) :
    Widens .float64 (.float32 x) (.float64 y)

/-- A field of type `t` that is given `v` holds `w`. -/
inductive FieldType.Takes (t : FieldType) : Value → Value → Prop
  | null (nullable : t.nullable = true) : Takes t .null .null
  | scalar {v w : Value} (widened : t.kind.Widens v w) : Takes t v w

/-- A scalar that stands for a value is that value, widened. -/
theorem Kind.widens_of_ofValue? {k : Kind} {v : Value} {x : k.Scalar} (h : k.ofValue? v = some x) :
    k.Widens v (k.toValue x) := by
  cases k <;> cases v <;> cases h
  case int32.int16 n => exact .int16ToInt32 n.toInt_toInt32
  case int64.int16 n => exact .int16ToInt64 n.toInt_toInt64
  case int64.int32 n => exact .int32ToInt64 n.toInt_toInt64
  case float64.float32 x => exact .float32ToFloat64 x.sameAs_widen
  all_goals exact .same rfl

theorem Kind.exists_of_widens {k : Kind} {v w : Value} (h : k.Widens v w) :
    ∃ x, k.ofValue? v = some x := by
  cases h with
  | same own => cases v <;> cases own <;> exact ⟨_, rfl⟩
  | int16ToInt32 | int16ToInt64 | int32ToInt64 | float32ToFloat64 => exact ⟨_, rfl⟩

namespace FieldType

variable {t : FieldType} {v w : Value}

/-- The content that stands for a value reads as what the field takes the value for. -/
theorem takes_of_ofValue? {content : t.Content} (h : t.ofValue? v = some content) :
    t.Takes v (t.toValue content) := by
  obtain ⟨k, _ | _⟩ := t
  · exact .scalar (Kind.widens_of_ofValue? h)
  · cases v
    case null =>
      cases h
      exact .null rfl
    all_goals
      obtain ⟨x, scalar, rfl⟩ := Option.map_eq_some_iff.1 h
      exact .scalar (Kind.widens_of_ofValue? scalar)

/-- What a field takes has a content that stands for it. -/
theorem exists_of_takes (h : t.Takes v w) : ∃ content, t.ofValue? v = some content := by
  obtain ⟨k, _ | _⟩ := t
  · cases h with
    | null nullable => cases nullable
    | scalar widened => exact Kind.exists_of_widens widened
  · cases h with
    | null => exact ⟨_, rfl⟩
    | scalar widened =>
      obtain ⟨x, scalar⟩ := Kind.exists_of_widens widened
      cases v
      case null => exact ⟨_, rfl⟩
      all_goals exact ⟨_, Option.map_eq_some_iff.2 ⟨x, scalar, rfl⟩⟩

end FieldType

end EntitySql
