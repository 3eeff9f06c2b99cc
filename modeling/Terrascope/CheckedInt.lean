import Mathlib.Algebra.Order.Ring.Int
import Mathlib.Tactic.Linarith

/-!
# Checked integer arithmetic

C computes with integers of a few widths and converts between them without
saying so: a sum can wrap, and a negative number becomes a large one where
an unsigned type is needed. Here an expression is computed in `ℤ` instead,
and every operation has to produce a number its type holds. Where that
succeeds the machine computes the same (`toInt_sub_of_int32` and the lemmas
after it), so an expression for which it always succeeds never wraps, never
converts a negative number and never divides by zero.
-/

namespace CheckedInt

/-- A number that has to lie in the range of a type. -/
def inRange (lo hi v : ℤ) : Option ℤ := if lo ≤ v ∧ v < hi then some v else none

/-- A number that has to be an `int32_t`. -/
def int32 (v : ℤ) : Option ℤ := inRange (-2 ^ 31) (2 ^ 31) v

/-- A number that has to be a `uint32_t`. -/
def uint32 (v : ℤ) : Option ℤ := inRange 0 (2 ^ 32) v

/-- A quotient, whose divisor has to be one. -/
def div (a b : ℤ) : Option ℤ := if b = 0 then none else some (a / b)

theorem inRange_eq_some {lo hi v w : ℤ} :
    inRange lo hi v = some w ↔ (lo ≤ v ∧ v < hi) ∧ v = w := by
  unfold inRange
  split
  · next h => rw [Option.some_inj, and_iff_right h]
  · next h => exact iff_of_false nofun (fun hw => h hw.1)

theorem int32_eq_some {v w : ℤ} : int32 v = some w ↔ (-2 ^ 31 ≤ v ∧ v < 2 ^ 31) ∧ v = w :=
  inRange_eq_some

theorem uint32_eq_some {v w : ℤ} : uint32 v = some w ↔ (0 ≤ v ∧ v < 2 ^ 32) ∧ v = w :=
  inRange_eq_some

theorem div_eq_some {a b w : ℤ} : div a b = some w ↔ b ≠ 0 ∧ a / b = w := by
  unfold div
  split
  · next h => exact iff_of_false nofun (fun hw => hw.1 h)
  · next h => rw [Option.some_inj, and_iff_right h]

/-! ## What the machine computes -/

/-- **A difference that does not wrap.** -/
theorem toInt_sub_of_int32 {a b : Int32} {w : ℤ} (h : int32 (a.toInt - b.toInt) = some w) :
    (a - b).toInt = w := by
  obtain ⟨⟨hlo, hhi⟩, rfl⟩ := int32_eq_some.mp h
  rw [Int32.toInt_sub]
  exact Int.bmod_eq_of_le (by omega) (by omega)

/-- **A sum that does not wrap.** -/
theorem toInt_add_of_int32 {a b : Int32} {w : ℤ} (h : int32 (a.toInt + b.toInt) = some w) :
    (a + b).toInt = w := by
  obtain ⟨⟨hlo, hhi⟩, rfl⟩ := int32_eq_some.mp h
  rw [Int32.toInt_add]
  exact Int.bmod_eq_of_le (by omega) (by omega)

/-- **A product that does not wrap.** -/
theorem toInt_mul_of_int32 {a b : Int32} {w : ℤ} (h : int32 (a.toInt * b.toInt) = some w) :
    (a * b).toInt = w := by
  obtain ⟨⟨hlo, hhi⟩, rfl⟩ := int32_eq_some.mp h
  rw [Int32.toInt_mul]
  exact Int.bmod_eq_of_le (by omega) (by omega)

/-- **A conversion of a number that is not negative.** -/
theorem toNat_toUInt32_of_uint32 {a : Int32} {w : ℤ} (h : uint32 a.toInt = some w) :
    (a.toUInt32.toNat : ℤ) = w := by
  obtain ⟨⟨hlo, -⟩, rfl⟩ := uint32_eq_some.mp h
  rw [Int32.toNat_toUInt32_of_le (Int32.le_iff_toInt_le.mpr hlo)]
  exact Int.toNat_of_nonneg hlo

/-- **A product that does not wrap.** -/
theorem toNat_mul_of_uint32 {a b : UInt32} {w : ℤ}
    (h : uint32 ((a.toNat : ℤ) * b.toNat) = some w) : ((a * b).toNat : ℤ) = w := by
  obtain ⟨⟨-, hhi⟩, rfl⟩ := uint32_eq_some.mp h
  rw [UInt32.toNat_mul, Nat.mod_eq_of_lt (by exact_mod_cast hhi), Nat.cast_mul]

/-- **A quotient by something.** -/
theorem toNat_div_of_div {a b : UInt32} {w : ℤ} (h : div a.toNat b.toNat = some w) :
    ((a / b).toNat : ℤ) = w := by
  obtain ⟨-, rfl⟩ := div_eq_some.mp h
  rw [UInt32.toNat_div, Int.natCast_ediv]

end CheckedInt
