import Mathlib.Algebra.Order.Ring.Int
import Mathlib.Tactic.Ring

/-!
# Numbers in a whole part and a fraction

Drivers hand over a number as two integers, the whole part and the fraction in
parts of a whole, both with the sign of the number. To bring it to another
unit each of the two is scaled by itself and the results are added up. Nothing
is lost by this but what does not fill a unit: the sum is the number truncated
toward zero (`Normal.scaled_eq`), and as both terms have its sign, whatever is
computed on the way is no larger than the result (`Normal.between`).
-/

namespace FixedPoint

/-- **The number, in parts**, of which `base` make a whole. -/
def value (base whole frac : ℤ) : ℤ := whole * base + frac

/-- **The two integers make up a number**: the fraction is less than a whole,
and they do not differ in sign. -/
structure Normal (base whole frac : ℤ) : Prop where
  frac_lt : |frac| < base
  sameSign : 0 ≤ whole ∧ 0 ≤ frac ∨ whole ≤ 0 ∧ frac ≤ 0

/-- **The number in another unit**, of which `perWhole` make a whole and which
itself is made of `parts`, computed as C does. -/
def scaled (perWhole parts whole frac : ℤ) : ℤ := whole * perWhole + frac.tdiv parts

variable {base perWhole parts whole frac : ℤ}

theorem Normal.base_pos (h : Normal base whole frac) : 0 < base :=
  lt_of_le_of_lt (abs_nonneg frac) h.frac_lt

theorem Normal.neg (h : Normal base whole frac) : Normal base (-whole) (-frac) where
  frac_lt := by
    rw [abs_neg]
    exact h.frac_lt
  sameSign := by
    rcases h.sameSign with ⟨hw, hf⟩ | ⟨hw, hf⟩
    · exact Or.inr ⟨neg_nonpos.mpr hw, neg_nonpos.mpr hf⟩
    · exact Or.inl ⟨neg_nonneg.mpr hw, neg_nonneg.mpr hf⟩

theorem value_neg (base whole frac : ℤ) : value base (-whole) (-frac) = -value base whole frac := by
  unfold value
  ring

theorem scaled_neg (perWhole parts whole frac : ℤ) :
    scaled perWhole parts (-whole) (-frac) = -scaled perWhole parts whole frac := by
  unfold scaled
  rw [Int.neg_tdiv]
  ring

/-- A number that is not negative is rounded down. -/
theorem scaled_eq_of_nonneg (hparts : 0 < parts) (hbase : 0 ≤ perWhole * parts)
    (hwhole : 0 ≤ whole) (hfrac : 0 ≤ frac) :
    scaled perWhole parts whole frac = (value (perWhole * parts) whole frac).tdiv parts := by
  have hvalue : value (perWhole * parts) whole frac = frac + whole * perWhole * parts := by
    unfold value
    ring
  have hpos : 0 ≤ value (perWhole * parts) whole frac :=
    add_nonneg (mul_nonneg hwhole hbase) hfrac
  rw [Int.tdiv_eq_ediv_of_nonneg hpos, hvalue, Int.add_mul_ediv_right _ _ hparts.ne']
  unfold scaled
  rw [Int.tdiv_eq_ediv_of_nonneg hfrac, add_comm]

/-- **Scaling truncates the number toward zero.** -/
theorem Normal.scaled_eq (h : Normal (perWhole * parts) whole frac) (hparts : 0 < parts) :
    scaled perWhole parts whole frac = (value (perWhole * parts) whole frac).tdiv parts := by
  have hbase := h.base_pos.le
  rcases h.sameSign with ⟨hwhole, hfrac⟩ | ⟨hwhole, hfrac⟩
  · exact scaled_eq_of_nonneg hparts hbase hwhole hfrac
  · have hneg : scaled perWhole parts (-whole) (-frac)
        = (value (perWhole * parts) (-whole) (-frac)).tdiv parts :=
      scaled_eq_of_nonneg hparts hbase (neg_nonneg.mpr hwhole) (neg_nonneg.mpr hfrac)
    rw [scaled_neg, value_neg, Int.neg_tdiv] at hneg
    exact neg_injective hneg

/-- **What is computed on the way** lies between zero and the result. -/
theorem Normal.between (h : Normal (perWhole * parts) whole frac) (hparts : 0 < parts) :
    0 ≤ whole * perWhole ∧ whole * perWhole ≤ scaled perWhole parts whole frac
      ∨ scaled perWhole parts whole frac ≤ whole * perWhole ∧ whole * perWhole ≤ 0 := by
  have hper : 0 < perWhole := pos_of_mul_pos_left h.base_pos hparts.le
  unfold scaled
  rcases h.sameSign with ⟨hwhole, hfrac⟩ | ⟨hwhole, hfrac⟩
  · have hquot : 0 ≤ frac.tdiv parts := Int.tdiv_nonneg hfrac hparts.le
    exact Or.inl ⟨mul_nonneg hwhole hper.le, le_add_of_nonneg_right hquot⟩
  · have hquot : frac.tdiv parts ≤ 0 := by
      have hneg := Int.tdiv_nonneg (neg_nonneg.mpr hfrac) hparts.le
      rw [Int.neg_tdiv] at hneg
      exact neg_nonneg.mp hneg
    exact Or.inr ⟨add_le_of_nonpos_right hquot, mul_nonpos_of_nonpos_of_nonneg hwhole hper.le⟩

end FixedPoint
