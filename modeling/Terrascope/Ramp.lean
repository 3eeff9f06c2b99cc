import Mathlib.Algebra.Order.Ring.Int
import Mathlib.Data.Rat.Floor
import Mathlib.Tactic.Linarith

/-!
# Ramps

An integer function that is constant up to one threshold and from another on,
and a share of its final value in between, rounded down. It starts from zero
and not from its lower bound, so it is monotone and within its bounds only as
far as its first step is no lower than that: `Ramp.value_mono` and
`Ramp.lo_le_value` on the one hand, `Ramp.value_succ_weak_lt` on the other.
-/

/-- **A ramp** from `weak` to `strong`. -/
structure Ramp where
  lo : ℤ
  hi : ℤ
  weak : ℤ
  strong : ℤ

namespace Ramp

/-- The value up to `weak`, from `strong` on, and in between. -/
def value (p : Ramp) (x : ℤ) : ℤ :=
  if x ≤ p.weak then p.lo
  else if p.strong ≤ x then p.hi
  else (x - p.weak) * p.hi / (p.strong - p.weak)

/-- **The first step is high enough**, or there is none. -/
def StartsHigh (p : Ramp) : Prop :=
  p.strong ≤ p.weak + 1 ∨ p.lo * (p.strong - p.weak) ≤ p.hi

variable {p : Ramp}

/-- The value between the thresholds. -/
theorem value_between {x : ℤ} (hw : p.weak < x) (hs : x < p.strong) :
    p.value x = (x - p.weak) * p.hi / (p.strong - p.weak) := by
  rw [value, if_neg (not_le.mpr hw), if_neg (not_le.mpr hs)]

/-- **Between the thresholds the value is the exact share, rounded down.** -/
theorem value_eq_floor {x : ℤ} (hw : p.weak < x) (hs : x < p.strong) :
    p.value x
      = ⌊((x - p.weak : ℤ) : ℚ) * (p.hi : ℚ) / ((p.strong - p.weak : ℤ) : ℚ)⌋ := by
  obtain ⟨n, hn⟩ := Int.eq_ofNat_of_zero_le (show 0 ≤ p.strong - p.weak by omega)
  rw [value_between hw hs, hn, ← Int.cast_mul, Int.cast_natCast, Rat.floor_intCast_div_natCast]

/-- Between the thresholds the ramp stays below its end. -/
theorem between_le (hhi : 0 ≤ p.hi) {x : ℤ} (hx : x < p.strong) (hw : p.weak < x) :
    (x - p.weak) * p.hi / (p.strong - p.weak) ≤ p.hi := by
  have hn : 0 < p.strong - p.weak := by omega
  refine Int.ediv_le_of_le_mul hn ?_
  rw [mul_comm]
  exact mul_le_mul_of_nonneg_left (by omega) hhi

/-- **A ramp never exceeds the larger of its bounds.** -/
theorem value_le_max (hhi : 0 ≤ p.hi) (x : ℤ) : p.value x ≤ max p.lo p.hi := by
  unfold value
  split
  · exact le_max_left _ _
  · next hw =>
    split
    · exact le_max_right _ _
    · next hs => exact le_max_of_le_right (between_le hhi (not_le.mp hs) (not_le.mp hw))

/-- Between the thresholds it is above its start, if its first step is. -/
theorem le_between (hhi : 0 ≤ p.hi) (hp : p.StartsHigh) {x : ℤ} (hx : x < p.strong)
    (hw : p.weak < x) : p.lo ≤ (x - p.weak) * p.hi / (p.strong - p.weak) := by
  have hn : 0 < p.strong - p.weak := by omega
  refine (Int.le_ediv_iff_mul_le hn).mpr ?_
  rcases hp with hnone | hstep
  · omega
  · calc p.lo * (p.strong - p.weak) ≤ 1 * p.hi := by rwa [one_mul]
      _ ≤ (x - p.weak) * p.hi := mul_le_mul_of_nonneg_right (by omega) hhi

/-- **A ramp that starts high stays within its bounds.** -/
theorem lo_le_value (hlo : 0 ≤ p.lo) (hle : p.lo ≤ p.hi) (hp : p.StartsHigh) (x : ℤ) :
    p.lo ≤ p.value x ∧ p.value x ≤ p.hi := by
  have hhi : 0 ≤ p.hi := le_trans hlo hle
  unfold value
  split
  · exact ⟨le_refl _, hle⟩
  · next hw =>
    split
    · exact ⟨hle, le_refl _⟩
    · next hs =>
      exact ⟨le_between hhi hp (not_le.mp hs) (not_le.mp hw),
        between_le hhi (not_le.mp hs) (not_le.mp hw)⟩

/-- **A ramp that starts high is monotone.** -/
theorem value_mono (hlo : 0 ≤ p.lo) (hle : p.lo ≤ p.hi) (hp : p.StartsHigh) {x y : ℤ}
    (hxy : x ≤ y) : p.value x ≤ p.value y := by
  by_cases hx : x ≤ p.weak
  · -- from the flat start, every value is at least the lower bound
    have hstart : p.value x = p.lo := if_pos hx
    rw [hstart]
    exact (lo_le_value hlo hle hp y).1
  · by_cases hy : p.strong ≤ y
    · have hend : p.value y = p.hi := by
        rw [value, if_neg (by omega), if_pos hy]
      rw [hend]
      exact (lo_le_value hlo hle hp x).2
    · rw [value, value, if_neg hx, if_neg (by omega), if_neg (by omega), if_neg hy]
      refine Int.ediv_le_ediv (by omega) (mul_le_mul_of_nonneg_right (by omega) ?_)
      exact le_trans hlo hle

/-- **A ramp that does not start high falls** below its bound at the first
step. -/
theorem value_succ_weak_lt (hp : ¬ p.StartsHigh) : p.value (p.weak + 1) < p.lo := by
  obtain ⟨hgap, hstep⟩ := not_or.mp hp
  rw [value, if_neg (by omega), if_neg (by omega)]
  refine Int.ediv_lt_of_lt_mul (by omega) ?_
  have hone : p.weak + 1 - p.weak = 1 := by omega
  rw [hone, one_mul]
  exact not_le.mp hstep

end Ramp
