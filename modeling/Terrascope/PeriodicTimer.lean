import Mathlib.Algebra.Order.Group.Nat
import Mathlib.Data.Nat.Basic

/-!
# Periodic timers

A timer of the kernel, tick by tick. It is started with a duration to its
first expiry and a period to each later one, and a period of zero makes it
expire once only.

`KTimer.Ran` says what is left of a timer that was started with given values so
many seconds ago and has expired so many times. Every second keeps it
(`KTimer.Ran.tick`), and it fixes the number of expiries
(`KTimer.Ran.expiries_eq`), so that a proof about a user of timers counts
nothing itself.
-/

namespace Zephyr

/-- **A timer**: the ticks to its next expiry, while it runs, and its period. -/
structure KTimer where
  remaining : Option ℕ
  period : ℕ
deriving DecidableEq

/-- `k_timer_start`. -/
def kTimerStart (duration period : ℕ) : KTimer := ⟨some duration, period⟩

/-- **A tick passes**: the timer, and whether it expires. -/
def KTimer.tick (t : KTimer) : KTimer × Bool :=
  match t.remaining with
  | none => (t, false)
  | some r =>
    if r ≤ 1 then ({ t with remaining := if t.period = 0 then none else some t.period }, true)
    else ({ t with remaining := some (r - 1) }, false)

/-- **How often a timer expires** within `T` ticks of its start. -/
def expiries (duration period T : ℕ) : ℕ :=
  if T < max 1 duration then 0
  else if period = 0 then 1 else (T - max 1 duration) / period + 1

/-- **A timer that has run** for `T` ticks and expired `n` times. -/
inductive KTimer.Ran (duration period T n : ℕ) : KTimer → Prop where
  /-- It has still to expire for the first time. -/
  | first {r} (hn : n = 0) (hr : T + max 1 r = max 1 duration) : Ran duration period T n ⟨some r, period⟩
  /-- It was a one-shot timer. -/
  | stopped (hperiod : period = 0) (hn : n = 1) (hT : max 1 duration ≤ T) :
      Ran duration period T n ⟨none, period⟩
  | next {r} (hn : 0 < n) (hr : 0 < r) (hle : r ≤ period)
      (hT : T + r = max 1 duration + n * period) : Ran duration period T n ⟨some r, period⟩

variable {duration period T n : ℕ} {t : KTimer}

/-- A timer that was just started. -/
theorem ran_kTimerStart (duration period : ℕ) :
    KTimer.Ran duration period 0 0 (kTimerStart duration period) :=
  .first rfl (Nat.zero_add _)

/-- **One tick more.** -/
theorem KTimer.Ran.tick (h : KTimer.Ran duration period T n t) :
    KTimer.Ran duration period (T + 1) (n + t.tick.2.toNat) t.tick.1 := by
  cases h with
  | @first r hn hr =>
    unfold KTimer.tick
    dsimp only
    split
    · next hle =>
      have hT : T + 1 = max 1 duration := by omega
      split
      · next hzero => exact .stopped hzero (by rw [hn]; rfl) hT.ge
      · next hpos =>
        refine .next (by rw [hn]; exact Nat.zero_lt_one) (Nat.pos_of_ne_zero hpos) le_rfl ?_
        rw [hn, Bool.toNat_true, Nat.zero_add, Nat.one_mul, hT]
    · next hgt => exact .first hn (by omega)
  | stopped hperiod hn hT => exact .stopped hperiod hn (Nat.le_succ_of_le hT)
  | @next r hn hr hle hT =>
    unfold KTimer.tick
    dsimp only
    split
    · next hone =>
      have hpos : period ≠ 0 := by omega
      rw [if_neg hpos]
      refine .next (Nat.succ_pos _) (Nat.pos_of_ne_zero hpos) le_rfl ?_
      rw [Bool.toNat_true, Nat.succ_mul]
      omega
    · next hgt =>
      show KTimer.Ran duration period (T + 1) n _
      exact .next hn (by omega) (by omega) (by omega)

/-- **The number of expiries is determined** by the time. -/
theorem KTimer.Ran.expiries_eq (h : KTimer.Ran duration period T n t) :
    n = expiries duration period T := by
  unfold expiries
  cases h with
  | @first r hn hr => rw [hn, if_pos (by omega)]
  | stopped hperiod hn hT => rw [hn, if_neg (Nat.not_lt.mpr hT), if_pos hperiod]
  | @next r hn hr hle hT =>
    have hperiod : 0 < period := lt_of_lt_of_le hr hle
    obtain ⟨k, rfl⟩ := Nat.exists_eq_succ_of_ne_zero hn.ne'
    rw [Nat.succ_mul] at hT
    rw [if_neg (by omega), if_neg hperiod.ne']
    have hsub : T - max 1 duration = k * period + (period - r) := by omega
    rw [hsub, Nat.add_comm (k * period), Nat.add_mul_div_right _ _ hperiod,
      Nat.div_eq_of_lt (by omega), Nat.zero_add]

end Zephyr
