import Terrascope.CheckedInt
import Terrascope.ConfigRange
import Terrascope.Contention
import Terrascope.Ramp

/-!
# The delay before a forward

`ts_contention_rssi_to_delay_ms` is a ramp from the delay for weak signals to
the one for strong signals. On the ranges that the configuration keeps to, its
mixed 16- and 32-bit arithmetic is exact (`delay_exact`): it is that of the
ramp, and what the ramp lacks it lacks too: `delay_monotone_iff`.
-/

namespace Terrascope

open Transition CheckedInt

/-- The ramp of a configuration. -/
def delayRamp (cfg : TsConfig) : Ramp where
  lo := cfg.contentionDelayMinMs.toNat
  hi := cfg.contentionDelayMaxMs.toNat
  weak := cfg.contentionRssiWeak.toInt
  strong := cfg.contentionRssiStrong.toInt

/-- **The ranges of the delay's parameters**, as the key table has them. -/
structure DelayRanges (cfg : TsConfig) : Prop where
  weak : -150 ≤ cfg.contentionRssiWeak.toInt ∧ cfg.contentionRssiWeak.toInt ≤ 0
  strong : -150 ≤ cfg.contentionRssiStrong.toInt ∧ cfg.contentionRssiStrong.toInt ≤ 0
  max : cfg.contentionDelayMaxMs.toNat ≤ 60000

theorem TsConfig.InKeyRanges.delayRanges {cfg : TsConfig} (h : cfg.InKeyRanges) :
    DelayRanges cfg where
  weak := h .contentionRssiWeak (configKey .contentionRssiWeak (-150) 0) ⟨by decide, rfl⟩
  strong := h .contentionRssiStrong (configKey .contentionRssiStrong (-150) 0) ⟨by decide, rfl⟩
  max := Int.ofNat_le.mp (h .contentionDelayMaxMs (configKey .contentionDelayMaxMs 0 60000)
    ⟨by decide, rfl⟩).2

/-! ## The arithmetic -/

/-- **`ts_contention_rssi_to_delay_ms` in checked arithmetic**: each operation
of the source on the exact numbers, its result checked against the type it
has there. -/
def tsContentionRssiToDelayMsChecked (cfg : TsConfig) (rssi : Int16) : Option ℤ :=
  if rssi ≤ cfg.contentionRssiWeak then some cfg.contentionDelayMinMs.toNat
  else if rssi ≥ cfg.contentionRssiStrong then some cfg.contentionDelayMaxMs.toNat
  else do
    let offset ← int32 (rssi.toInt - cfg.contentionRssiWeak.toInt)
    let range ← int32 (cfg.contentionRssiStrong.toInt - cfg.contentionRssiWeak.toInt)
    if range = 0 then return (cfg.contentionDelayMinMs.toNat : ℤ)
    else
      -- the other factor is unsigned, so `offset` is converted, and so is `range`
      let factor ← uint32 offset
      let product ← uint32 (factor * cfg.contentionDelayMaxMs.toNat)
      let divisor ← uint32 range
      div product divisor

/-- **What the checked arithmetic gives, the code returns.** -/
theorem toNat_of_checked {cfg : TsConfig} {rssi : Int16} {d : ℤ}
    (h : tsContentionRssiToDelayMsChecked cfg rssi = some d) :
    ((tsContentionRssiToDelayMs cfg rssi).toNat : ℤ) = d := by
  unfold tsContentionRssiToDelayMsChecked at h
  unfold tsContentionRssiToDelayMs
  split
  · next hw =>
    rw [if_pos hw] at h
    exact Option.some.inj h
  · next hw =>
    rw [if_neg hw] at h
    split
    · next hs =>
      rw [if_pos hs] at h
      exact Option.some.inj h
    · next hs =>
      rw [if_neg hs] at h
      obtain ⟨offset, hoffset, h⟩ := Option.bind_eq_some_iff.mp h
      obtain ⟨range, hrange, h⟩ := Option.bind_eq_some_iff.mp h
      rw [← Int16.toInt_toInt32, ← Int16.toInt_toInt32] at hoffset hrange
      have hoffset := toInt_sub_of_int32 hoffset
      have hrange := toInt_sub_of_int32 hrange
      dsimp only
      split
      · next hzero =>
        rw [hzero, Int32.toInt_zero] at hrange
        rw [if_pos hrange.symm] at h
        exact Option.some.inj h
      · next hzero =>
        have hne : range ≠ 0 := fun h0 => hzero (Int32.toInt_inj.mp (hrange.trans h0))
        rw [if_neg hne] at h
        obtain ⟨factor, hfactor, h⟩ := Option.bind_eq_some_iff.mp h
        obtain ⟨product, hproduct, h⟩ := Option.bind_eq_some_iff.mp h
        obtain ⟨divisor, hdivisor, h⟩ := Option.bind_eq_some_iff.mp h
        rw [← hoffset] at hfactor
        rw [← toNat_toUInt32_of_uint32 hfactor] at hproduct
        rw [← hrange] at hdivisor
        rw [← toNat_mul_of_uint32 hproduct, ← toNat_toUInt32_of_uint32 hdivisor] at h
        exact toNat_div_of_div h

/-- **Nothing wraps on the configured ranges.** Between the thresholds offset
and range are positive, and the product stays below `150 * 60000`. -/
theorem checked_eq_value {cfg : TsConfig} (h : DelayRanges cfg) (rssi : Int16) :
    tsContentionRssiToDelayMsChecked cfg rssi = some ((delayRamp cfg).value rssi.toInt) := by
  unfold tsContentionRssiToDelayMsChecked Ramp.value delayRamp
  dsimp only
  split
  · next hw => rw [if_pos (Int16.le_iff_toInt_le.mp hw)]
  · next hw =>
    have hw : cfg.contentionRssiWeak.toInt < rssi.toInt :=
      Int16.lt_iff_toInt_lt.mp (Int16.not_le.mp hw)
    rw [if_neg (not_le.mpr hw)]
    split
    · next hs => rw [if_pos (Int16.le_iff_toInt_le.mp hs)]
    · next hs =>
      have hs : rssi.toInt < cfg.contentionRssiStrong.toInt :=
        Int16.lt_iff_toInt_lt.mp (Int16.not_le.mp hs)
      rw [if_neg (not_le.mpr hs)]
      obtain ⟨hweak, -⟩ := h.weak
      obtain ⟨-, hstrong⟩ := h.strong
      have hmax : (cfg.contentionDelayMaxMs.toNat : ℤ) ≤ 60000 := Int.ofNat_le.mpr h.max
      have hoffset : int32 (rssi.toInt - cfg.contentionRssiWeak.toInt)
          = some (rssi.toInt - cfg.contentionRssiWeak.toInt) :=
        int32_eq_some.mpr ⟨by omega, rfl⟩
      have hrange : int32 (cfg.contentionRssiStrong.toInt - cfg.contentionRssiWeak.toInt)
          = some (cfg.contentionRssiStrong.toInt - cfg.contentionRssiWeak.toInt) :=
        int32_eq_some.mpr ⟨by omega, rfl⟩
      have hne : cfg.contentionRssiStrong.toInt - cfg.contentionRssiWeak.toInt ≠ 0 := by omega
      have hfactor : uint32 (rssi.toInt - cfg.contentionRssiWeak.toInt)
          = some (rssi.toInt - cfg.contentionRssiWeak.toInt) :=
        uint32_eq_some.mpr ⟨by omega, rfl⟩
      have hproduct : uint32 ((rssi.toInt - cfg.contentionRssiWeak.toInt)
            * cfg.contentionDelayMaxMs.toNat)
          = some ((rssi.toInt - cfg.contentionRssiWeak.toInt) * cfg.contentionDelayMaxMs.toNat) := by
        refine uint32_eq_some.mpr ⟨⟨mul_nonneg (by omega) (Int.natCast_nonneg _), ?_⟩, rfl⟩
        calc _ ≤ (150 : ℤ) * 60000 := mul_le_mul (by omega) hmax (Int.natCast_nonneg _) (by decide)
          _ < 2 ^ 32 := by decide
      have hdivisor : uint32 (cfg.contentionRssiStrong.toInt - cfg.contentionRssiWeak.toInt)
          = some (cfg.contentionRssiStrong.toInt - cfg.contentionRssiWeak.toInt) :=
        uint32_eq_some.mpr ⟨by omega, rfl⟩
      simp only [hoffset, hrange, hfactor, hproduct, hdivisor, Option.bind_eq_bind,
        Option.bind_some, if_neg hne]
      exact div_eq_some.mpr ⟨hne, rfl⟩

/-- **The delay is the value of the ramp.** -/
theorem toNat_tsContentionRssiToDelayMs {cfg : TsConfig} (h : DelayRanges cfg) (rssi : Int16) :
    ((tsContentionRssiToDelayMs cfg rssi).toNat : ℤ) = (delayRamp cfg).value rssi.toInt :=
  toNat_of_checked (checked_eq_value h rssi)

/-- **The interpolation is exact.** On any configuration whose fields are in
their ranges no operation wraps, converts a negative number or divides by
zero. Between the thresholds the result is the exact share of the longest
delay, rounded down; everywhere it is at most the larger of the two delays. -/
theorem delay_exact {cfg : TsConfig} (h : cfg.InKeyRanges) (rssi : Int16) :
    tsContentionRssiToDelayMsChecked cfg rssi
        = some ((tsContentionRssiToDelayMs cfg rssi).toNat : ℤ)
      ∧ (cfg.contentionRssiWeak < rssi → rssi < cfg.contentionRssiStrong →
        ((tsContentionRssiToDelayMs cfg rssi).toNat : ℤ)
            = ⌊((rssi.toInt - cfg.contentionRssiWeak.toInt : ℤ) : ℚ)
                * cfg.contentionDelayMaxMs.toNat
                / ((cfg.contentionRssiStrong.toInt - cfg.contentionRssiWeak.toInt : ℤ) : ℚ)⌋
          ∧ tsContentionRssiToDelayMs cfg rssi ≤ cfg.contentionDelayMaxMs)
      ∧ (tsContentionRssiToDelayMs cfg rssi).toNat
        ≤ max cfg.contentionDelayMinMs.toNat cfg.contentionDelayMaxMs.toNat := by
  have hvalue := toNat_tsContentionRssiToDelayMs h.delayRanges rssi
  have hhi : 0 ≤ (delayRamp cfg).hi := Int.natCast_nonneg _
  refine ⟨?_, fun hw hs => ?_, ?_⟩
  · rw [hvalue]
    exact checked_eq_value h.delayRanges rssi
  · have hw : (delayRamp cfg).weak < rssi.toInt := Int16.lt_iff_toInt_lt.mp hw
    have hs : rssi.toInt < (delayRamp cfg).strong := Int16.lt_iff_toInt_lt.mp hs
    constructor
    · rw [hvalue, Ramp.value_eq_floor hw hs]
      rfl
    · have hle := Ramp.between_le hhi hs hw
      rw [← Ramp.value_between hw hs, ← hvalue] at hle
      exact UInt32.le_iff_toNat_le.mpr (Int.ofNat_le.mp hle)
  · have hle : (delayRamp cfg).value rssi.toInt
        ≤ max (cfg.contentionDelayMinMs.toNat : ℤ) (cfg.contentionDelayMaxMs.toNat : ℤ) :=
      Ramp.value_le_max hhi rssi.toInt
    rw [← hvalue] at hle
    exact_mod_cast hle

/-- Halfway between the default thresholds, half of five seconds. -/
theorem delay_exact_default :
    let cfg := tsConfigGet tsConfigDefaults
    tsContentionRssiToDelayMsChecked cfg (-75) = some 2500
      ∧ (tsContentionRssiToDelayMs cfg (-75)).toNat
        ≤ max cfg.contentionDelayMinMs.toNat cfg.contentionDelayMaxMs.toNat := by
  obtain ⟨hchecked, -, hmax⟩ := delay_exact inRange_empty.inKeyRanges (-75)
  have hdelay : (tsContentionRssiToDelayMs (tsConfigGet tsConfigDefaults) (-75)).toNat = 2500 := by
    decide +kernel
  exact ⟨hchecked.trans (congrArg (fun d : ℕ => some (d : ℤ)) hdelay), hmax⟩

/-! ## Order and bounds -/

/-- A stronger signal never has a shorter delay. -/
def DelayMonotone (cfg : TsConfig) : Prop :=
  ∀ r₁ r₂ : Int16, r₁ ≤ r₂ →
    tsContentionRssiToDelayMs cfg r₁ ≤ tsContentionRssiToDelayMs cfg r₂

/-- Every delay lies between the configured bounds. -/
def DelayBounded (cfg : TsConfig) : Prop :=
  ∀ r : Int16, cfg.contentionDelayMinMs ≤ tsContentionRssiToDelayMs cfg r
    ∧ tsContentionRssiToDelayMs cfg r ≤ cfg.contentionDelayMaxMs

/-- Delays are ordered as the values of the ramp are. -/
theorem delay_le_iff {cfg : TsConfig} (h : DelayRanges cfg) (r₁ r₂ : Int16) :
    tsContentionRssiToDelayMs cfg r₁ ≤ tsContentionRssiToDelayMs cfg r₂
      ↔ (delayRamp cfg).value r₁.toInt ≤ (delayRamp cfg).value r₂.toInt := by
  rw [← toNat_tsContentionRssiToDelayMs h, ← toNat_tsContentionRssiToDelayMs h, Int.ofNat_le,
    UInt32.le_iff_toNat_le]

/-- A ramp that does not start high gives the first signal above the weak
threshold less than the lower bound. -/
theorem not_delayBounded {cfg : TsConfig} (h : DelayRanges cfg)
    (hlow : ¬ (delayRamp cfg).StartsHigh) : ¬ DelayBounded cfg := by
  intro hin
  have hweak := h.weak
  have hsucc : (cfg.contentionRssiWeak + 1).toInt = (delayRamp cfg).weak + 1 := by
    rw [Int16.toInt_add]
    exact Int.bmod_eq_of_le (show _ ≤ cfg.contentionRssiWeak.toInt + 1 by omega)
      (show cfg.contentionRssiWeak.toInt + 1 < _ by omega)
  have hfall := Ramp.value_succ_weak_lt hlow
  have hvalue := toNat_tsContentionRssiToDelayMs h (cfg.contentionRssiWeak + 1)
  rw [hsucc] at hvalue
  obtain ⟨hmin, -⟩ := hin (cfg.contentionRssiWeak + 1)
  rw [← hvalue] at hfall
  exact absurd (Int.ofNat_lt.mp hfall) (not_lt.mpr (UInt32.le_iff_toNat_le.mp hmin))

/-- **The delay is monotone and within its bounds exactly when** no signal
lies strictly between the thresholds, or the first that does is given no less
than the delay of a weak one. The configuration may be any that sets, resets
and boots lead to and in which the bounds are in order. -/
theorem delay_monotone_iff {calls : List ConfigCall} {s : ConfigState}
    (hrun : run ConfigCall.apply ConfigState.empty calls = some s)
    (hle : (tsConfigGet s.live).contentionDelayMinMs
      ≤ (tsConfigGet s.live).contentionDelayMaxMs) :
    (DelayMonotone (tsConfigGet s.live) ∧ DelayBounded (tsConfigGet s.live))
      ↔ (delayRamp (tsConfigGet s.live)).StartsHigh := by
  have hrange : InRange s := run_invariant (fun _ _ _ hI hs => hI.apply hs) inRange_empty hrun
  have h := hrange.inKeyRanges.delayRanges
  have hlo : (0 : ℤ) ≤ (delayRamp (tsConfigGet s.live)).lo := Int.natCast_nonneg _
  have hbounds : (delayRamp (tsConfigGet s.live)).lo ≤ (delayRamp (tsConfigGet s.live)).hi :=
    Int.ofNat_le.mpr (UInt32.le_iff_toNat_le.mp hle)
  constructor
  · rintro ⟨-, hin⟩
    by_contra hlow
    exact not_delayBounded h hlow hin
  · intro hhigh
    constructor
    · intro r₁ r₂ hr
      rw [delay_le_iff h]
      exact Ramp.value_mono hlo hbounds hhigh (Int16.le_iff_toInt_le.mp hr)
    · intro r
      obtain ⟨hmin, hmax⟩ := Ramp.lo_le_value hlo hbounds hhigh r.toInt
      rw [← toNat_tsContentionRssiToDelayMs h] at hmin hmax
      exact ⟨UInt32.le_iff_toNat_le.mpr (Int.ofNat_le.mp hmin),
        UInt32.le_iff_toNat_le.mpr (Int.ofNat_le.mp hmax)⟩

/-- The defaults ramp up from no delay at all. -/
theorem delay_monotone_default : DelayMonotone (tsConfigGet ConfigState.empty.live)
    ∧ DelayBounded (tsConfigGet ConfigState.empty.live) := by
  have hrun : run ConfigCall.apply ConfigState.empty [] = some ConfigState.empty := rfl
  exact (delay_monotone_iff hrun (by decide +kernel)).mpr (Or.inr (by decide +kernel))

/-- A lower bound of one second, with the other defaults. -/
def oneSecondMin : List ConfigCall := [.set (cstr "contention_delay_min_ms") 1000 0]

/-- **A signal just above the weak threshold waits less than a weak one**:
55 ms at -119 dBm, after a second at -120 dBm. -/
theorem oneSecondMin_not_monotone :
    ∃ s, run ConfigCall.apply ConfigState.empty oneSecondMin = some s
      ∧ (tsConfigGet s.live).contentionDelayMinMs ≤ (tsConfigGet s.live).contentionDelayMaxMs
      ∧ ¬ (DelayMonotone (tsConfigGet s.live) ∧ DelayBounded (tsConfigGet s.live)) := by
  refine ⟨_, rfl, by decide +kernel, ?_⟩
  rintro ⟨hmono, -⟩
  exact absurd (hmono (-120) (-119) (by decide)) (by decide +kernel)

end Terrascope
