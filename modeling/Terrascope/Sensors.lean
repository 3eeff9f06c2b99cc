import Terrascope.FixedPoint
import Terrascope.CheckedInt
import Terrascope.Messages

/-!
# The sensor backends

An image has one of two: the BME280, or the mock where the board has none. A
backend fills in the three values of a telemetry and leaves its time alone.

The BME280 driver hands each value over as a `struct sensor_value`, a whole part
and millionths, and the backend brings it to the unit of the telemetry in
`int`. For values that fit, nothing overflows on the way and the telemetry has
them truncated toward zero (`Bme280.InRange.read`). A read fails as soon as one
of the driver's calls does.
-/

namespace Terrascope

open CheckedInt FixedPoint

/-! ## Values of the driver -/

/-- `struct sensor_value`. -/
structure SensorValue where
  val1 : Int32
  val2 : Int32
deriving DecidableEq, Repr

namespace SensorValue

/-- The value in millionths. -/
def micro (v : SensorValue) : ℤ := value 1000000 v.val1.toInt v.val2.toInt

/-- **What a driver returns**: the fraction is less than a whole and has the
sign of the value. -/
def Normal (v : SensorValue) : Prop := FixedPoint.Normal 1000000 v.val1.toInt v.val2.toInt

/-- `val.val1 * perWhole + val.val2 / parts`. -/
def scaled (perWhole parts : Int32) (v : SensorValue) : Int32 := v.val1 * perWhole + v.val2 / parts

/-- The same with no overflow allowed. -/
def checkedScaled (perWhole parts : Int32) (v : SensorValue) : Option ℤ := do
  let whole ← int32 (v.val1.toInt * perWhole.toInt)
  int32 (whole + (v.val2 / parts).toInt)

/-- **The number is the value in another unit**, truncated toward zero, and
nothing overflows when it is computed. -/
structure Measures (perWhole parts : Int32) (v : SensorValue) (q : ℤ) : Prop where
  truncated : q = v.micro.tdiv parts.toInt
  computed : checkedScaled perWhole parts v = some q

/-- Without an overflow the machine computes the same. -/
theorem toInt_scaled {perWhole parts : Int32} {v : SensorValue} {q : ℤ}
    (h : checkedScaled perWhole parts v = some q) : (v.scaled perWhole parts).toInt = q := by
  obtain ⟨whole, hwhole, hsum⟩ := Option.bind_eq_some_iff.mp h
  rw [← toInt_mul_of_int32 hwhole] at hsum
  exact toInt_add_of_int32 hsum

/-- **The overflow is one of the result**: what is computed on the way is no
larger. -/
theorem Normal.measures {v : SensorValue} (hv : v.Normal) {perWhole parts : Int32}
    (hbase : perWhole.toInt * parts.toInt = 1000000) (hparts : 0 < parts.toInt)
    (hlo : -2 ^ 31 ≤ v.micro.tdiv parts.toInt) (hhi : v.micro.tdiv parts.toInt < 2 ^ 31) :
    v.Measures perWhole parts (v.micro.tdiv parts.toInt) := by
  have hnormal : FixedPoint.Normal (perWhole.toInt * parts.toInt) v.val1.toInt v.val2.toInt := by
    rw [hbase]
    exact hv
  have hscaled : FixedPoint.scaled perWhole.toInt parts.toInt v.val1.toInt v.val2.toInt
      = v.micro.tdiv parts.toInt := by
    rw [hnormal.scaled_eq hparts, hbase]
    rfl
  have hquot : (v.val2 / parts).toInt = v.val2.toInt.tdiv parts.toInt := by
    refine Int32.toInt_div_of_ne_right _ _ (fun hneg => ?_)
    rw [hneg] at hparts
    exact absurd hparts (by decide)
  have hbetween := hnormal.between hparts
  rw [hscaled] at hbetween
  refine ⟨rfl, Option.bind_eq_some_iff.mpr
    ⟨v.val1.toInt * perWhole.toInt, int32_eq_some.mpr ⟨by omega, rfl⟩, ?_⟩⟩
  rw [hquot]
  exact int32_eq_some.mpr ⟨⟨hlo.trans_eq hscaled.symm, hscaled.trans_lt hhi⟩, hscaled⟩

end SensorValue

/-! ## The backends -/

/-- **What the driver answers** while a reading is taken: whether the device is
ready, and what its calls return and write. -/
structure Bme280 where
  ready : Bool
  sampleFetch : Int32
  ambientTemp : Int32 × SensorValue
  humidity : Int32 × SensorValue
  press : Int32 × SensorValue
deriving DecidableEq, Repr

/-- `ts_sensor_backend_read` of `sensor_bme280.c`. -/
def Bme280.read (dev : Bme280) (tel : TsMsgTelemetry) : Int32 × TsMsgTelemetry :=
  if dev.ready = false then (-Errno.ENODEV, tel)
  else if dev.sampleFetch ≠ 0 then (dev.sampleFetch, tel)
  else if dev.ambientTemp.1 ≠ 0 then (dev.ambientTemp.1, tel)
  else
    let tel := { tel with temperature := dev.ambientTemp.2.scaled 100 10000 }
    if dev.humidity.1 ≠ 0 then (dev.humidity.1, tel)
    else
      let tel := { tel with humidity := (dev.humidity.2.scaled 100 10000).toUInt32 }
      if dev.press.1 ≠ 0 then (dev.press.1, tel)
      else (0, { tel with pressure := (dev.press.2.scaled 1000 1000).toUInt32 })

/-- `ts_sensor_backend_read` of `sensor_mock.c`, with what `sys_rand32_get`
returns. -/
def mockRead (temperature humidity pressure : UInt32) (tel : TsMsgTelemetry) :
    Int32 × TsMsgTelemetry :=
  (0, { tel with
    temperature := (temperature % 10001).toInt32 - 4000
    humidity := humidity / 1000000
    pressure := pressure / 10000 })

/-- **The backend of an image**, with what it is going to read. -/
inductive SensorBackend where
  | bme280 (dev : Bme280)
  | mock (temperature humidity pressure : UInt32)
deriving DecidableEq, Repr

/-- `ts_sensor_backend_read`. -/
def tsSensorBackendRead : SensorBackend → TsMsgTelemetry → Int32 × TsMsgTelemetry
  | .bme280 dev => dev.read
  | .mock temperature humidity pressure => mockRead temperature humidity pressure

/-- No backend writes the time. -/
theorem tsSensorBackendRead_timestamp (backend : SensorBackend) (tel : TsMsgTelemetry) :
    (tsSensorBackendRead backend tel).2.timestamp = tel.timestamp := by
  cases backend with
  | bme280 dev =>
    simp only [tsSensorBackendRead, Bme280.read]
    repeat' split
    all_goals rfl
  | mock => rfl

/-! ## What a reading says -/

/-- A value that the backend can bring to another unit. -/
structure SensorValue.Fits (v : SensorValue) (lo parts : ℤ) : Prop where
  normal : v.Normal
  lo : lo ≤ v.micro.tdiv parts
  hi : v.micro.tdiv parts < 2 ^ 31

/-- **The driver keeps to its range**: the values it returns are well formed,
and fit the fields of the telemetry. -/
structure Bme280.InRange (dev : Bme280) : Prop where
  ambientTemp : dev.ambientTemp.1 = 0 → dev.ambientTemp.2.Fits (-2 ^ 31) 10000
  humidity : dev.humidity.1 = 0 → dev.humidity.2.Fits 0 10000
  press : dev.press.1 = 0 → dev.press.2.Fits 0 1000

/-- **The telemetry has what the driver returned**, hundredths of a degree and
of a percent, and pascals of kilopascals. -/
structure Bme280.Reports (dev : Bme280) (tel : TsMsgTelemetry) : Prop where
  ready : dev.ready = true
  returned : dev.sampleFetch = 0 ∧ dev.ambientTemp.1 = 0 ∧ dev.humidity.1 = 0 ∧ dev.press.1 = 0
  temperature : dev.ambientTemp.2.Measures 100 10000 tel.temperature.toInt
  humidity : dev.humidity.2.Measures 100 10000 tel.humidity.toNat
  pressure : dev.press.2.Measures 1000 1000 tel.pressure.toNat

/-- **A read that succeeds** has come through all of the driver's calls. -/
theorem Bme280.read_eq_zero {dev : Bme280} {tel tel' : TsMsgTelemetry}
    (h : dev.read tel = (0, tel')) :
    dev.ready = true
      ∧ (dev.sampleFetch = 0 ∧ dev.ambientTemp.1 = 0 ∧ dev.humidity.1 = 0 ∧ dev.press.1 = 0)
      ∧ tel' = ⟨tel.timestamp, dev.ambientTemp.2.scaled 100 10000,
        (dev.humidity.2.scaled 100 10000).toUInt32, (dev.press.2.scaled 1000 1000).toUInt32⟩ := by
  unfold Bme280.read at h
  split at h
  · exact absurd (Prod.mk.inj h).1 (by decide)
  · next hready =>
    split at h
    · next hfetch => exact absurd (Prod.mk.inj h).1 hfetch
    · next hfetch =>
      split at h
      · next htemp => exact absurd (Prod.mk.inj h).1 htemp
      · next htemp =>
        split at h
        · next hhum => exact absurd (Prod.mk.inj h).1 hhum
        · next hhum =>
          split at h
          · next hpress => exact absurd (Prod.mk.inj h).1 hpress
          · next hpress =>
            exact ⟨Bool.eq_true_of_not_eq_false hready,
              ⟨not_not.mp hfetch, not_not.mp htemp, not_not.mp hhum, not_not.mp hpress⟩,
              (Prod.mk.inj h).2.symm⟩

/-- A value that fits is what the machine computes. -/
theorem SensorValue.Fits.measures {v : SensorValue} {lo : ℤ} {perWhole parts : Int32}
    (h : v.Fits lo parts.toInt) (hlo : -2 ^ 31 ≤ lo)
    (hbase : perWhole.toInt * parts.toInt = 1000000) (hparts : 0 < parts.toInt) :
    v.Measures perWhole parts (v.scaled perWhole parts).toInt := by
  have hmeasures := h.normal.measures hbase hparts (hlo.trans h.lo) h.hi
  rwa [← toInt_scaled hmeasures.computed] at hmeasures

/-- … and so it is where a negative value has no place. -/
theorem SensorValue.Fits.measures_unsigned {v : SensorValue} {perWhole parts : Int32}
    (h : v.Fits 0 parts.toInt) (hbase : perWhole.toInt * parts.toInt = 1000000)
    (hparts : 0 < parts.toInt) :
    v.Measures perWhole parts (v.scaled perWhole parts).toUInt32.toNat := by
  have hmeasures := h.measures (by decide) hbase hparts
  have hnonneg : 0 ≤ (v.scaled perWhole parts).toInt := h.lo.trans_eq hmeasures.truncated.symm
  have hconv : ((v.scaled perWhole parts).toUInt32.toNat : ℤ) = (v.scaled perWhole parts).toInt :=
    toNat_toUInt32_of_uint32 (uint32_eq_some.mpr
      ⟨⟨hnonneg, (v.scaled perWhole parts).toInt_lt.trans (by decide)⟩, rfl⟩)
  rwa [hconv]

/-- **A read that succeeds reports what the driver returned.** -/
theorem Bme280.InRange.read {dev : Bme280} (hdev : dev.InRange) {tel tel' : TsMsgTelemetry}
    (h : dev.read tel = (0, tel')) : dev.Reports tel' := by
  obtain ⟨hready, hreturned, rfl⟩ := read_eq_zero h
  have ⟨_, htemp, hhum, hpress⟩ := hreturned
  refine ⟨hready, hreturned, ?_, ?_, ?_⟩
  · exact (hdev.ambientTemp htemp).measures le_rfl (by decide) (by decide)
  · exact (hdev.humidity hhum).measures_unsigned (by decide) (by decide)
  · exact (hdev.press hpress).measures_unsigned (by decide) (by decide)

/-- What the mock makes up. -/
theorem mockRead_range (temperature humidity pressure : UInt32) (tel : TsMsgTelemetry) :
    let tel' := (mockRead temperature humidity pressure tel).2
    (-4000 ≤ tel'.temperature.toInt ∧ tel'.temperature.toInt ≤ 6000)
      ∧ tel'.humidity.toNat ≤ 4294 ∧ tel'.pressure.toNat ≤ 429496 := by
  intro tel'
  have hmod : (temperature % 10001).toNat = temperature.toNat % 10001 := UInt32.toNat_mod _ _
  have hconv : (temperature % 10001).toInt32.toInt = (temperature.toNat % 10001 : ℕ) := by
    change (temperature % 10001).toBitVec.toInt = _
    rw [BitVec.toInt_eq_toNat_bmod, UInt32.toNat_toBitVec, hmod]
    exact Int.bmod_eq_of_le (by omega) (by omega)
  have h4000 : (4000 : Int32).toInt = 4000 := by decide
  have hsub : tel'.temperature.toInt = (temperature.toNat % 10001 : ℕ) - 4000 := by
    refine toInt_sub_of_int32 (int32_eq_some.mpr ?_)
    rw [hconv, h4000]
    omega
  have hhum : tel'.humidity.toNat = humidity.toNat / 1000000 := UInt32.toNat_div _ _
  have hpress : tel'.pressure.toNat = pressure.toNat / 10000 := UInt32.toNat_div _ _
  have hhumidity := humidity.toNat_lt
  have hpressure := pressure.toNat_lt
  omega

/-- What has to be assumed of the backend. -/
def SensorBackend.InRange : SensorBackend → Prop
  | .bme280 dev => dev.InRange
  | .mock _ _ _ => True

/-- **What a telemetry says** that the backend has filled in. -/
def SensorBackend.Reports (backend : SensorBackend) (tel : TsMsgTelemetry) : Prop :=
  match backend with
  | .bme280 dev => dev.Reports tel
  | .mock _ _ _ => (-4000 ≤ tel.temperature.toInt ∧ tel.temperature.toInt ≤ 6000)
      ∧ tel.humidity.toNat ≤ 4294 ∧ tel.pressure.toNat ≤ 429496

theorem SensorBackend.InRange.reports {backend : SensorBackend} (h : backend.InRange)
    {tel tel' : TsMsgTelemetry} (hread : tsSensorBackendRead backend tel = (0, tel')) :
    backend.Reports tel' := by
  cases backend with
  | bme280 dev => exact Bme280.InRange.read h hread
  | mock temperature humidity pressure =>
    obtain rfl := (Prod.mk.inj hread).2
    exact mockRead_range temperature humidity pressure tel

end Terrascope
