import Terrascope.Boot
import Terrascope.ConfigPersistence

/-!
# The radio's configuration at boot

`lora_init` reads the live configuration before `ts_config_init` has loaded
anything into it, so the radio is set up with the compile-time defaults
whatever the store holds, and `lora_config` is not called again. It runs with
what the node has loaded exactly where that is the default:
`radio_runs_with_loaded_iff`.
-/

namespace Terrascope

open Transition Zephyr ByteMemory

/-- The fields of the configuration that the radio is set up with. -/
def radioFields : List ConfigField :=
  [.loraFrequency, .loraBw, .loraSf, .loraCr, .loraTxPower]

/-- **The radio runs with the configuration.** -/
def LoraModemConfig.RunsWith (modem : LoraModemConfig) (cfg : TsConfig) : Prop :=
  modem.frequency = cfg.loraFrequency ∧ modem.bandwidth = cfg.loraBw.toUInt32
    ∧ modem.datarate = cfg.loraSf.toUInt32 ∧ modem.codingRate = cfg.loraCr.toUInt32
    ∧ modem.txPower = cfg.loraTxPower

/-- **What a store holds for a field that the loader would take**, is the
default. -/
def StoresDefault (store : SettingsStore) (f : ConfigField) : Prop :=
  ∀ bs, store.lookup (loadName f.name) = some bs → bs.length = f.ctype.size →
    bs = nativeBytes f.ctype.size f.default

/-- A radio set up with one configuration runs with another exactly if the
two agree on the bytes of the radio's fields. -/
theorem runsWith_iff (live live' : ByteMemory) :
    (loraPopulateModemConfig (tsConfigGet live)).RunsWith (tsConfigGet live')
      ↔ ∀ f ∈ radioFields, rawField live f = rawField live' f := by
  have hlt : ∀ m f, rawField m f < 256 ^ f.ctype.size := rawField_lt
  have hfreq : UInt32.ofNat (rawField live .loraFrequency)
        = UInt32.ofNat (rawField live' .loraFrequency)
      ↔ rawField live .loraFrequency = rawField live' .loraFrequency :=
    uint32_ofNat_inj (hlt live .loraFrequency) (hlt live' .loraFrequency)
  have hbw : (UInt16.ofNat (rawField live .loraBw)).toUInt32
        = (UInt16.ofNat (rawField live' .loraBw)).toUInt32
      ↔ rawField live .loraBw = rawField live' .loraBw :=
    UInt16.toUInt32_inj.trans (uint16_ofNat_inj (hlt live .loraBw) (hlt live' .loraBw))
  have hsf : (UInt8.ofNat (rawField live .loraSf)).toUInt32
        = (UInt8.ofNat (rawField live' .loraSf)).toUInt32
      ↔ rawField live .loraSf = rawField live' .loraSf :=
    UInt8.toUInt32_inj.trans (uint8_ofNat_inj (hlt live .loraSf) (hlt live' .loraSf))
  have hcr : (UInt8.ofNat (rawField live .loraCr)).toUInt32
        = (UInt8.ofNat (rawField live' .loraCr)).toUInt32
      ↔ rawField live .loraCr = rawField live' .loraCr :=
    UInt8.toUInt32_inj.trans (uint8_ofNat_inj (hlt live .loraCr) (hlt live' .loraCr))
  have hpower : (UInt8.ofNat (rawField live .loraTxPower)).toInt8
        = (UInt8.ofNat (rawField live' .loraTxPower)).toInt8
      ↔ rawField live .loraTxPower = rawField live' .loraTxPower :=
    Iff.trans ⟨congrArg Int8.toUInt8, congrArg UInt8.toInt8⟩
      (uint8_ofNat_inj (hlt live .loraTxPower) (hlt live' .loraTxPower))
  simp only [radioFields, List.forall_mem_cons, ← hfreq, ← hbw, ← hsf, ← hcr, ← hpower]
  exact Iff.and Iff.rfl (Iff.and Iff.rfl (Iff.and Iff.rfl (Iff.and Iff.rfl
    (by simp [loraPopulateModemConfig, tsConfigGet]))))

/-- **A field is loaded as its default** exactly if the store has nothing else
for it. -/
theorem rawField_settingsLoad_iff (store : SettingsStore) (load : SettingsLoad store)
    (f : ConfigField) :
    rawField tsConfigDefaults f = rawField (settingsLoad tsConfigDefaults load.order) f
      ↔ StoresDefault store f := by
  obtain ⟨k, hk, hoff, hsize, hname⟩ := exists_configKey f
  have hraw : ∀ m, rawField m f = ofLe (fieldBytes m k) := by
    intro m
    rw [fieldBytes, hoff, hsize, rawField]
  have hdefault : fieldBytes tsConfigDefaults k = nativeBytes f.ctype.size f.default := by
    rw [fieldBytes, hoff, hsize, read_tsConfigDefaults]
  have hlen : (nativeBytes f.ctype.size f.default).length = f.ctype.size := length_leBytes _ _
  rw [hraw, hraw, fieldBytes_settingsLoad load _ hk, hdefault, hname, hsize]
  unfold StoresDefault
  cases hl : store.lookup (loadName f.name) with
  | none => exact iff_of_true rfl nofun
  | some bs =>
    by_cases hbs : bs.length = f.ctype.size
    · simp only [Option.filter_some, hbs, decide_true, if_true, Option.getD_some]
      rw [ofLe_inj (hlen.trans hbs.symm)]
      constructor
      · rintro hsame bs' hbs' -
        rw [← Option.some.inj hbs', hsame]
      · exact fun h => (h bs rfl hbs).symm
    · simp only [Option.filter_some, hbs, decide_false, Bool.false_eq_true, if_false,
        Option.getD_none]
      refine iff_of_true trivial (fun bs' hbs' hlen' => absurd ?_ hbs)
      rwa [Option.some.inj hbs']

/-- **The radio runs with the loaded configuration exactly where that is the
default.** From every store the boot comes to the end of a successful
`ts_config_init`, and then what `lora_config` was last called with is the
live configuration's if and only if the store holds, for each of the five
radio fields, nothing that the loader takes or the bytes of the default. -/
theorem radio_runs_with_loaded_iff {τ : Type} [Inhabited τ] (P : Platform)
    (store : SettingsStore) (load : SettingsLoad store) :
    ∃ s : Booting τ, run (Booting.step P) (Booting.afterLoraInit store true 0)
        [.tsAuthInit 0, .tsConfigInit 0 0 load.order] = some s
      ∧ ((∃ modem, s.modem = some modem ∧ modem.RunsWith s.node.cfg)
        ↔ ∀ f ∈ radioFields, StoresDefault store f) := by
  refine ⟨_, rfl, ?_⟩
  have hiff := runsWith_iff tsConfigDefaults (settingsLoad tsConfigDefaults load.order)
  simp only [rawField_settingsLoad_iff store load] at hiff
  rw [← hiff]
  constructor
  · rintro ⟨modem, hmodem, hruns⟩
    cases hmodem
    exact hruns
  · exact fun hruns => ⟨_, rfl, hruns⟩

/-- A store in which a spreading factor of 7 was saved. -/
def savedSf : SettingsStore := (∅ : SettingsStore).insert (loadName (cstr "lora_sf")) [7]

/-- **A node that has loaded a spreading factor of 7 sends and listens with
10.** -/
theorem savedSf_not_used : ∃ (load : SettingsLoad savedSf) (s : Booting Unit),
    run (Booting.step defaultPlatform) (Booting.afterLoraInit savedSf true 0)
        [.tsAuthInit 0, .tsConfigInit 0 0 load.order] = some s
      ∧ s.node.cfg.loraSf = 7 ∧ (s.modem.map LoraModemConfig.datarate) = some 10
      ∧ ¬ ∃ modem, s.modem = some modem ∧ modem.RunsWith s.node.cfg := by
  refine ⟨⟨savedSf.entries, List.Perm.refl _⟩, _, rfl, by decide +kernel, by decide +kernel, ?_⟩
  rintro ⟨modem, hmodem, -, -, hsf, -⟩
  cases hmodem
  exact absurd hsf (by decide +kernel)

end Terrascope
