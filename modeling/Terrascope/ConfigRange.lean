import Terrascope.ConfigPersistence
import Terrascope.Transition

/-!
# Configuration values stay in range

Three things write to the live configuration or the store: `ts_config_set`,
which checks the range, the defaults, which lie in it, and the loader, which
copies bytes of the right size without looking at them. What the loader
copies was put into the store by a set that had checked it, so nothing out of
range ever gets in, whichever of the settings calls fail on the way.

`CType.value` is what bytes mean at a C type, and `value_nativeBytes` says
that a value which its type holds is read back as it was stored. The sign that
`write_field` guesses from the descriptor's minimum plays no part in it.
-/

namespace Terrascope

open Transition Zephyr ByteMemory

/-! ## Values of bytes -/

/-- **The value some bytes have** at a C type. -/
def CType.value : CType → List UInt8 → ℤ
  | .uint8, bs | .uint16, bs | .uint32, bs => ofLe bs
  | .int8, bs => (UInt8.ofNat (ofLe bs)).toInt8.toInt
  | .int16, bs => (UInt16.ofNat (ofLe bs)).toInt16.toInt

/-- The values that a C type and an `int32_t` have in common. -/
def CType.Holds : CType → ℤ → Prop
  | .uint8, v => 0 ≤ v ∧ v < 2 ^ 8
  | .int8, v => -2 ^ 7 ≤ v ∧ v < 2 ^ 7
  | .uint16, v => 0 ≤ v ∧ v < 2 ^ 16
  | .int16, v => -2 ^ 15 ≤ v ∧ v < 2 ^ 15
  | .uint32, v => 0 ≤ v ∧ v < 2 ^ 31

instance : (c : CType) → (v : ℤ) → Decidable (c.Holds v)
  | .uint8, _ | .int8, _ | .uint16, _ | .int16, _ | .uint32, _ => inferInstanceAs (Decidable (_ ∧ _))

/-- **A value its type holds is read back as it was stored.** -/
theorem value_nativeBytes {c : CType} {v : Int32} (h : c.Holds v.toInt) :
    c.value (nativeBytes c.size v) = v.toInt := by
  have hnat : v.toInt = if 2 * v.toUInt32.toNat < 2 ^ 32 then (v.toUInt32.toNat : ℤ)
      else v.toUInt32.toNat - 2 ^ 32 := BitVec.toInt_eq_toNat_cond v.toBitVec
  have hlt := v.toUInt32.toNat_lt
  have hword : ofLe (nativeBytes c.size v) = v.toUInt32.toNat % 256 ^ c.size := ofLe_leBytes _ _
  generalize v.toUInt32.toNat = t at *
  cases c with
  | uint8 | uint16 | uint32 =>
    simp only [CType.Holds, CType.size] at h hword
    simp only [CType.value, CType.size, hword]
    split at hnat <;> omega
  | int8 =>
    simp only [CType.Holds, CType.size] at h hword
    have hread : (UInt8.ofNat (t % 256 ^ 1)).toInt8.toInt
        = if 2 * (t % 256 ^ 1 % 2 ^ 8) < 2 ^ 8 then ((t % 256 ^ 1 % 2 ^ 8 : ℕ) : ℤ)
          else (t % 256 ^ 1 % 2 ^ 8 : ℕ) - 2 ^ 8 :=
      BitVec.toInt_eq_toNat_cond (BitVec.ofNat 8 (t % 256 ^ 1))
    simp only [CType.value, CType.size, hword, hread]
    split at hnat <;> split <;> omega
  | int16 =>
    simp only [CType.Holds, CType.size] at h hword
    have hread : (UInt16.ofNat (t % 256 ^ 2)).toInt16.toInt
        = if 2 * (t % 256 ^ 2 % 2 ^ 16) < 2 ^ 16 then ((t % 256 ^ 2 % 2 ^ 16 : ℕ) : ℤ)
          else (t % 256 ^ 2 % 2 ^ 16 : ℕ) - 2 ^ 16 :=
      BitVec.toInt_eq_toNat_cond (BitVec.ofNat 16 (t % 256 ^ 2))
    simp only [CType.value, CType.size, hword, hread]
    split at hnat <;> split <;> omega

/-- **A field of the struct**, as a number. -/
def TsConfig.value (cfg : TsConfig) : ConfigField → ℤ
  | .routingTtl => cfg.routingTtl.toNat
  | .contentionDelayMinMs => cfg.contentionDelayMinMs.toNat
  | .contentionDelayMaxMs => cfg.contentionDelayMaxMs.toNat
  | .contentionRssiWeak => cfg.contentionRssiWeak.toInt
  | .contentionRssiStrong => cfg.contentionRssiStrong.toInt
  | .routingTableStaleTimeoutS => cfg.routingTableStaleTimeoutS.toNat
  | .nodeId => cfg.nodeId.toNat
  | .loraFrequency => cfg.loraFrequency.toNat
  | .loraSf => cfg.loraSf.toNat
  | .loraBw => cfg.loraBw.toNat
  | .loraCr => cfg.loraCr.toNat
  | .loraTxPower => cfg.loraTxPower.toInt
  | .sensorIntervalS => cfg.sensorIntervalS.toNat
  | .heartbeatIntervalS => cfg.heartbeatIntervalS.toNat
  | .routingTableAgeIntervalS => cfg.routingTableAgeIntervalS.toNat

/-- The readers of the struct see each field at its type. -/
theorem value_tsConfigGet (live : ByteMemory) (f : ConfigField) :
    (tsConfigGet live).value f = f.ctype.value (live.read (offsetof f) f.ctype.size) := by
  have hlt := rawField_lt live f
  cases f <;> simp only [TsConfig.value, tsConfigGet, CType.value, ConfigField.ctype, rawField,
    CType.size] at hlt ⊢
  case routingTtl | loraSf | loraCr => exact congrArg _ (UInt8.toNat_ofNat_of_lt' hlt)
  case nodeId | loraBw => exact congrArg _ (UInt16.toNat_ofNat_of_lt' hlt)
  case contentionDelayMinMs | contentionDelayMaxMs | routingTableStaleTimeoutS | loraFrequency
    | sensorIntervalS | heartbeatIntervalS | routingTableAgeIntervalS =>
    exact congrArg _ (UInt32.toNat_ofNat_of_lt' hlt)

/-- **The value determines the bytes**, at the size of the type. -/
theorem CType.value_inj {c : CType} {bs bs' : List UInt8} (h : bs.length = c.size)
    (h' : bs'.length = c.size) : c.value bs = c.value bs' ↔ bs = bs' := by
  refine ⟨fun heq => (ofLe_inj (h.trans h'.symm)).mp ?_, congrArg c.value⟩
  have hlt := ofLe_lt bs
  have hlt' := ofLe_lt bs'
  rw [h] at hlt
  rw [h'] at hlt'
  cases c with
  | uint8 | uint16 | uint32 => exact Int.ofNat_inj.mp heq
  | int8 =>
    have hword := congrArg Int8.toUInt8 (Int8.toInt_inj.mp heq)
    exact (uint8_ofNat_inj hlt hlt').mp hword
  | int16 =>
    have hword := congrArg Int16.toUInt16 (Int16.toInt_inj.mp heq)
    exact (uint16_ofNat_inj hlt hlt').mp hword

/-! ## Ranges -/

/-- **Some bytes hold a value in the range of a key**, read at the type of
its field. -/
def BytesInRange (f : ConfigField) (k : TsConfigKey) (bs : List UInt8) : Prop :=
  bs.length = k.size ∧ k.min.toInt ≤ f.ctype.value bs ∧ f.ctype.value bs ≤ k.max.toInt

/-- A key is the descriptor of a field. -/
def DescribedBy (f : ConfigField) (k : TsConfigKey) : Prop := k ∈ configKeys ∧ k.name = f.name

/-- Its descriptor reaches the field, and its range is one the field's type
holds. -/
theorem DescribedBy.shape {f : ConfigField} {k : TsConfigKey} (h : DescribedBy f k) :
    k.offset = offsetof f ∧ k.size = f.ctype.size
      ∧ ∀ v : Int32, k.min ≤ v → v ≤ k.max → f.ctype.Holds v.toInt := by
  obtain ⟨k', hk', hoff, hsize, hname⟩ := exists_configKey f
  obtain rfl := eq_of_name_eq h.1 hk' (h.2.trans hname.symm)
  refine ⟨hoff, hsize, fun v hmin hmax => ?_⟩
  rw [Int32.le_iff_toInt_le] at hmin hmax
  -- the ends of every range are values of the field's type
  have hends : ∀ f, ∀ k ∈ configKeys, k.name = ConfigField.name f →
      f.ctype.Holds k.min.toInt ∧ f.ctype.Holds k.max.toInt := by
    intro f
    cases f <;> decide
  obtain ⟨hlo, hhi⟩ := hends f k h.1 h.2
  cases hc : f.ctype <;> rw [hc] at hlo hhi <;> simp only [CType.Holds] at hlo hhi ⊢ <;> omega

/-- Every key is the descriptor of a field. -/
theorem exists_describedBy {k : TsConfigKey} (hk : k ∈ configKeys) : ∃ f, DescribedBy f k := by
  have hname : k.name ∈ ConfigField.all.map ConfigField.name := by
    rw [← map_name_configKeys]
    exact List.mem_map_of_mem hk
  obtain ⟨f, -, hf⟩ := List.mem_map.mp hname
  exact ⟨f, hk, hf.symm⟩

/-- **The struct is determined by the bytes of its fields**, and determines
them. -/
theorem tsConfigGet_eq_iff (live live' : ByteMemory) :
    tsConfigGet live = tsConfigGet live'
      ↔ ∀ k ∈ configKeys, fieldBytes live k = fieldBytes live' k := by
  refine ⟨fun h k hk => ?_, tsConfigGet_congr⟩
  obtain ⟨f, hf⟩ := exists_describedBy hk
  obtain ⟨hoff, hsize, -⟩ := hf.shape
  have hvalue := congrArg (fun cfg => TsConfig.value cfg f) h
  simp only [value_tsConfigGet] at hvalue
  unfold fieldBytes
  rw [hoff, hsize]
  exact (CType.value_inj (length_read _ _ _) (length_read _ _ _)).mp hvalue

/-- **What a set stores for a field is in range.** -/
theorem bytesInRange_nativeBytes {f : ConfigField} {k : TsConfigKey} (h : DescribedBy f k)
    {v : Int32} (hv : ¬ (v < k.min ∨ v > k.max)) : BytesInRange f k (nativeBytes k.size v) := by
  obtain ⟨-, hsize, hholds⟩ := h.shape
  obtain ⟨hmin, hmax⟩ := not_or.mp hv
  have hlo : k.min ≤ v := Int32.not_lt.mp hmin
  have hhi : v ≤ k.max := Int32.not_lt.mp hmax
  refine ⟨length_leBytes _ _, ?_⟩
  rw [hsize, value_nativeBytes (hholds v hlo hhi)]
  exact ⟨Int32.le_iff_toInt_le.mp hlo, Int32.le_iff_toInt_le.mp hhi⟩

/-- The defaults are in range. -/
theorem bytesInRange_tsConfigDefaults {f : ConfigField} {k : TsConfigKey}
    (h : DescribedBy f k) : BytesInRange f k (fieldBytes tsConfigDefaults k) := by
  obtain ⟨hoff, hsize, -⟩ := h.shape
  have hdefault : ∀ f, ∀ k ∈ configKeys, k.name = ConfigField.name f →
      ¬ (f.default < k.min ∨ f.default > k.max) := by
    intro f
    cases f <;> decide
  rw [fieldBytes, hoff, hsize, read_tsConfigDefaults, ← hsize]
  exact bytesInRange_nativeBytes h (hdefault f k h.1 h.2)

/-- **Everything is in range**: every field of the struct, and what the store
has under the name a key is stored by or the name it is loaded by. -/
structure InRange (s : ConfigState) : Prop where
  live : ∀ f k, DescribedBy f k → BytesInRange f k (fieldBytes s.live k)
  store : ∀ f k, DescribedBy f k → ∀ name, name = fullName k.name ∨ name = loadName k.name →
    ∀ bs, s.store.lookup name = some bs → BytesInRange f k bs

/-- **Every field of the struct is in range**, as its readers see it. -/
theorem InRange.value {s : ConfigState} (h : InRange s) {f : ConfigField} {k : TsConfigKey}
    (hk : DescribedBy f k) : k.min.toInt ≤ (tsConfigGet s.live).value f
      ∧ (tsConfigGet s.live).value f ≤ k.max.toInt := by
  obtain ⟨hoff, hsize, -⟩ := hk.shape
  obtain ⟨-, hrange⟩ := h.live f k hk
  rwa [fieldBytes, hoff, hsize, ← value_tsConfigGet] at hrange

/-- **The fields of a struct are in the ranges of the key table.** -/
def TsConfig.InKeyRanges (cfg : TsConfig) : Prop :=
  ∀ f k, DescribedBy f k → k.min.toInt ≤ cfg.value f ∧ cfg.value f ≤ k.max.toInt

theorem InRange.inKeyRanges {s : ConfigState} (h : InRange s) :
    (tsConfigGet s.live).InKeyRanges :=
  fun _ _ hk => h.value hk

/-! ## Runs -/

/-- **A call of the module's interface**, with what the settings calls in it
return. -/
inductive ConfigCall where
  /-- A boot; `settings_load` may have come across some of the entries
  only. -/
  | init (subsysRet loadRet : Int32) (order : List (Sigma fun _ : CString => List UInt8))
  | set (key : CString) (value saveRet : Int32)
  | reset (delRet : CString → Int32)

/-- The call. What is loaded was in the store. -/
def ConfigCall.apply (s : ConfigState) : ConfigCall → Option ConfigState
  | .init subsysRet loadRet order =>
    if ∀ e ∈ order, e ∈ s.store.entries then some (tsConfigInit s subsysRet loadRet order).1
    else none
  | .set key value saveRet => some (tsConfigSet s key value saveRet).1
  | .reset delRet => some (tsConfigReset s delRet).1

theorem inRange_empty : InRange ConfigState.empty where
  live := fun _ _ h => bytesInRange_tsConfigDefaults h
  store := fun _ _ _ name _ bs hbs => by
    rw [show ConfigState.empty.store = ∅ from rfl, AList.lookup_empty] at hbs
    cases hbs

/-- What is loaded from a store in range is in range, field by field. -/
theorem bytesInRange_settingsLoad {store : SettingsStore}
    (hstore : ∀ f k, DescribedBy f k → ∀ bs, store.lookup (loadName k.name) = some bs →
      BytesInRange f k bs)
    {order : List (Sigma fun _ : CString => List UInt8)} (horder : ∀ e ∈ order, e ∈ store.entries)
    {live : ByteMemory} {f : ConfigField} {k : TsConfigKey} (h : DescribedBy f k)
    (hlive : BytesInRange f k (fieldBytes live k)) :
    BytesInRange f k (fieldBytes (settingsLoad live order) k) := by
  unfold settingsLoad
  induction order generalizing live with
  | nil => exact hlive
  | cons e order ih =>
    refine ih (fun e' he' => horder e' (List.mem_cons_of_mem e he')) ?_
    rw [fieldBytes_settingsLoadEntry _ _ h.1]
    split
    · next htaken =>
      have hlookup := AList.mem_lookup_iff.mpr (horder e List.mem_cons_self)
      rw [htaken.1] at hlookup
      exact hstore f k h e.snd hlookup
    · exact hlive

/-- **A boot keeps everything in range**, whether or not it succeeds. -/
theorem InRange.init {s : ConfigState} (h : InRange s) (subsysRet loadRet : Int32)
    {order : List (Sigma fun _ : CString => List UInt8)}
    (horder : ∀ e ∈ order, e ∈ s.store.entries) :
    InRange (tsConfigInit s subsysRet loadRet order).1 := by
  unfold tsConfigInit
  split
  · exact ⟨fun _ _ hk => bytesInRange_tsConfigDefaults hk, h.store⟩
  · refine ⟨fun f k hk => ?_, h.store⟩
    exact bytesInRange_settingsLoad (fun f k hk bs hbs => h.store f k hk _ (Or.inr rfl) bs hbs)
      horder hk (bytesInRange_tsConfigDefaults hk)

/-- A rebuilt name is that of one key, also among the names keys are loaded
by. -/
theorem eq_of_fullName {k k' : TsConfigKey} (hk : k ∈ configKeys) (hk' : k' ∈ configKeys)
    {name : CString} (hname : name = fullName k.name ∨ name = loadName k.name)
    (h : name = fullName k'.name) : k = k' := by
  rcases hname with hname | hname
  · exact eq_of_fullName_eq hk hk' (hname.symm.trans h)
  · by_cases hst : k = staleKey
    · exact absurd (h.symm.trans (hst ▸ hname)) (fullName_ne_loadName_staleKey hk')
    · rw [← fullName_eq_loadName hk hst] at hname
      exact eq_of_fullName_eq hk hk' (hname.symm.trans h)

/-- **A set keeps everything in range**, whether or not the value is saved. -/
theorem InRange.set {s : ConfigState} (h : InRange s) (pKey : CString) (value saveRet : Int32) :
    InRange (tsConfigSet s pKey value saveRet).1 := by
  rcases tsConfigSet_cases s pKey value saveRet with ⟨-, heq⟩ | ⟨entry, hf, hr, heq⟩
  · rw [heq]
    exact h
  · obtain ⟨hentry, -⟩ := findKey_eq_some.mp hf
    have hlen : (nativeBytes entry.size value).length = entry.size := length_leBytes _ _
    rw [heq]
    constructor
    · intro f k hk
      by_cases hkk : entry = k
      · subst hkk
        rw [fieldBytes_write_self _ hlen]
        exact bytesInRange_nativeBytes hk hr
      · rw [fieldBytes_write_of_ne _ hentry hk.1 hkk hlen]
        exact h.live f k hk
    -- the store keeps its old bytes when the save fails, and those were in range
    · intro f k hk name hname bs hbs
      dsimp only [settingsSaveOne] at hbs
      split at hbs
      · by_cases hsame : name = fullName entry.name
        · obtain rfl := eq_of_fullName hk.1 hentry hname hsame
          rw [hsame, AList.lookup_insert] at hbs
          rw [← Option.some.inj hbs]
          exact bytesInRange_nativeBytes hk hr
        · rw [AList.lookup_insert_ne hsame] at hbs
          exact h.store f k hk name hname bs hbs
      · exact h.store f k hk name hname bs hbs

/-- **A reset keeps everything in range**, whichever deletions fail. -/
theorem InRange.reset {s : ConfigState} (h : InRange s) (delRet : CString → Int32) :
    InRange (tsConfigReset s delRet).1 := by
  refine ⟨fun _ _ hk => bytesInRange_tsConfigDefaults hk, fun f k hk name hname bs hbs => ?_⟩
  rw [lookup_tsConfigReset] at hbs
  split at hbs
  · cases hbs
  · exact h.store f k hk name hname bs hbs

/-- **Every call keeps everything in range.** -/
theorem InRange.apply {s s' : ConfigState} (h : InRange s) {call : ConfigCall}
    (hs : call.apply s = some s') : InRange s' := by
  cases call with
  | init subsysRet loadRet order =>
    simp only [ConfigCall.apply] at hs
    split at hs
    · next horder =>
      cases hs
      exact h.init subsysRet loadRet horder
    · cases hs
  | set key value saveRet =>
    cases hs
    exact h.set key value saveRet
  | reset delRet =>
    cases hs
    exact h.reset delRet

/-- **Configuration values stay in range over whole runs.** From an empty
store, over any sequence of boots, sets and resets in which any settings call
may fail, every field of the live configuration, read at its C type, lies
between the minimum and the maximum of its descriptor, and so does what the
store has under the name of a key. -/
theorem config_stays_in_range {calls : List ConfigCall} {s : ConfigState}
    (hrun : run ConfigCall.apply ConfigState.empty calls = some s) :
    (∀ f, ∃ k ∈ configKeys, k.name = f.name
        ∧ k.min.toInt ≤ (tsConfigGet s.live).value f ∧ (tsConfigGet s.live).value f ≤ k.max.toInt)
      ∧ ∀ f, ∀ k ∈ configKeys, k.name = ConfigField.name f →
        ∀ name, name = fullName k.name ∨ name = loadName k.name →
        ∀ bs, s.store.lookup name = some bs →
          bs.length = k.size ∧ k.min.toInt ≤ f.ctype.value bs ∧ f.ctype.value bs ≤ k.max.toInt := by
  have h : InRange s := run_invariant (fun _ _ _ hI hs => hI.apply hs) inRange_empty hrun
  refine ⟨fun f => ?_, fun f k hk hname => h.store f k ⟨hk, hname⟩⟩
  obtain ⟨k, hk, -, -, hname⟩ := exists_configKey f
  exact ⟨k, hk, hname, h.value ⟨hk, hname⟩⟩

/-- Two values at the ends of their ranges, of which one cannot be saved, a
boot that loads the other, and a reset that deletes nothing. -/
def callsWithFailures : List ConfigCall :=
  [.set (cstr "ts/lora_tx_power") (-9) 0, .set (cstr "routing_ttl") 255 (-5),
    .init 0 (-5) [⟨cstr "ts/lora_tx_power", [0xF7]⟩], .set (cstr "node_id") 65536 0,
    .reset (fun _ => -5)]

/-- They leave everything in range. -/
theorem config_stays_in_range_callsWithFailures :
    ∃ s, run ConfigCall.apply ConfigState.empty callsWithFailures = some s
      ∧ ∀ f, ∃ k ∈ configKeys, k.name = ConfigField.name f
        ∧ k.min.toInt ≤ (tsConfigGet s.live).value f
        ∧ (tsConfigGet s.live).value f ≤ k.max.toInt := by
  obtain ⟨s, hrun⟩ : ∃ s, run ConfigCall.apply ConfigState.empty callsWithFailures = some s :=
    Option.isSome_iff_exists.mp (by decide +kernel)
  exact ⟨s, hrun, (config_stays_in_range hrun).1⟩

end Terrascope
