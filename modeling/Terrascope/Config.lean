import Terrascope.ByteMemory
import Terrascope.Messages
import Terrascope.Zephyr

/-!
# Runtime configuration

`config.c` over the bytes of `live_config`. A field is reached through the
offset and the size of its descriptor, at the offset the compiler gives it,
and its value is written at that size: what the struct says about the
field's type plays no part in the write. `tsConfigGet` is the struct as its
readers see it, every field at its declared type.

The settings calls are taken with the code they return. A call that returns
`0` has done what the service documents, one that does not has left the
store as it was.
-/

namespace Terrascope

open Zephyr ByteMemory

/-! ## The struct -/

/-- The C types of the fields of `struct ts_config`. -/
inductive CType where
  | uint8 | int8 | uint16 | int16 | uint32
deriving DecidableEq, Repr

/-- `sizeof`, which is also the alignment. -/
def CType.size : CType → ℕ
  | .uint8 | .int8 => 1
  | .uint16 | .int16 => 2
  | .uint32 => 4

/-- The fields of `struct ts_config`. -/
inductive ConfigField where
  | routingTtl
  | contentionDelayMinMs
  | contentionDelayMaxMs
  | contentionRssiWeak
  | contentionRssiStrong
  | routingTableStaleTimeoutS
  | nodeId
  | loraFrequency
  | loraSf
  | loraBw
  | loraCr
  | loraTxPower
  | sensorIntervalS
  | heartbeatIntervalS
  | routingTableAgeIntervalS
deriving DecidableEq, Repr

namespace ConfigField

/-- The declared type of a field. -/
def ctype : ConfigField → CType
  | routingTtl => .uint8
  | contentionDelayMinMs => .uint32
  | contentionDelayMaxMs => .uint32
  | contentionRssiWeak => .int16
  | contentionRssiStrong => .int16
  | routingTableStaleTimeoutS => .uint32
  | nodeId => .uint16
  | loraFrequency => .uint32
  | loraSf => .uint8
  | loraBw => .uint16
  | loraCr => .uint8
  | loraTxPower => .int8
  | sensorIntervalS => .uint32
  | heartbeatIntervalS => .uint32
  | routingTableAgeIntervalS => .uint32

/-- The field's name in the source, which `CONFIG_KEY` turns into the key's
name. -/
def name : ConfigField → CString
  | routingTtl => cstr "routing_ttl"
  | contentionDelayMinMs => cstr "contention_delay_min_ms"
  | contentionDelayMaxMs => cstr "contention_delay_max_ms"
  | contentionRssiWeak => cstr "contention_rssi_weak"
  | contentionRssiStrong => cstr "contention_rssi_strong"
  | routingTableStaleTimeoutS => cstr "routing_table_stale_timeout_s"
  | nodeId => cstr "node_id"
  | loraFrequency => cstr "lora_frequency"
  | loraSf => cstr "lora_sf"
  | loraBw => cstr "lora_bw"
  | loraCr => cstr "lora_cr"
  | loraTxPower => cstr "lora_tx_power"
  | sensorIntervalS => cstr "sensor_interval_s"
  | heartbeatIntervalS => cstr "heartbeat_interval_s"
  | routingTableAgeIntervalS => cstr "routing_table_age_interval_s"

/-- `TS_CONFIG_DEFAULTS`. -/
def default : ConfigField → Int32
  | routingTtl => 5
  | contentionDelayMinMs => 0
  | contentionDelayMaxMs => 5000
  | contentionRssiWeak => -120
  | contentionRssiStrong => -30
  | routingTableStaleTimeoutS => 300
  | nodeId => 0x0001
  | loraFrequency => 865100000
  | loraSf => 10
  | loraBw => 125
  | loraCr => 1
  | loraTxPower => 4
  | sensorIntervalS => 10
  | heartbeatIntervalS => 7
  | routingTableAgeIntervalS => 60

/-- The fields in the order of their declaration. -/
def all : List ConfigField :=
  [routingTtl, contentionDelayMinMs, contentionDelayMaxMs, contentionRssiWeak,
    contentionRssiStrong, routingTableStaleTimeoutS, nodeId, loraFrequency, loraSf,
    loraBw, loraCr, loraTxPower, sensorIntervalS, heartbeatIntervalS,
    routingTableAgeIntervalS]

end ConfigField

/-- The next multiple of an alignment. -/
def alignUp (align off : ℕ) : ℕ := (off + align - 1) / align * align

/-- The offsets of fields laid out from `off` on, each at its alignment. -/
def layoutFrom : ℕ → List ConfigField → List (ConfigField × ℕ)
  | _, [] => []
  | off, f :: fs =>
    (f, alignUp f.ctype.size off)
      :: layoutFrom (alignUp f.ctype.size off + f.ctype.size) fs

/-- `offsetof(struct ts_config, field)`. -/
def offsetof (f : ConfigField) : ℕ :=
  ((layoutFrom 0 ConfigField.all).lookup f).getD 0

/-! ## The key table -/

/-- `struct ts_config_key`. -/
structure TsConfigKey where
  name : CString
  offset : ℕ
  size : ℕ
  min : Int32
  max : Int32
deriving DecidableEq

/-- `CONFIG_KEY(field, lo, hi)`. -/
def configKey (f : ConfigField) (lo hi : Int32) : TsConfigKey where
  name := f.name
  offset := offsetof f
  size := f.ctype.size
  min := lo
  max := hi

/-- `config_keys`. -/
def configKeys : List TsConfigKey :=
  [configKey .routingTtl 1 255,
    configKey .contentionDelayMinMs 0 60000,
    configKey .contentionDelayMaxMs 0 60000,
    configKey .contentionRssiWeak (-150) 0,
    configKey .contentionRssiStrong (-150) 0,
    configKey .routingTableStaleTimeoutS 1 86400,
    configKey .nodeId 0 0xFFFF,
    configKey .loraFrequency 150000000 960000000,
    configKey .loraSf 5 12,
    configKey .loraBw 7 1600,
    configKey .loraCr 1 4,
    configKey .loraTxPower (-9) 22,
    configKey .sensorIntervalS 1 86400,
    configKey .heartbeatIntervalS 1 86400,
    configKey .routingTableAgeIntervalS 1 86400]

/-- `find_key`. -/
def findKey (name : CString) : Option TsConfigKey :=
  configKeys.find? (fun k => k.name == name)

/-! ## Live configuration -/

/-- The bytes of an `int32_t` as the machine stores them, cut to a size. -/
def nativeBytes (size : ℕ) (value : Int32) : List UInt8 :=
  leBytes size value.toUInt32.toNat

/-- `write_field`: the value cast to the field's native width. -/
def writeField (live : ByteMemory) (key : TsConfigKey) (value : Int32) : ByteMemory :=
  match key.size with
  | 1 =>
    if key.min < 0 then
      live.write key.offset (leBytes 1 value.toInt8.toUInt8.toNat)
    else live.write key.offset (leBytes 1 value.toUInt32.toUInt8.toNat)
  | 2 =>
    if key.min < 0 then
      live.write key.offset (leBytes 2 value.toInt16.toUInt16.toNat)
    else live.write key.offset (leBytes 2 value.toUInt32.toUInt16.toNat)
  | 4 => live.write key.offset (leBytes 4 value.toUInt32.toNat)
  | _ => live

/-- `TS_CONFIG_DEFAULTS` as an object, with zeros for padding. -/
def tsConfigDefaults : ByteMemory :=
  ConfigField.all.foldl
    (fun m f => m.write (offsetof f) (nativeBytes f.ctype.size f.default)) (fun _ => 0)

/-- `struct ts_config` as a reader sees it. -/
structure TsConfig where
  routingTtl : UInt8
  contentionDelayMinMs : UInt32
  contentionDelayMaxMs : UInt32
  contentionRssiWeak : Int16
  contentionRssiStrong : Int16
  routingTableStaleTimeoutS : UInt32
  nodeId : UInt16
  loraFrequency : UInt32
  loraSf : UInt8
  loraBw : UInt16
  loraCr : UInt8
  loraTxPower : Int8
  sensorIntervalS : UInt32
  heartbeatIntervalS : UInt32
  routingTableAgeIntervalS : UInt32
deriving DecidableEq, Repr

/-- The word a field's bytes spell. -/
def rawField (live : ByteMemory) (f : ConfigField) : ℕ :=
  ofLe (live.read (offsetof f) f.ctype.size)

/-- `ts_config_get`: every field read at its declared type. -/
def tsConfigGet (live : ByteMemory) : TsConfig where
  routingTtl := UInt8.ofNat (rawField live .routingTtl)
  contentionDelayMinMs := UInt32.ofNat (rawField live .contentionDelayMinMs)
  contentionDelayMaxMs := UInt32.ofNat (rawField live .contentionDelayMaxMs)
  contentionRssiWeak := (UInt16.ofNat (rawField live .contentionRssiWeak)).toInt16
  contentionRssiStrong := (UInt16.ofNat (rawField live .contentionRssiStrong)).toInt16
  routingTableStaleTimeoutS := UInt32.ofNat (rawField live .routingTableStaleTimeoutS)
  nodeId := UInt16.ofNat (rawField live .nodeId)
  loraFrequency := UInt32.ofNat (rawField live .loraFrequency)
  loraSf := UInt8.ofNat (rawField live .loraSf)
  loraBw := UInt16.ofNat (rawField live .loraBw)
  loraCr := UInt8.ofNat (rawField live .loraCr)
  loraTxPower := (UInt8.ofNat (rawField live .loraTxPower)).toInt8
  sensorIntervalS := UInt32.ofNat (rawField live .sensorIntervalS)
  heartbeatIntervalS := UInt32.ofNat (rawField live .heartbeatIntervalS)
  routingTableAgeIntervalS := UInt32.ofNat (rawField live .routingTableAgeIntervalS)

/-- The module's state: `live_config` and the settings store behind it. -/
structure ConfigState where
  live : ByteMemory
  store : SettingsStore

/-- First boot: the static initialiser and an empty store. -/
def ConfigState.empty : ConfigState := ⟨tsConfigDefaults, ∅⟩

/-! ## The operations -/

/-- `snprintf(full_name, sizeof(full_name), "ts/%s", name)` into 32 bytes. -/
def fullName (name : CString) : CString := (cstr "ts/" ++ name).take 31

/-- `settings_save_one`, with the code it returns. -/
def settingsSaveOne (store : SettingsStore) (ret : Int32) (name : CString)
    (val : List UInt8) : SettingsStore :=
  if ret = 0 then store.insert name val else store

/-- `settings_delete`, with the code it returns. -/
def settingsDelete (store : SettingsStore) (ret : Int32) (name : CString) : SettingsStore :=
  if ret = 0 then store.erase name else store

/-- The key name `ts_config_set` looks up: at most one `ts/` removed. -/
def keyField (pKey : CString) : CString :=
  if pKey.take 3 = cstr "ts/" then pKey.drop 3 else pKey

/-- `ts_config_set`; `saveRet` is what `settings_save_one` returns. -/
def tsConfigSet (s : ConfigState) (pKey : CString) (value saveRet : Int32) :
    ConfigState × Int32 :=
  match findKey (keyField pKey) with
  | none => (s, -Errno.ENOENT)
  | some entry =>
    if value < entry.min ∨ value > entry.max then (s, -Errno.EINVAL)
    else
      let live := writeField s.live entry value
      let store := settingsSaveOne s.store saveRet (fullName entry.name)
        (live.read entry.offset entry.size)
      (⟨live, store⟩, saveRet)

/-- `ts_config_reset`; `delRet` gives what each `settings_delete` returns,
which the code does not look at. -/
def tsConfigReset (s : ConfigState) (delRet : CString → Int32) : ConfigState × Int32 :=
  let store := configKeys.foldl
    (fun st k => settingsDelete st (delRet (fullName k.name)) (fullName k.name)) s.store
  (⟨tsConfigDefaults, store⟩, 0)

/-- `config_settings_set`, the callback for one stored key: `len` is the
length of the stored value and `readCb` what reading it gives. -/
def configSettingsSet (live : ByteMemory) (key : CString) (len : ℕ)
    (readCb : Except Int32 (List UInt8)) : ByteMemory × Int32 :=
  match findKey key with
  | none => (live, -Errno.ENOENT)
  | some entry =>
    if len ≠ entry.size then (live, -Errno.EINVAL)
    else
      match readCb with
      | .error rc => (live, rc)
      | .ok val => (live.write entry.offset val, 0)

/-- One entry that `settings_load` comes across: a name of the `ts` subtree
goes to the callback without its prefix, whose error is ignored. -/
def settingsLoadEntry (live : ByteMemory) (e : Sigma fun _ : CString => List UInt8) :
    ByteMemory :=
  if e.fst.take 3 = cstr "ts/" then
    (configSettingsSet live (e.fst.drop 3) e.snd.length (.ok e.snd)).1
  else live

/-- `settings_load` over the entries it finds. -/
def settingsLoad (live : ByteMemory)
    (order : List (Sigma fun _ : CString => List UInt8)) : ByteMemory :=
  order.foldl settingsLoadEntry live

/-- `ts_config_init`, with what `settings_subsys_init` and `settings_load`
return and the entries the latter went through. -/
def tsConfigInit (s : ConfigState) (subsysRet loadRet : Int32)
    (order : List (Sigma fun _ : CString => List UInt8)) : ConfigState × Int32 :=
  if subsysRet ≠ 0 then ({ s with live := tsConfigDefaults }, subsysRet)
  else ({ s with live := settingsLoad tsConfigDefaults order }, loadRet)

/-! ## Facts about the table -/

/-- **The descriptors are those of the struct's fields**, in its order. -/
theorem map_name_configKeys : configKeys.map (fun k => k.name)
    = ConfigField.all.map ConfigField.name := rfl

/-- No two keys have one name. -/
theorem nodup_name_configKeys : (configKeys.map (fun k => k.name)).Nodup := by
  decide +kernel

/-- The native sizes are those `write_field` has a case for. -/
theorem size_mem_of_mem_configKeys {k : TsConfigKey} (hk : k ∈ configKeys) :
    k.size = 1 ∨ k.size = 2 ∨ k.size = 4 := by
  revert k
  decide

/-- Two descriptors with one name are one descriptor. -/
theorem eq_of_name_eq {k k' : TsConfigKey} (hk : k ∈ configKeys) (hk' : k' ∈ configKeys)
    (h : k.name = k'.name) : k = k' :=
  List.inj_on_of_nodup_map nodup_name_configKeys hk hk' h

/-- **No two fields share a byte.** -/
theorem disjoint_of_ne {k k' : TsConfigKey} (hk : k ∈ configKeys) (hk' : k' ∈ configKeys)
    (h : k ≠ k') : k.offset + k.size ≤ k'.offset ∨ k'.offset + k'.size ≤ k.offset := by
  have hall : ∀ a ∈ configKeys, ∀ b ∈ configKeys, a ≠ b →
      a.offset + a.size ≤ b.offset ∨ b.offset + b.size ≤ a.offset := by
    decide +kernel
  exact hall k hk k' hk' h

/-- What `find_key` returns is in the table under the name asked for. -/
theorem findKey_eq_some {name : CString} {k : TsConfigKey} :
    findKey name = some k ↔ k ∈ configKeys ∧ k.name = name := by
  unfold findKey
  constructor
  · intro h
    have hname := List.find?_some h
    exact ⟨List.mem_of_find?_eq_some h, eq_of_beq hname⟩
  · rintro ⟨hk, rfl⟩
    obtain ⟨k', hk'⟩ : ∃ k', configKeys.find? (fun e => e.name == k.name) = some k' :=
      Option.isSome_iff_exists.mp (List.find?_isSome.mpr ⟨k, hk, beq_self_eq_true _⟩)
    have hname := List.find?_some hk'
    rw [hk', eq_of_name_eq (List.mem_of_find?_eq_some hk') hk (eq_of_beq hname)]

/-- **`write_field` stores the low bytes of the value**, whichever cast the
sign of the range selects: the casts differ in the type they give the bytes
and not in the bytes. -/
theorem writeField_eq (live : ByteMemory) {k : TsConfigKey} (hk : k ∈ configKeys)
    (value : Int32) :
    writeField live k value = live.write k.offset (nativeBytes k.size value) := by
  have hi8 : value.toInt8.toUInt8.toNat = value.toUInt32.toNat % 256 ^ 1 := by
    show (value.toBitVec.signExtend 8).toNat = value.toBitVec.toNat % 256
    rw [BitVec.signExtend_eq_setWidth_of_le _ (by decide), BitVec.toNat_setWidth]
  have hi16 : value.toInt16.toUInt16.toNat = value.toUInt32.toNat % 256 ^ 2 := by
    show (value.toBitVec.signExtend 16).toNat = value.toBitVec.toNat % 65536
    rw [BitVec.signExtend_eq_setWidth_of_le _ (by decide), BitVec.toNat_setWidth]
  have hu8 : value.toUInt32.toUInt8.toNat = value.toUInt32.toNat % 256 ^ 1 :=
    UInt32.toNat_toUInt8 _
  have hu16 : value.toUInt32.toUInt16.toNat = value.toUInt32.toNat % 256 ^ 2 :=
    UInt32.toNat_toUInt16 _
  unfold writeField nativeBytes
  rcases size_mem_of_mem_configKeys hk with hs | hs | hs
  · simp only [hs, hi8, hu8, leBytes_mod, ite_self]
  · simp only [hs, hi16, hu16, leBytes_mod, ite_self]
  · simp only [hs]

/-- Numbers below the size of their type are told apart in it. -/
theorem uint8_ofNat_inj {a b : ℕ} (ha : a < 256) (hb : b < 256) :
    UInt8.ofNat a = UInt8.ofNat b ↔ a = b := by
  rw [← UInt8.toNat_inj, UInt8.toNat_ofNat_of_lt' ha, UInt8.toNat_ofNat_of_lt' hb]

theorem uint16_ofNat_inj {a b : ℕ} (ha : a < 65536) (hb : b < 65536) :
    UInt16.ofNat a = UInt16.ofNat b ↔ a = b := by
  rw [← UInt16.toNat_inj, UInt16.toNat_ofNat_of_lt' ha, UInt16.toNat_ofNat_of_lt' hb]

theorem uint32_ofNat_inj {a b : ℕ} (ha : a < 4294967296) (hb : b < 4294967296) :
    UInt32.ofNat a = UInt32.ofNat b ↔ a = b := by
  rw [← UInt32.toNat_inj, UInt32.toNat_ofNat_of_lt' ha, UInt32.toNat_ofNat_of_lt' hb]

/-- What a field holds is below the size of its type. -/
theorem rawField_lt (live : ByteMemory) (f : ConfigField) :
    rawField live f < 256 ^ f.ctype.size := by
  have hlt := ofLe_lt (live.read (offsetof f) f.ctype.size)
  rwa [length_read] at hlt

/-- The defaults are the values the struct starts with. -/
theorem read_tsConfigDefaults (f : ConfigField) :
    tsConfigDefaults.read (offsetof f) f.ctype.size = nativeBytes f.ctype.size f.default := by
  cases f <;> decide

end Terrascope
