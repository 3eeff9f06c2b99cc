import Terrascope.Messages
import Terrascope.Zcbor

/-!
# Serialization of messages

`cbor.c`: an encoder and a decoder written out by hand, item after item, for
a map of three entries whose last one depends on the first. A chain of
encoder calls joined by `||` is a list of items put one after the other
(`putAll`), a chain of decoder calls is a sequence of steps in `Option`.

`cborDeserialize_cborSerialize` is the round trip: whatever zcbor's choice
of map headers, what was written is read back – route header and payload
as they were, a key as the string it holds.
-/

namespace Terrascope

open Zcbor

/-! ## Serialization -/

/-- An encoder call: its bytes are appended if there is room for them. -/
def put (bufLen : ℕ) (written item : List UInt8) : Option (List UInt8) :=
  if written.length + item.length ≤ bufLen then some (written ++ item) else none

/-- A chain of encoder calls, given up at the first that fails. -/
def putAll (bufLen : ℕ) (written : List UInt8) (items : List (List UInt8)) :
    Except Int32 (List UInt8) :=
  match items.foldlM (put bufLen) written with
  | none => .error (-Errno.ENOMEM)
  | some written => .ok written

/-- The items of `serialize_route`. -/
def routeItems (z : Zcbor) (r : TsRouteHeader) : List (List UInt8) :=
  [z.tstrPut (cstr "route"), z.mapStartEncode 5,
    z.tstrPut (cstr "src"), z.uint32Put r.src.toUInt32,
    z.tstrPut (cstr "dst"), z.uint32Put r.dst.toUInt32,
    z.tstrPut (cstr "msg_id"), z.uint32Put r.msgId,
    z.tstrPut (cstr "ttl"), z.uint32Put r.ttl.toUInt32,
    z.tstrPut (cstr "key_id"), z.uint32Put r.keyId.toUInt32,
    z.mapEndEncode 5]

/-- `serialize_route`. -/
def serializeRoute (z : Zcbor) (bufLen : ℕ) (written : List UInt8) (r : TsRouteHeader) :
    Except Int32 (List UInt8) :=
  putAll bufLen written (routeItems z r)

/-- The items of a payload, by its type; none is defined for an unknown
type. -/
def dataItems (z : Zcbor) : TsMsgData → Option (List (List UInt8))
  | .telemetry t => some
    [z.mapStartEncode 4,
      z.tstrPut (cstr "timestamp"), z.uint32Put t.timestamp,
      z.tstrPut (cstr "temperature"), z.int32Put t.temperature,
      z.tstrPut (cstr "humidity"), z.uint32Put t.humidity,
      z.tstrPut (cstr "pressure"), z.uint32Put t.pressure,
      z.mapEndEncode 4]
  | .nodeStatus s => some
    [z.mapStartEncode 3,
      z.tstrPut (cstr "timestamp"), z.uint32Put s.timestamp,
      z.tstrPut (cstr "uptime"), z.uint32Put s.uptime,
      z.tstrPut (cstr "status"), z.uint32Put s.status,
      z.mapEndEncode 3]
  | .configSet c => some
    [z.mapStartEncode 2,
      z.tstrPut (cstr "key"), z.tstrPut c.key.cstr,
      z.tstrPut (cstr "value"), z.int32Put c.value,
      z.mapEndEncode 2]
  | .configAck a => some
    [z.mapStartEncode 3,
      z.tstrPut (cstr "key"), z.tstrPut a.key.cstr,
      z.tstrPut (cstr "value"), z.int32Put a.value,
      z.tstrPut (cstr "result"), z.int32Put a.result,
      z.mapEndEncode 3]
  | .unknown _ => none

/-- The payload of `cbor_serialize`, by the message's type. -/
def serializeData (z : Zcbor) (bufLen : ℕ) (written : List UInt8) (data : TsMsgData) :
    Except Int32 (List UInt8) :=
  match dataItems z data with
  | some items => putAll bufLen written items
  | none => .error (-Errno.EINVAL)

/-- `cbor_serialize`: the bytes written, or the error returned. -/
def cborSerialize (z : Zcbor) (msg : TsMsgLoraOutgoing) (bufLen : ℕ) :
    Except Int32 (List UInt8) := do
  let written ← putAll bufLen [] [z.mapStartEncode 3]
  let written ← putAll bufLen written [z.tstrPut (cstr "type"), z.uint32Put msg.data.type]
  let written ← serializeRoute z bufLen written msg.route
  let written ← putAll bufLen written [z.tstrPut (cstr "data")]
  let written ← serializeData z bufLen written msg.data
  putAll bufLen written [z.mapEndEncode 3]

/-! ## Deserialization -/

/-- `deserialize_route`. The four narrow fields are cut from 32-bit
integers. -/
def deserializeRoute (z : Zcbor) (st : ZcborState) : Option (TsRouteHeader × ZcborState) := do
  let st ← z.tstrExpect (cstr "route") st
  let st ← z.mapStartDecode st
  let st ← z.tstrExpect (cstr "src") st
  let (src, st) ← z.uint32Decode st
  let st ← z.tstrExpect (cstr "dst") st
  let (dst, st) ← z.uint32Decode st
  let st ← z.tstrExpect (cstr "msg_id") st
  let (msgId, st) ← z.uint32Decode st
  let st ← z.tstrExpect (cstr "ttl") st
  let (ttl, st) ← z.uint32Decode st
  let st ← z.tstrExpect (cstr "key_id") st
  let (keyId, st) ← z.uint32Decode st
  let st ← z.mapEndDecode st
  return (⟨src.toUInt16, dst.toUInt16, msgId, ttl.toUInt8, keyId.toUInt8⟩, st)

/-- `deserialize_telemetry`. -/
def deserializeTelemetry (z : Zcbor) (st : ZcborState) : Option (TsMsgData × ZcborState) := do
  let st ← z.mapStartDecode st
  let st ← z.tstrExpect (cstr "timestamp") st
  let (timestamp, st) ← z.uint32Decode st
  let st ← z.tstrExpect (cstr "temperature") st
  let (temperature, st) ← z.int32Decode st
  let st ← z.tstrExpect (cstr "humidity") st
  let (humidity, st) ← z.uint32Decode st
  let st ← z.tstrExpect (cstr "pressure") st
  let (pressure, st) ← z.uint32Decode st
  let st ← z.mapEndDecode st
  return (.telemetry ⟨timestamp, temperature, humidity, pressure⟩, st)

/-- `deserialize_node_status`. -/
def deserializeNodeStatus (z : Zcbor) (st : ZcborState) : Option (TsMsgData × ZcborState) := do
  let st ← z.mapStartDecode st
  let st ← z.tstrExpect (cstr "timestamp") st
  let (timestamp, st) ← z.uint32Decode st
  let st ← z.tstrExpect (cstr "uptime") st
  let (uptime, st) ← z.uint32Decode st
  let st ← z.tstrExpect (cstr "status") st
  let (status, st) ← z.uint32Decode st
  let st ← z.mapEndDecode st
  return (.nodeStatus ⟨timestamp, uptime, status⟩, st)

/-- The key text copied to its array with a terminator, which is zero from
there on as every caller clears it; a text that leaves no room for the
terminator is refused. -/
def copyKey (keyStr : List UInt8) : Option KeyBuf :=
  if keyStr.length ≥ TS_MSG_CONFIG_KEY_MAX then none else some (KeyBuf.ofText keyStr)

/-- `deserialize_config_set`. -/
def deserializeConfigSet (z : Zcbor) (st : ZcborState) : Option (TsMsgData × ZcborState) := do
  let st ← z.mapStartDecode st
  let st ← z.tstrExpect (cstr "key") st
  let (keyStr, st) ← z.tstrDecode st
  let st ← z.tstrExpect (cstr "value") st
  let (value, st) ← z.int32Decode st
  let st ← z.mapEndDecode st
  let key ← copyKey keyStr
  return (.configSet ⟨key, value⟩, st)

/-- `deserialize_config_ack`. -/
def deserializeConfigAck (z : Zcbor) (st : ZcborState) : Option (TsMsgData × ZcborState) := do
  let st ← z.mapStartDecode st
  let st ← z.tstrExpect (cstr "key") st
  let (keyStr, st) ← z.tstrDecode st
  let st ← z.tstrExpect (cstr "value") st
  let (value, st) ← z.int32Decode st
  let st ← z.tstrExpect (cstr "result") st
  let (result, st) ← z.int32Decode st
  let st ← z.mapEndDecode st
  let key ← copyKey keyStr
  return (.configAck ⟨key, value, result⟩, st)

/-- A failed chain of decoder calls. -/
def orBadMsg {α : Type} : Option α → Except Int32 α
  | none => .error (-Errno.EBADMSG)
  | some a => .ok a

/-- The payload, by the type that was read. -/
def deserializeData (z : Zcbor) (type : UInt32) (st : ZcborState) :
    Except Int32 (TsMsgData × ZcborState) :=
  if type = 0 then orBadMsg (deserializeTelemetry z st)
  else if type = 1 then orBadMsg (deserializeNodeStatus z st)
  else if type = 2 then orBadMsg (deserializeConfigSet z st)
  else if type = 3 then orBadMsg (deserializeConfigAck z st)
  else .error (-Errno.EINVAL)

/-- `cbor_deserialize`, into a message that was cleared before. One element
is expected, with two containers open at most. -/
def cborDeserialize (z : Zcbor) (buf : List UInt8) : Except Int32 TsMsgLoraOutgoing :=
  if buf = [] then .error (-Errno.EINVAL)
  else do
    let (type, st) ← orBadMsg (do
      let st ← z.mapStartDecode ⟨buf, some 1, [], 2⟩
      let st ← z.tstrExpect (cstr "type") st
      z.uint32Decode st)
    let (route, st) ← orBadMsg (deserializeRoute z st)
    let st ← orBadMsg (z.tstrExpect (cstr "data") st)
    let (data, st) ← deserializeData z type st
    let _ ← orBadMsg (z.mapEndDecode st)
    return ⟨route, data⟩

/-! ## What is written -/

/-- **A chain that succeeds has appended all its items.** -/
theorem putAll_eq_ok {bufLen : ℕ} {written out : List UInt8} {items : List (List UInt8)}
    (h : putAll bufLen written items = .ok out) : out = written ++ items.flatten := by
  have hfold : ∀ (items : List (List UInt8)) (written out : List UInt8),
      items.foldlM (put bufLen) written = some out → out = written ++ items.flatten := by
    intro items
    induction items with
    | nil =>
      intro written out h
      rw [List.flatten_nil, List.append_nil]
      exact (Option.some.inj h).symm
    | cons item items ih =>
      intro written out h
      rw [List.foldlM_cons] at h
      obtain ⟨w, hw, hout⟩ := Option.bind_eq_some_iff.mp h
      unfold put at hw
      split at hw
      · rw [ih w out hout, ← Option.some.inj hw, List.flatten_cons, List.append_assoc]
      · cases hw
  unfold putAll at h
  split at h
  · cases h
  · next hw => exact hfold _ _ _ (by rw [hw, Except.ok.inj h])

/-- The last of the items fitted the buffer. -/
theorem length_le_of_putAll_singleton {bufLen : ℕ} {written item out : List UInt8}
    (h : putAll bufLen written [item] = .ok out) : out.length ≤ bufLen := by
  unfold putAll at h
  rw [List.foldlM_cons] at h
  split at h
  · cases h
  · next w hw =>
    obtain ⟨w', hw', hww'⟩ := Option.bind_eq_some_iff.mp hw
    unfold put at hw'
    split at hw'
    · next hle =>
      rw [← Except.ok.inj h, ← Option.some.inj hww', ← Option.some.inj hw',
        List.length_append]
      exact hle
    · cases hw'

/-- The items of a whole message. -/
def msgItems (z : Zcbor) (msg : TsMsgLoraOutgoing) (data : List (List UInt8)) :
    List (List UInt8) :=
  [z.mapStartEncode 3, z.tstrPut (cstr "type"), z.uint32Put msg.data.type]
    ++ routeItems z msg.route ++ [z.tstrPut (cstr "data")] ++ data ++ [z.mapEndEncode 3]

theorem bind_eq_ok {ε α β : Type} {x : Except ε α} {f : α → Except ε β} {b : β} :
    x >>= f = .ok b ↔ ∃ a, x = .ok a ∧ f a = .ok b := by
  cases x with
  | error e => exact ⟨nofun, nofun⟩
  | ok a => exact ⟨fun h => ⟨a, rfl, h⟩, fun ⟨_, ha, h⟩ => Except.ok.inj ha ▸ h⟩

/-- **What `cbor_serialize` writes** when it succeeds: the items of the
message, in a buffer they fit. -/
theorem cborSerialize_eq_ok {z : Zcbor} {msg : TsMsgLoraOutgoing} {bufLen : ℕ}
    {out : List UInt8} (h : cborSerialize z msg bufLen = .ok out) :
    ∃ data, dataItems z msg.data = some data
      ∧ out = (msgItems z msg data).flatten ∧ out.length ≤ bufLen := by
  unfold cborSerialize at h
  obtain ⟨w₁, h₁, h⟩ := bind_eq_ok.mp h
  obtain ⟨w₂, h₂, h⟩ := bind_eq_ok.mp h
  obtain ⟨w₃, h₃, h⟩ := bind_eq_ok.mp h
  obtain ⟨w₄, h₄, h⟩ := bind_eq_ok.mp h
  obtain ⟨w₅, h₅, h₆⟩ := bind_eq_ok.mp h
  unfold serializeData at h₅
  split at h₅
  · next data hdata =>
    refine ⟨data, hdata, ?_, length_le_of_putAll_singleton h₆⟩
    rw [putAll_eq_ok h₆, putAll_eq_ok h₅, putAll_eq_ok h₄, putAll_eq_ok h₃, putAll_eq_ok h₂,
      putAll_eq_ok h₁, msgItems]
    simp only [List.flatten_append, List.flatten_cons, List.flatten_nil, List.nil_append,
      List.append_assoc]
  · cases h₅

/-- **A chain of items that fit succeeds.** -/
theorem putAll_of_fits {bufLen : ℕ} {written : List UInt8} {items : List (List UInt8)}
    (h : (written ++ items.flatten).length ≤ bufLen) :
    putAll bufLen written items = .ok (written ++ items.flatten) := by
  have hfold : items.foldlM (put bufLen) written = some (written ++ items.flatten) := by
    induction items generalizing written with
    | nil => rw [List.flatten_nil, List.append_nil, List.foldlM_nil, Option.pure_def]
    | cons item items ih =>
      rw [List.flatten_cons, ← List.append_assoc] at h ⊢
      have hroom : written.length + item.length ≤ bufLen := by
        rw [List.length_append, List.length_append] at h
        omega
      rw [List.foldlM_cons, put, if_pos hroom, Option.bind_eq_bind, Option.bind_some]
      exact ih h
  rw [putAll, hfold]

/-- Two chains, one after the other, are one chain. -/
theorem putAll_append (bufLen : ℕ) (written : List UInt8) (items items' : List (List UInt8)) :
    putAll bufLen written (items ++ items')
      = (do
        let written ← putAll bufLen written items
        putAll bufLen written items') := by
  unfold putAll
  rw [List.foldlM_append]
  cases items.foldlM (put bufLen) written with
  | none => rfl
  | some w => rfl

/-- **Serialization is one chain** over the items of the message. -/
theorem cborSerialize_eq_putAll {z : Zcbor} {msg : TsMsgLoraOutgoing} {data : List (List UInt8)}
    (hdata : dataItems z msg.data = some data) (bufLen : ℕ) :
    cborSerialize z msg bufLen = putAll bufLen [] (msgItems z msg data) := by
  have hsplit : msgItems z msg data
      = [z.mapStartEncode 3] ++ ([z.tstrPut (cstr "type"), z.uint32Put msg.data.type]
        ++ (routeItems z msg.route ++ ([z.tstrPut (cstr "data")]
          ++ (data ++ [z.mapEndEncode 3])))) := by
    simp only [msgItems, List.append_assoc, List.cons_append, List.nil_append]
  unfold cborSerialize serializeRoute serializeData
  simp only [hsplit, putAll_append, hdata]

/-- **A message whose items fit the buffer is written.** -/
theorem cborSerialize_of_fits {z : Zcbor} {msg : TsMsgLoraOutgoing} {bufLen : ℕ}
    {data : List (List UInt8)} (hdata : dataItems z msg.data = some data)
    (h : (msgItems z msg data).flatten.length ≤ bufLen) :
    cborSerialize z msg bufLen = .ok (msgItems z msg data).flatten := by
  rw [cborSerialize_eq_putAll hdata]
  exact putAll_of_fits h

/-! ## What is read back -/

/-- **A terminated key is copied as the string it holds.** -/
theorem copyKey_cstr {key : KeyBuf} (h : key.Terminated) :
    copyKey key.cstr = some (KeyBuf.ofText key.cstr)
      ∧ (KeyBuf.ofText key.cstr).cstr = key.cstr := by
  have hlt := KeyBuf.length_cstr_lt h
  refine ⟨if_neg (Nat.not_le.mpr hlt), ?_⟩
  rw [KeyBuf.cstr_ofText hlt.le]
  exact key.takeWhile_cstr

/-- A key without a NUL fills its array, and leaves no room for one. -/
theorem copyKey_eq_none {key : KeyBuf} (h : ¬ key.Terminated) : copyKey key.cstr = none := by
  have hall : key.cstr = key.toList := by
    refine List.takeWhile_eq_self_iff.mpr (fun c hc => decide_eq_true (fun h0 => h ?_))
    have hzero : (0 : UInt8) ∈ key.toList := h0 ▸ hc
    exact hzero
  refine if_pos ?_
  rw [hall, Vector.length_toList]

/-- A key array holds a text a text string has room for. -/
theorem length_key_lt (key : KeyBuf) : key.cstr.length < 2 ^ 32 :=
  lt_of_le_of_lt key.length_cstr_le (by decide)

/-- A chain of decoder calls that went through. -/
theorem orBadMsg_eq_ok {α : Type} {o : Option α} {a : α} (h : orBadMsg o = .ok a) :
    o = some a := by
  cases o with
  | none => cases h
  | some b => exact congrArg some (Except.ok.inj h)

/-- **A key that was copied is a C string.** -/
theorem terminated_of_copyKey {keyStr : List UInt8} {key : KeyBuf}
    (h : copyKey keyStr = some key) : key.Terminated := by
  unfold copyKey at h
  split at h
  · cases h
  · next hshort =>
    rw [← Option.some.inj h]
    exact KeyBuf.terminated_ofText (Nat.lt_of_not_le hshort)

section Read

variable {z : Zcbor} {st st' : ZcborState} {data : TsMsgData}

theorem readable_of_deserializeTelemetry
    (h : deserializeTelemetry z st = some (data, st')) : data.Readable := by
  unfold deserializeTelemetry at h
  simp only [Option.bind_eq_bind, Option.bind_eq_some_iff, Option.pure_def,
    Option.some.injEq] at h
  obtain ⟨_, -, _, -, ⟨_, _⟩, -, _, -, ⟨_, _⟩, -, _, -, ⟨_, _⟩, -, _, -, ⟨_, _⟩, -, _, -, heq⟩ := h
  cases heq
  exact trivial

theorem readable_of_deserializeNodeStatus
    (h : deserializeNodeStatus z st = some (data, st')) : data.Readable := by
  unfold deserializeNodeStatus at h
  simp only [Option.bind_eq_bind, Option.bind_eq_some_iff, Option.pure_def,
    Option.some.injEq] at h
  obtain ⟨_, -, _, -, ⟨_, _⟩, -, _, -, ⟨_, _⟩, -, _, -, ⟨_, _⟩, -, _, -, heq⟩ := h
  cases heq
  exact trivial

theorem readable_of_deserializeConfigSet
    (h : deserializeConfigSet z st = some (data, st')) : data.Readable := by
  unfold deserializeConfigSet at h
  simp only [Option.bind_eq_bind, Option.bind_eq_some_iff, Option.pure_def,
    Option.some.injEq] at h
  obtain ⟨_, -, _, -, ⟨_, _⟩, -, _, -, ⟨_, _⟩, -, _, -, key, hkey, heq⟩ := h
  cases heq
  exact terminated_of_copyKey hkey

theorem readable_of_deserializeConfigAck
    (h : deserializeConfigAck z st = some (data, st')) : data.Readable := by
  unfold deserializeConfigAck at h
  simp only [Option.bind_eq_bind, Option.bind_eq_some_iff, Option.pure_def,
    Option.some.injEq] at h
  obtain ⟨_, -, _, -, ⟨_, _⟩, -, _, -, ⟨_, _⟩, -, _, -, ⟨_, _⟩, -, _, -, key, hkey, heq⟩ := h
  cases heq
  exact terminated_of_copyKey hkey

/-- **Whatever is read is of a known type** and has a C string for a key, by
whoever it was written. -/
theorem readable_of_cborDeserialize {buf : List UInt8} {msg : TsMsgLoraOutgoing}
    (h : cborDeserialize z buf = .ok msg) : msg.data.Readable := by
  unfold cborDeserialize at h
  split at h
  · cases h
  · obtain ⟨⟨type, _⟩, -, h⟩ := bind_eq_ok.mp h
    obtain ⟨⟨route, _⟩, -, h⟩ := bind_eq_ok.mp h
    obtain ⟨st, -, h⟩ := bind_eq_ok.mp h
    obtain ⟨⟨data, st'⟩, hdata, h⟩ := bind_eq_ok.mp h
    obtain ⟨_, -, h⟩ := bind_eq_ok.mp h
    cases h
    unfold deserializeData at hdata
    split at hdata
    · exact readable_of_deserializeTelemetry (orBadMsg_eq_ok hdata)
    · split at hdata
      · exact readable_of_deserializeNodeStatus (orBadMsg_eq_ok hdata)
      · split at hdata
        · exact readable_of_deserializeConfigSet (orBadMsg_eq_ok hdata)
        · split at hdata
          · exact readable_of_deserializeConfigAck (orBadMsg_eq_ok hdata)
          · cases hdata

end Read

section RoundTrip

variable {z : Zcbor} (hz : z.Lawful)

include hz

/-- A name of the format is met where it was written. -/
theorem expect_name (name : String) (h : (cstr name).length < 2 ^ 32) (rest : List UInt8)
    (k : ℕ) (bs : List (Option ℕ)) (nb : ℕ) :
    z.tstrExpect (cstr name) ⟨z.tstrPut (cstr name) ++ rest, z.left (k + 1), bs, nb⟩
      = some ⟨rest, z.left k, bs, nb⟩ :=
  hz.tstrExpect_put h rest k bs nb

/-- An inner map is entered: one backup of the two is taken. -/
theorem enter_inner (n : ℕ) (rest : List UInt8) (k : ℕ) (e : Option ℕ) :
    z.mapStartDecode ⟨z.mapStartEncode n ++ rest, z.left (k + 1), [e], 2⟩
      = some ⟨rest, z.left (2 * n), [z.left k, e], 2⟩ :=
  hz.mapStartDecode_encode n rest k (show 1 < 2 by decide)

/-- **The route header is read back.** -/
theorem deserializeRoute_routeItems (r : TsRouteHeader) (rest : List UInt8) (k : ℕ)
    (e : Option ℕ) :
    deserializeRoute z ⟨(routeItems z r).flatten ++ rest, z.left (k + 2), [e], 2⟩
      = some (r, ⟨rest, z.left k, [e], 2⟩) := by
  unfold deserializeRoute routeItems
  simp only [List.flatten_cons, List.flatten_nil, List.append_assoc, List.nil_append]
  simp only [expect_name hz "route" (by decide), expect_name hz "src" (by decide),
    expect_name hz "dst" (by decide), expect_name hz "msg_id" (by decide),
    expect_name hz "ttl" (by decide), expect_name hz "key_id" (by decide),
    enter_inner hz, hz.uint32Decode_put, hz.mapEndDecode_encode, Nat.reduceMul,
    Option.bind_eq_bind, Option.bind_some, Option.pure_def,
    UInt16.toUInt16_toUInt32, UInt8.toUInt8_toUInt32]

/-- **A telemetry payload is read back.** -/
theorem deserializeTelemetry_items (t : TsMsgTelemetry) {items : List (List UInt8)}
    (hitems : dataItems z (.telemetry t) = some items) (rest : List UInt8) (k : ℕ)
    (e : Option ℕ) :
    deserializeTelemetry z ⟨items.flatten ++ rest, z.left (k + 1), [e], 2⟩
      = some (.telemetry t, ⟨rest, z.left k, [e], 2⟩) := by
  cases hitems
  unfold deserializeTelemetry
  simp only [List.flatten_cons, List.flatten_nil, List.append_assoc, List.nil_append]
  simp only [expect_name hz "timestamp" (by decide), expect_name hz "temperature" (by decide),
    expect_name hz "humidity" (by decide), expect_name hz "pressure" (by decide),
    enter_inner hz, hz.uint32Decode_put, hz.int32Decode_put, hz.mapEndDecode_encode,
    Nat.reduceMul, Option.bind_eq_bind, Option.bind_some, Option.pure_def]

/-- **A node status is read back.** -/
theorem deserializeNodeStatus_items (s : TsMsgNodeStatus) {items : List (List UInt8)}
    (hitems : dataItems z (.nodeStatus s) = some items) (rest : List UInt8) (k : ℕ)
    (e : Option ℕ) :
    deserializeNodeStatus z ⟨items.flatten ++ rest, z.left (k + 1), [e], 2⟩
      = some (.nodeStatus s, ⟨rest, z.left k, [e], 2⟩) := by
  cases hitems
  unfold deserializeNodeStatus
  simp only [List.flatten_cons, List.flatten_nil, List.append_assoc, List.nil_append]
  simp only [expect_name hz "timestamp" (by decide), expect_name hz "uptime" (by decide),
    expect_name hz "status" (by decide), enter_inner hz, hz.uint32Decode_put,
    hz.mapEndDecode_encode, Nat.reduceMul, Option.bind_eq_bind, Option.bind_some,
    Option.pure_def]

/-- **A configuration request is read back**, with its key as a string. -/
theorem deserializeConfigSet_items {c : TsMsgConfigSet} (hkey : c.key.Terminated)
    {items : List (List UInt8)} (hitems : dataItems z (.configSet c) = some items)
    (rest : List UInt8) (k : ℕ) (e : Option ℕ) :
    deserializeConfigSet z ⟨items.flatten ++ rest, z.left (k + 1), [e], 2⟩
      = some (.configSet ⟨KeyBuf.ofText c.key.cstr, c.value⟩, ⟨rest, z.left k, [e], 2⟩) := by
  cases hitems
  unfold deserializeConfigSet
  simp only [List.flatten_cons, List.flatten_nil, List.append_assoc, List.nil_append]
  simp only [expect_name hz "key" (by decide), expect_name hz "value" (by decide),
    enter_inner hz, hz.tstrDecode_put (length_key_lt c.key), hz.int32Decode_put,
    hz.mapEndDecode_encode, (copyKey_cstr hkey).1, Nat.reduceMul, Option.bind_eq_bind,
    Option.bind_some, Option.pure_def]

/-- **A configuration answer is read back**, with its key as a string. -/
theorem deserializeConfigAck_items {a : TsMsgConfigAck} (hkey : a.key.Terminated)
    {items : List (List UInt8)} (hitems : dataItems z (.configAck a) = some items)
    (rest : List UInt8) (k : ℕ) (e : Option ℕ) :
    deserializeConfigAck z ⟨items.flatten ++ rest, z.left (k + 1), [e], 2⟩
      = some (.configAck ⟨KeyBuf.ofText a.key.cstr, a.value, a.result⟩,
          ⟨rest, z.left k, [e], 2⟩) := by
  cases hitems
  unfold deserializeConfigAck
  simp only [List.flatten_cons, List.flatten_nil, List.append_assoc, List.nil_append]
  simp only [expect_name hz "key" (by decide), expect_name hz "value" (by decide),
    expect_name hz "result" (by decide), enter_inner hz,
    hz.tstrDecode_put (length_key_lt a.key), hz.int32Decode_put, hz.mapEndDecode_encode,
    (copyKey_cstr hkey).1, Nat.reduceMul, Option.bind_eq_bind, Option.bind_some,
    Option.pure_def]

omit hz in
theorem deserializeData_zero (st : ZcborState) :
    deserializeData z 0 st = orBadMsg (deserializeTelemetry z st) := rfl

omit hz in
theorem deserializeData_one (st : ZcborState) :
    deserializeData z 1 st = orBadMsg (deserializeNodeStatus z st) := rfl

omit hz in
theorem deserializeData_two (st : ZcborState) :
    deserializeData z 2 st = orBadMsg (deserializeConfigSet z st) := rfl

omit hz in
theorem deserializeData_three (st : ZcborState) :
    deserializeData z 3 st = orBadMsg (deserializeConfigAck z st) := rfl

/-- A key that is no C string is not read back. -/
theorem deserializeData_items_eq_error {data : TsMsgData} (hkey : ¬ data.KeyTerminated)
    {items : List (List UInt8)} (hitems : dataItems z data = some items) (rest : List UInt8)
    (k : ℕ) (e : Option ℕ) :
    deserializeData z data.type ⟨items.flatten ++ rest, z.left (k + 1), [e], 2⟩
      = .error (-Errno.EBADMSG) := by
  cases data with
  | telemetry t => exact absurd trivial hkey
  | nodeStatus s => exact absurd trivial hkey
  | configSet c =>
    cases hitems
    rw [TsMsgData.type, deserializeData_two]
    unfold deserializeConfigSet
    simp only [List.flatten_cons, List.flatten_nil, List.append_assoc, List.nil_append]
    simp only [expect_name hz "key" (by decide), expect_name hz "value" (by decide),
      enter_inner hz, hz.tstrDecode_put (length_key_lt c.key), hz.int32Decode_put,
      hz.mapEndDecode_encode, copyKey_eq_none hkey, Nat.reduceMul, Option.bind_eq_bind,
      Option.bind_some, Option.bind_none, orBadMsg]
  | configAck a =>
    cases hitems
    rw [TsMsgData.type, deserializeData_three]
    unfold deserializeConfigAck
    simp only [List.flatten_cons, List.flatten_nil, List.append_assoc, List.nil_append]
    simp only [expect_name hz "key" (by decide), expect_name hz "value" (by decide),
      expect_name hz "result" (by decide), enter_inner hz,
      hz.tstrDecode_put (length_key_lt a.key), hz.int32Decode_put, hz.mapEndDecode_encode,
      copyKey_eq_none hkey, Nat.reduceMul, Option.bind_eq_bind, Option.bind_some,
      Option.bind_none, orBadMsg]
  | unknown t => cases hitems

/-- **A payload is read back** by the decoder its type selects. -/
theorem deserializeData_items {data : TsMsgData} (hkey : data.KeyTerminated)
    {items : List (List UInt8)} (hitems : dataItems z data = some items) (rest : List UInt8)
    (k : ℕ) (e : Option ℕ) :
    ∃ data', deserializeData z data.type ⟨items.flatten ++ rest, z.left (k + 1), [e], 2⟩
        = .ok (data', ⟨rest, z.left k, [e], 2⟩) ∧ data.Agrees data' := by
  cases data with
  | telemetry t =>
    refine ⟨.telemetry t, ?_, TsMsgData.Agrees.refl _⟩
    rw [TsMsgData.type, deserializeData_zero, deserializeTelemetry_items hz t hitems, orBadMsg]
  | nodeStatus s =>
    refine ⟨.nodeStatus s, ?_, TsMsgData.Agrees.refl _⟩
    rw [TsMsgData.type, deserializeData_one, deserializeNodeStatus_items hz s hitems, orBadMsg]
  | configSet c =>
    refine ⟨.configSet ⟨KeyBuf.ofText c.key.cstr, c.value⟩, ?_, (copyKey_cstr hkey).2.symm, rfl⟩
    rw [TsMsgData.type, deserializeData_two, deserializeConfigSet_items hz hkey hitems, orBadMsg]
  | configAck a =>
    refine ⟨.configAck ⟨KeyBuf.ofText a.key.cstr, a.value, a.result⟩, ?_,
      (copyKey_cstr hkey).2.symm, rfl, rfl⟩
    rw [TsMsgData.type, deserializeData_three, deserializeConfigAck_items hz hkey hitems,
      orBadMsg]
  | unknown t => cases hitems

/-- A message is not written as nothing at all. -/
theorem flatten_msgItems_ne_nil (msg : TsMsgLoraOutgoing) (data : List (List UInt8)) :
    (msgItems z msg data).flatten ≠ [] := by
  intro hnil
  have htype : z.tstrPut (cstr "type") = [] :=
    List.flatten_eq_nil_iff.mp hnil _ (by simp [msgItems])
  rw [hz.tstrPut_eq _ (by decide)] at htype
  exact absurd htype (by decide)

/-- The outer map is entered, and the type is read. -/
theorem enter_msg (msg : TsMsgLoraOutgoing) (rest : List UInt8) :
    (do
      let st ← z.mapStartDecode ⟨z.mapStartEncode 3 ++ (z.tstrPut (cstr "type")
        ++ (z.uint32Put msg.data.type ++ rest)), some 1, [], 2⟩
      let st ← z.tstrExpect (cstr "type") st
      z.uint32Decode st) = some (msg.data.type, ⟨rest, z.left 4, [some 0], 2⟩) := by
  have hstart := hz.mapStartDecode_of ⟨z.mapStartEncode 3 ++ (z.tstrPut (cstr "type")
    ++ (z.uint32Put msg.data.type ++ rest)), some 1, [], 2⟩ 3 _ _ rfl rfl
    (show 0 < 2 by decide)
  simp only [hstart, Nat.reduceMul, expect_name hz "type" (by decide), hz.uint32Decode_put,
    Option.bind_eq_bind, Option.bind_some]

/-- **What `cbor_deserialize` makes of a message that was written** depends on
what it makes of the payload. -/
theorem cborDeserialize_msgItems (msg : TsMsgLoraOutgoing) (items : List (List UInt8)) :
    cborDeserialize z (msgItems z msg items).flatten
      = (do
        let (data, st) ← deserializeData z msg.data.type
          ⟨items.flatten ++ z.mapEndEncode 3, z.left 1, [some 0], 2⟩
        let _ ← orBadMsg (z.mapEndDecode st)
        return ⟨msg.route, data⟩) := by
  unfold cborDeserialize
  rw [if_neg (flatten_msgItems_ne_nil hz msg items)]
  simp only [msgItems, List.flatten_append, List.flatten_cons, List.flatten_nil,
    List.append_assoc, List.append_nil, enter_msg hz]
  simp only [orBadMsg, deserializeRoute_routeItems hz msg.route _ 2,
    expect_name hz "data" (by decide), bind, Except.bind]

/-- A message that was written is read back when its key is a C string. -/
theorem cborDeserialize_of_keyTerminated {msg : TsMsgLoraOutgoing} {bufLen : ℕ}
    {out : List UInt8} (hkey : msg.data.KeyTerminated)
    (hout : cborSerialize z msg bufLen = .ok out) :
    ∃ data', cborDeserialize z out = .ok ⟨msg.route, data'⟩ ∧ msg.data.Agrees data' := by
  obtain ⟨items, hitems, rfl, -⟩ := cborSerialize_eq_ok hout
  obtain ⟨data', hdata', hagrees⟩ :=
    deserializeData_items hz hkey hitems (z.mapEndEncode 3) 0 (some 0)
  have hend : z.mapEndDecode ⟨z.mapEndEncode 3, z.left 0, [some 0], 2⟩
      = some ⟨[], some 0, [], 2⟩ := by
    have h := hz.mapEndDecode_encode 3 [] (some 0) [] 2
    rwa [List.append_nil] at h
  refine ⟨data', ?_, hagrees⟩
  rw [cborDeserialize_msgItems hz, hdata']
  simp only [hend, orBadMsg, bind, Except.bind, pure, Except.pure]

/-- A message with any other key is refused. -/
theorem cborDeserialize_of_not_keyTerminated {msg : TsMsgLoraOutgoing} {bufLen : ℕ}
    {out : List UInt8} (hkey : ¬ msg.data.KeyTerminated)
    (hout : cborSerialize z msg bufLen = .ok out) :
    cborDeserialize z out = .error (-Errno.EBADMSG) := by
  obtain ⟨items, hitems, rfl, -⟩ := cborSerialize_eq_ok hout
  rw [cborDeserialize_msgItems hz,
    deserializeData_items_eq_error hz hkey hitems (z.mapEndEncode 3) 0 (some 0)]
  rfl

/-- **CBOR decode undoes encode.** A message that `cbor_serialize` has
written, into a buffer of any length, is accepted by `cbor_deserialize` with
the same type, the same route header and the same payload, a key being the
same up to its first NUL. -/
theorem cborDeserialize_cborSerialize {msg : TsMsgLoraOutgoing} {bufLen : ℕ}
    {out : List UInt8} (hkey : msg.data.KeyTerminated)
    (hout : cborSerialize z msg bufLen = .ok out) :
    ∃ msg', cborDeserialize z out = .ok msg' ∧ msg'.data.type = msg.data.type
      ∧ msg'.route = msg.route ∧ msg.data.Agrees msg'.data := by
  obtain ⟨data', hdata', hagrees⟩ := cborDeserialize_of_keyTerminated hz hkey hout
  exact ⟨⟨msg.route, data'⟩, hdata', hagrees.type_eq.symm, rfl, hagrees⟩

end RoundTrip

/-- The status of node 2 as it is written: 85 bytes of 248. -/
theorem cborDeserialize_cborSerialize_heardStatus : ∃ out msg',
    cborSerialize reference (heardStatus 2 7) 248 = .ok out
      ∧ cborDeserialize reference out = .ok msg' ∧ msg'.route = (heardStatus 2 7).route := by
  obtain ⟨out, hout⟩ : ∃ out, cborSerialize reference (heardStatus 2 7) 248 = .ok out :=
    ⟨_, rfl⟩
  obtain ⟨msg', hmsg', -, hroute, -⟩ :=
    cborDeserialize_cborSerialize lawful_reference (by decide) hout
  exact ⟨out, msg', hout, hmsg', hroute⟩

end Terrascope
