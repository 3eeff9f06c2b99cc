import Terrascope.Cbor
import Terrascope.ZcborReading

/-!
# The messages a receiver accepts

`cbor_deserialize` read backwards: the byte strings it accepts and what
they say. A message on the wire is a data item (`WireMsg.item`) whose
integers all have 32 bits and whose key is a text; the struct of the program
is what the decoder makes of it (`WireMsg.decoded`).

`exists_atFront_of_cborDeserialize` is the fact everything here rests on: an
accepted byte string starts with the encoding of a message, and the result
is that message decoded. An encoding says itself where it ends
(`Encodes.prefix_free`), so there is one such message only.
-/

namespace Terrascope

open Zcbor CborItem

/-! ## Messages on the wire -/

/-- The route map. -/
@[ext]
structure WireRoute where
  src : UInt32
  dst : UInt32
  msgId : UInt32
  ttl : UInt32
  keyId : UInt32

/-- The payload map, in one of four shapes. -/
inductive WireData where
  | telemetry (t : TsMsgTelemetry)
  | nodeStatus (timestamp uptime status : UInt32)
  | configSet (key : List UInt8) (value : Int32)
  | configAck (key : List UInt8) (value result : Int32)

/-- **A message on the wire.** -/
@[ext]
structure WireMsg where
  route : WireRoute
  data : WireData

/-- An entry of a map, under a name of the format. -/
def field (name : String) (value : CborItem) : CborItem × CborItem := (.tstr (cstr name), value)

/-- The value of the entry `type`. -/
def WireData.type : WireData → UInt32
  | .telemetry _ => 0
  | .nodeStatus _ _ _ => 1
  | .configSet _ _ => 2
  | .configAck _ _ _ => 3

def WireRoute.item (r : WireRoute) : CborItem :=
  .map [field "src" (.int r.src.toNat), field "dst" (.int r.dst.toNat),
    field "msg_id" (.int r.msgId.toNat), field "ttl" (.int r.ttl.toNat),
    field "key_id" (.int r.keyId.toNat)]

def WireData.item : WireData → CborItem
  | .telemetry t =>
    .map [field "timestamp" (.int t.timestamp.toNat),
      field "temperature" (.int t.temperature.toInt), field "humidity" (.int t.humidity.toNat),
      field "pressure" (.int t.pressure.toNat)]
  | .nodeStatus timestamp uptime status =>
    .map [field "timestamp" (.int timestamp.toNat), field "uptime" (.int uptime.toNat),
      field "status" (.int status.toNat)]
  | .configSet key value =>
    .map [field "key" (.tstr key), field "value" (.int value.toInt)]
  | .configAck key value result =>
    .map [field "key" (.tstr key), field "value" (.int value.toInt),
      field "result" (.int result.toInt)]

/-- **The item a message is**: a map of three entries. -/
def WireMsg.item (w : WireMsg) : CborItem :=
  .map [field "type" (.int w.data.type.toNat), field "route" w.route.item,
    field "data" w.data.item]

/-! ## What the decoder makes of them -/

def WireRoute.decoded (r : WireRoute) : TsRouteHeader :=
  ⟨r.src.toUInt16, r.dst.toUInt16, r.msgId, r.ttl.toUInt8, r.keyId.toUInt8⟩

def WireData.decoded : WireData → TsMsgData
  | .telemetry t => .telemetry t
  | .nodeStatus timestamp uptime status => .nodeStatus ⟨timestamp, uptime, status⟩
  | .configSet key value => .configSet ⟨KeyBuf.ofText key, value⟩
  | .configAck key value result => .configAck ⟨KeyBuf.ofText key, value, result⟩

/-- **The struct of a message**, with four fields cut to their widths. -/
def WireMsg.decoded (w : WireMsg) : TsMsgLoraOutgoing := ⟨w.route.decoded, w.data.decoded⟩

/-- The array of the struct has room for the key and its NUL. -/
def WireData.KeyFits : WireData → Prop
  | .configSet key _ => key.length < TS_MSG_CONFIG_KEY_MAX
  | .configAck key _ _ => key.length < TS_MSG_CONFIG_KEY_MAX
  | _ => True

/-- A message is encoded at the front of the bytes. -/
def WireMsg.AtFront (w : WireMsg) (b : List UInt8) : Prop :=
  ∃ bs rest, b = bs ++ rest ∧ Encodes w.item bs

/-! ## Reading backwards -/

/-- A key that was copied is the text that was read. -/
theorem eq_ofText_of_copyKey {keyStr : List UInt8} {key : KeyBuf}
    (h : copyKey keyStr = some key) :
    keyStr.length < TS_MSG_CONFIG_KEY_MAX ∧ key = KeyBuf.ofText keyStr := by
  unfold copyKey at h
  split at h
  · cases h
  · next hlt => exact ⟨Nat.not_le.mp hlt, (Option.some.inj h).symm⟩

/-- **A payload was read**: one element, of the shape the type selects. -/
def PayloadRead (st : ZcborState) (type : UInt32) (data : TsMsgData) (st' : ZcborState) : Prop :=
  ∃ w : WireData, w.type = type ∧ data = w.decoded ∧ w.KeyFits
    ∧ ∃ bs, Encodes w.item bs ∧ st.Read bs 1 st'

section Reading

variable {z : Zcbor} (hz : z.Sound) {st st' : ZcborState}

include hz

/-- **The route header was read** from the entry `route`. -/
theorem readEntries_of_deserializeRoute {r : TsRouteHeader}
    (h : deserializeRoute z st = some (r, st')) :
    ∃ w : WireRoute, st.ReadEntries [field "route" w.item] st' ∧ r = w.decoded := by
  unfold deserializeRoute at h
  simp only [Option.bind_eq_bind, Option.bind_eq_some_iff, Option.pure_def,
    Option.some.injEq] at h
  obtain ⟨_, hroute, _, hstart, _, hsrc, ⟨src, _⟩, hsrc', _, hdst, ⟨dst, _⟩, hdst', _, hmsg,
    ⟨msgId, _⟩, hmsg', _, httl, ⟨ttl, _⟩, httl', _, hkey, ⟨keyId, _⟩, hkey', _, hend, heq⟩ := h
  cases heq
  have hentries := (hz.uintEntry hsrc hsrc').append ((hz.uintEntry hdst hdst').append
    ((hz.uintEntry hmsg hmsg').append ((hz.uintEntry httl httl').append
      (hz.uintEntry hkey hkey'))))
  obtain ⟨bs, henc, hread⟩ := hz.map hstart hentries hend
  exact ⟨⟨src, dst, msgId, ttl, keyId⟩, hz.entry hroute henc hread, rfl⟩

variable {data : TsMsgData}

theorem payloadRead_of_deserializeTelemetry (h : deserializeTelemetry z st = some (data, st')) :
    PayloadRead st 0 data st' := by
  unfold deserializeTelemetry at h
  simp only [Option.bind_eq_bind, Option.bind_eq_some_iff, Option.pure_def,
    Option.some.injEq] at h
  obtain ⟨_, hstart, _, hts, ⟨ts, _⟩, hts', _, htemp, ⟨temp, _⟩, htemp', _, hhum, ⟨hum, _⟩,
    hhum', _, hpress, ⟨press, _⟩, hpress', _, hend, heq⟩ := h
  cases heq
  have hentries := (hz.uintEntry hts hts').append ((hz.intEntry htemp htemp').append
    ((hz.uintEntry hhum hhum').append (hz.uintEntry hpress hpress')))
  exact ⟨.telemetry ⟨ts, temp, hum, press⟩, rfl, rfl, trivial, hz.map hstart hentries hend⟩

theorem payloadRead_of_deserializeNodeStatus (h : deserializeNodeStatus z st = some (data, st')) :
    PayloadRead st 1 data st' := by
  unfold deserializeNodeStatus at h
  simp only [Option.bind_eq_bind, Option.bind_eq_some_iff, Option.pure_def,
    Option.some.injEq] at h
  obtain ⟨_, hstart, _, hts, ⟨ts, _⟩, hts', _, hup, ⟨up, _⟩, hup', _, hstatus, ⟨status, _⟩,
    hstatus', _, hend, heq⟩ := h
  cases heq
  have hentries := (hz.uintEntry hts hts').append ((hz.uintEntry hup hup').append
    (hz.uintEntry hstatus hstatus'))
  exact ⟨.nodeStatus ts up status, rfl, rfl, trivial, hz.map hstart hentries hend⟩

theorem payloadRead_of_deserializeConfigSet (h : deserializeConfigSet z st = some (data, st')) :
    PayloadRead st 2 data st' := by
  unfold deserializeConfigSet at h
  simp only [Option.bind_eq_bind, Option.bind_eq_some_iff, Option.pure_def,
    Option.some.injEq] at h
  obtain ⟨_, hstart, _, hkey, ⟨keyStr, _⟩, hkey', _, hvalue, ⟨value, _⟩, hvalue', _, hend, _,
    hcopy, heq⟩ := h
  cases heq
  obtain ⟨hfits, rfl⟩ := eq_ofText_of_copyKey hcopy
  have hentries := (hz.tstrEntry hkey hkey').append (hz.intEntry hvalue hvalue')
  exact ⟨.configSet keyStr value, rfl, rfl, hfits, hz.map hstart hentries hend⟩

theorem payloadRead_of_deserializeConfigAck (h : deserializeConfigAck z st = some (data, st')) :
    PayloadRead st 3 data st' := by
  unfold deserializeConfigAck at h
  simp only [Option.bind_eq_bind, Option.bind_eq_some_iff, Option.pure_def,
    Option.some.injEq] at h
  obtain ⟨_, hstart, _, hkey, ⟨keyStr, _⟩, hkey', _, hvalue, ⟨value, _⟩, hvalue', _, hresult,
    ⟨result, _⟩, hresult', _, hend, _, hcopy, heq⟩ := h
  cases heq
  obtain ⟨hfits, rfl⟩ := eq_ofText_of_copyKey hcopy
  have hentries := (hz.tstrEntry hkey hkey').append ((hz.intEntry hvalue hvalue').append
    (hz.intEntry hresult hresult'))
  exact ⟨.configAck keyStr value result, rfl, rfl, hfits, hz.map hstart hentries hend⟩

/-- **The payload was read** as the type says, or not at all. -/
theorem payloadRead_of_deserializeData {type : UInt32}
    (h : deserializeData z type st = .ok (data, st')) : PayloadRead st type data st' := by
  unfold deserializeData at h
  split at h
  · next htype =>
    rw [htype]
    exact payloadRead_of_deserializeTelemetry hz (orBadMsg_eq_ok h)
  · split at h
    · next htype =>
      rw [htype]
      exact payloadRead_of_deserializeNodeStatus hz (orBadMsg_eq_ok h)
    · split at h
      · next htype =>
        rw [htype]
        exact payloadRead_of_deserializeConfigSet hz (orBadMsg_eq_ok h)
      · split at h
        · next htype =>
          rw [htype]
          exact payloadRead_of_deserializeConfigAck hz (orBadMsg_eq_ok h)
        · cases h

/-- **An accepted byte string starts with a message**, and the result is that
message decoded. -/
theorem exists_atFront_of_cborDeserialize {b : List UInt8} {msg : TsMsgLoraOutgoing}
    (h : cborDeserialize z b = .ok msg) :
    ∃ w : WireMsg, w.AtFront b ∧ w.data.KeyFits ∧ msg = w.decoded := by
  unfold cborDeserialize at h
  split at h
  · cases h
  · obtain ⟨⟨type, st₁⟩, htype, h⟩ := bind_eq_ok.mp h
    obtain ⟨⟨route, st₂⟩, hroute, h⟩ := bind_eq_ok.mp h
    obtain ⟨st₃, hdata, h⟩ := bind_eq_ok.mp h
    obtain ⟨⟨data, st₄⟩, hpayload, h⟩ := bind_eq_ok.mp h
    obtain ⟨st₅, hend, h⟩ := bind_eq_ok.mp h
    cases h
    have htype := orBadMsg_eq_ok htype
    simp only [Option.bind_eq_bind, Option.bind_eq_some_iff] at htype
    obtain ⟨_, hstart, _, hname, htype⟩ := htype
    obtain ⟨wr, hread, rfl⟩ := readEntries_of_deserializeRoute hz (orBadMsg_eq_ok hroute)
    obtain ⟨wd, rfl, rfl, hfits, bs, henc, hbody⟩ := payloadRead_of_deserializeData hz hpayload
    have hentries := (hz.uintEntry hname htype).append
      (hread.append (hz.entry (orBadMsg_eq_ok hdata) henc hbody))
    obtain ⟨bs, henc, hread⟩ := hz.map hstart hentries (orBadMsg_eq_ok hend)
    exact ⟨⟨wr, wd⟩, ⟨bs, _, hread.payload, henc⟩, hfits, rfl⟩

end Reading

/-! ## One message only -/

theorem int_toNat_inj {v v' : UInt32} (h : CborItem.int v.toNat = .int v'.toNat) : v = v' :=
  UInt32.toNat_inj.mp (Int.ofNat_inj.mp (CborItem.int.inj h))

theorem WireRoute.item_injective : Function.Injective WireRoute.item := by
  intro r r' h
  simp only [WireRoute.item, field, CborItem.map.injEq, List.cons.injEq, Prod.mk.injEq,
    true_and, and_true] at h
  obtain ⟨hsrc, hdst, hmsg, httl, hkey⟩ := h
  exact WireRoute.ext (int_toNat_inj hsrc) (int_toNat_inj hdst) (int_toNat_inj hmsg)
    (int_toNat_inj httl) (int_toNat_inj hkey)

theorem WireData.eq_of_item {d d' : WireData} (htype : d.type = d'.type)
    (h : d.item = d'.item) : d = d' := by
  -- payloads of two types cannot meet, and those of one type have the same fields
  cases d <;> cases d' <;> try cases htype
  all_goals
    simp only [WireData.item, field, CborItem.map.injEq, List.cons.injEq, Prod.mk.injEq,
      true_and, and_true, CborItem.int.injEq, CborItem.tstr.injEq, Int.ofNat_inj,
      Int32.toInt_inj, UInt32.toNat_inj] at h
  case telemetry.telemetry t t' =>
    obtain ⟨hts, htemp, hhum, hpress⟩ := h
    cases t
    cases t'
    cases hts
    cases htemp
    cases hhum
    cases hpress
    rfl
  case nodeStatus.nodeStatus =>
    obtain ⟨rfl, rfl, rfl⟩ := h
    rfl
  case configSet.configSet =>
    obtain ⟨rfl, rfl⟩ := h
    rfl
  case configAck.configAck =>
    obtain ⟨rfl, rfl, rfl⟩ := h
    rfl

theorem WireMsg.item_injective : Function.Injective WireMsg.item := by
  intro w w' h
  simp only [WireMsg.item, field, CborItem.map.injEq, List.cons.injEq, Prod.mk.injEq,
    true_and, and_true] at h
  obtain ⟨htype, hroute, hdata⟩ := h
  exact WireMsg.ext (WireRoute.item_injective hroute)
    (WireData.eq_of_item (int_toNat_inj htype) hdata)

/-- **Two messages at the front of one byte string** are one message. -/
theorem WireMsg.AtFront.unique {w w' : WireMsg} {b : List UInt8} (h : w.AtFront b)
    (h' : w'.AtFront b) : w = w' := by
  obtain ⟨bs, rest, rfl, henc⟩ := h
  obtain ⟨bs', rest', heq, henc'⟩ := h'
  exact WireMsg.item_injective (henc.prefix_free henc' heq).1

/-! ## Messages as they are written -/

/-- An entry with an unsigned value, as the encoder writes it. -/
def putUint (z : Zcbor) (name : String) (v : UInt32) : List UInt8 :=
  z.tstrPut (cstr name) ++ z.uint32Put v

/-- An entry with a signed value. -/
def putInt (z : Zcbor) (name : String) (v : Int32) : List UInt8 :=
  z.tstrPut (cstr name) ++ z.int32Put v

/-- An entry with a text. -/
def putTstr (z : Zcbor) (name : String) (s : List UInt8) : List UInt8 :=
  z.tstrPut (cstr name) ++ z.tstrPut s

/-- A map of `n` entries. -/
def putMap (z : Zcbor) (n : ℕ) (entries : List UInt8) : List UInt8 :=
  z.mapStartEncode n ++ (entries ++ z.mapEndEncode n)

def WireRoute.written (z : Zcbor) (r : WireRoute) : List UInt8 :=
  putMap z 5 (putUint z "src" r.src ++ (putUint z "dst" r.dst ++ (putUint z "msg_id" r.msgId
    ++ (putUint z "ttl" r.ttl ++ putUint z "key_id" r.keyId))))

def WireData.written (z : Zcbor) : WireData → List UInt8
  | .telemetry t =>
    putMap z 4 (putUint z "timestamp" t.timestamp ++ (putInt z "temperature" t.temperature
      ++ (putUint z "humidity" t.humidity ++ putUint z "pressure" t.pressure)))
  | .nodeStatus timestamp uptime status =>
    putMap z 3 (putUint z "timestamp" timestamp ++ (putUint z "uptime" uptime
      ++ putUint z "status" status))
  | .configSet key value => putMap z 2 (putTstr z "key" key ++ putInt z "value" value)
  | .configAck key value result =>
    putMap z 3 (putTstr z "key" key ++ (putInt z "value" value ++ putInt z "result" result))

/-- **A message as the encoder calls write it.** -/
def WireMsg.written (z : Zcbor) (w : WireMsg) : List UInt8 :=
  putMap z 3 (putUint z "type" w.data.type ++ ((z.tstrPut (cstr "route") ++ w.route.written z)
    ++ (z.tstrPut (cstr "data") ++ w.data.written z)))

/-- A text string has room for the key. -/
def WireData.KeyWritable : WireData → Prop
  | .configSet key _ => key.length < 2 ^ 32
  | .configAck key _ _ => key.length < 2 ^ 32
  | _ => True

section Writing

variable {z : Zcbor} (hz : z.Lawful)

include hz

theorem encodes_tstrPut {s : List UInt8} (hs : s.length < 2 ^ 32) :
    Encodes (.tstr s) (z.tstrPut s) := by
  rw [hz.tstrPut_eq s hs]
  exact encodes_tstrItem hs

theorem encodesAll_putUint (name : String) (hname : (cstr name).length < 2 ^ 32) (v : UInt32) :
    EncodesAll [field name (.int v.toNat)] (putUint z name v) := by
  refine (encodes_tstrPut hz hname).entry ?_
  rw [hz.uint32Put_eq]
  exact encodes_uintItem v.toNat_lt

theorem encodesAll_putInt (name : String) (hname : (cstr name).length < 2 ^ 32) (v : Int32) :
    EncodesAll [field name (.int v.toInt)] (putInt z name v) := by
  refine (encodes_tstrPut hz hname).entry ?_
  rw [hz.int32Put_eq]
  exact encodes_intItem v

theorem encodesAll_putTstr (name : String) (hname : (cstr name).length < 2 ^ 32)
    {s : List UInt8} (hs : s.length < 2 ^ 32) :
    EncodesAll [field name (.tstr s)] (putTstr z name s) :=
  (encodes_tstrPut hz hname).entry (encodes_tstrPut hz hs)

variable (hf : z.Frames)

include hf

omit hz in
/-- A small map. -/
theorem encodes_putMap {n : ℕ} (hn : n < 24) {entries : List (CborItem × CborItem)}
    {bs : List UInt8} (hlen : entries.length = n) (hall : EncodesAll entries bs) :
    Encodes (.map entries) (putMap z n bs) := by
  subst hlen
  exact .map (hf _ hn) hall

theorem encodes_routeWritten (r : WireRoute) : Encodes r.item (r.written z) :=
  encodes_putMap hf (by decide) rfl ((encodesAll_putUint hz "src" (by decide) r.src).append
    ((encodesAll_putUint hz "dst" (by decide) r.dst).append
      ((encodesAll_putUint hz "msg_id" (by decide) r.msgId).append
        ((encodesAll_putUint hz "ttl" (by decide) r.ttl).append
          (encodesAll_putUint hz "key_id" (by decide) r.keyId)))))

theorem encodes_dataWritten {d : WireData} (hkey : d.KeyWritable) :
    Encodes d.item (d.written z) := by
  cases d with
  | telemetry t =>
    exact encodes_putMap hf (by decide) rfl
      ((encodesAll_putUint hz "timestamp" (by decide) t.timestamp).append
        ((encodesAll_putInt hz "temperature" (by decide) t.temperature).append
          ((encodesAll_putUint hz "humidity" (by decide) t.humidity).append
            (encodesAll_putUint hz "pressure" (by decide) t.pressure))))
  | nodeStatus timestamp uptime status =>
    exact encodes_putMap hf (by decide) rfl
      ((encodesAll_putUint hz "timestamp" (by decide) timestamp).append
        ((encodesAll_putUint hz "uptime" (by decide) uptime).append
          (encodesAll_putUint hz "status" (by decide) status)))
  | configSet key value =>
    exact encodes_putMap hf (by decide) rfl ((encodesAll_putTstr hz "key" (by decide) hkey).append
      (encodesAll_putInt hz "value" (by decide) value))
  | configAck key value result =>
    exact encodes_putMap hf (by decide) rfl ((encodesAll_putTstr hz "key" (by decide) hkey).append
      ((encodesAll_putInt hz "value" (by decide) value).append
        (encodesAll_putInt hz "result" (by decide) result)))

/-- **What is written for a message encodes it.** -/
theorem encodes_written {w : WireMsg} (hkey : w.data.KeyWritable) :
    Encodes w.item (w.written z) :=
  encodes_putMap hf (by decide) rfl ((encodesAll_putUint hz "type" (by decide) w.data.type).append
    (((encodes_tstrPut hz (by decide)).entry (encodes_routeWritten hz hf w.route)).append
      ((encodes_tstrPut hz (by decide)).entry (encodes_dataWritten hz hf hkey))))

end Writing

/-! ## What the serializer writes -/

/-- The route header with its fields widened. -/
def TsRouteHeader.wire (r : TsRouteHeader) : WireRoute :=
  ⟨r.src.toUInt32, r.dst.toUInt32, r.msgId, r.ttl.toUInt32, r.keyId.toUInt32⟩

/-- The payload the type names, a key being the string in its array. -/
def TsMsgData.wire : TsMsgData → Option WireData
  | .telemetry t => some (.telemetry t)
  | .nodeStatus s => some (.nodeStatus s.timestamp s.uptime s.status)
  | .configSet c => some (.configSet c.key.cstr c.value)
  | .configAck a => some (.configAck a.key.cstr a.value a.result)
  | .unknown _ => none

theorem flatten_routeItems (z : Zcbor) (r : TsRouteHeader) :
    (routeItems z r).flatten = z.tstrPut (cstr "route") ++ r.wire.written z := by
  simp only [routeItems, TsRouteHeader.wire, WireRoute.written, putMap, putUint,
    List.flatten_cons, List.flatten_nil, List.append_nil, List.append_assoc]

/-- **The items of a payload** are the payload as it is written. -/
theorem exists_wire_of_dataItems {z : Zcbor} {data : TsMsgData} {items : List (List UInt8)}
    (h : dataItems z data = some items) :
    ∃ d : WireData, data.wire = some d ∧ d.type = data.type ∧ d.KeyWritable
      ∧ items.flatten = d.written z := by
  cases data with
  | telemetry t =>
    cases h
    refine ⟨_, rfl, rfl, trivial, ?_⟩
    simp only [WireData.written, putMap, putUint, putInt, List.flatten_cons, List.flatten_nil,
      List.append_nil, List.append_assoc]
  | nodeStatus s =>
    cases h
    refine ⟨_, rfl, rfl, trivial, ?_⟩
    simp only [WireData.written, putMap, putUint, List.flatten_cons, List.flatten_nil,
      List.append_nil, List.append_assoc]
  | configSet c =>
    cases h
    refine ⟨_, rfl, rfl, length_key_lt c.key, ?_⟩
    simp only [WireData.written, putMap, putTstr, putInt, List.flatten_cons, List.flatten_nil,
      List.append_nil, List.append_assoc]
  | configAck a =>
    cases h
    refine ⟨_, rfl, rfl, length_key_lt a.key, ?_⟩
    simp only [WireData.written, putMap, putTstr, putInt, List.flatten_cons, List.flatten_nil,
      List.append_nil, List.append_assoc]
  | unknown t => cases h

/-- **What `cbor_serialize` writes** is one message and nothing else. -/
theorem exists_written_of_cborSerialize {z : Zcbor} {msg : TsMsgLoraOutgoing} {bufLen : ℕ}
    {out : List UInt8} (h : cborSerialize z msg bufLen = .ok out) :
    ∃ d : WireData, msg.data.wire = some d ∧ d.KeyWritable
      ∧ out = (WireMsg.mk msg.route.wire d).written z := by
  obtain ⟨items, hitems, rfl, -⟩ := cborSerialize_eq_ok h
  obtain ⟨d, hd, htype, hkey, hwritten⟩ := exists_wire_of_dataItems hitems
  refine ⟨d, hd, hkey, ?_⟩
  simp only [msgItems, List.flatten_append, flatten_routeItems, hwritten, WireMsg.written, htype,
    putMap, putUint, List.flatten_cons, List.flatten_nil, List.append_nil, List.append_assoc]

/-! ## Truncation -/

/-- The codes `cbor_deserialize` may return for a byte string it refuses. -/
def IsRefusal (e : Int32) : Prop := e = -Errno.EINVAL ∨ e = -Errno.EBADMSG

theorem IsRefusal.ne_zero {e : Int32} (h : IsRefusal e) : e ≠ 0 := by
  rcases h with rfl | rfl <;> decide

theorem isRefusal_of_orBadMsg {α : Type} {o : Option α} {e : Int32}
    (h : orBadMsg o = .error e) : IsRefusal e := by
  cases o with
  | none => exact Or.inr (Except.error.inj h).symm
  | some a => cases h

/-- A sequence fails with what one of its parts fails with. -/
theorem isRefusal_bind {α β : Type} {x : Except Int32 α} {f : α → Except Int32 β} {e : Int32}
    (hx : ∀ e, x = .error e → IsRefusal e) (hf : ∀ a e, f a = .error e → IsRefusal e)
    (h : x >>= f = .error e) : IsRefusal e := by
  cases x with
  | error e' => exact hx e (congrArg Except.error (Except.error.inj h))
  | ok a => exact hf a e h

theorem isRefusal_of_deserializeData {z : Zcbor} {type : UInt32} {st : ZcborState} {e : Int32}
    (h : deserializeData z type st = .error e) : IsRefusal e := by
  unfold deserializeData at h
  split at h
  · exact isRefusal_of_orBadMsg h
  · split at h
    · exact isRefusal_of_orBadMsg h
    · split at h
      · exact isRefusal_of_orBadMsg h
      · split at h
        · exact isRefusal_of_orBadMsg h
        · exact Or.inl (Except.error.inj h).symm

/-- **A byte string is refused with one of two codes.** -/
theorem isRefusal_of_cborDeserialize {z : Zcbor} {b : List UInt8} {e : Int32}
    (h : cborDeserialize z b = .error e) : IsRefusal e := by
  unfold cborDeserialize at h
  split at h
  · exact Or.inl (Except.error.inj h).symm
  · refine isRefusal_bind (fun _ => isRefusal_of_orBadMsg) (fun _ _ h => ?_) h
    refine isRefusal_bind (fun _ => isRefusal_of_orBadMsg) (fun _ _ h => ?_) h
    refine isRefusal_bind (fun _ => isRefusal_of_orBadMsg) (fun _ _ h => ?_) h
    refine isRefusal_bind (fun _ => isRefusal_of_deserializeData) (fun _ _ h => ?_) h
    exact isRefusal_bind (fun _ => isRefusal_of_orBadMsg) (fun _ _ h => by cases h) h

/-- **Every truncation is rejected.** No proper prefix of a message that
`cbor_serialize` has written is accepted. -/
theorem cborDeserialize_take_eq_error {z : Zcbor} (hz : z.Lawful) (hs : z.Sound) (hf : z.Frames)
    {msg : TsMsgLoraOutgoing} {bufLen : ℕ} {out : List UInt8}
    (hout : cborSerialize z msg bufLen = .ok out) {k : ℕ} (hk : k < out.length) :
    ∃ e, cborDeserialize z (out.take k) = .error e ∧ e ≠ 0 := by
  obtain ⟨d, -, hkey, rfl⟩ := exists_written_of_cborSerialize hout
  cases hdec : cborDeserialize z (((WireMsg.mk msg.route.wire d).written z).take k) with
  | error e => exact ⟨e, rfl, (isRefusal_of_cborDeserialize hdec).ne_zero⟩
  | ok msg' =>
    -- what was accepted would be an encoding that ends before the one it is a prefix of
    obtain ⟨w, ⟨bs, rest, hfront, henc⟩, -, -⟩ := exists_atFront_of_cborDeserialize hs hdec
    have hwhole : Encodes (WireMsg.mk msg.route.wire d).item _ := encodes_written hz hf hkey
    have hsplit := List.take_append_drop k ((WireMsg.mk msg.route.wire d).written z)
    rw [hfront, List.append_assoc] at hsplit
    obtain ⟨-, heq, -⟩ := henc.prefix_free hwhole (hsplit.trans (List.append_nil _).symm)
    have hlen := congrArg List.length hfront
    rw [List.length_take, List.length_append, heq] at hlen
    omega

/-- The status of node 2, cut short anywhere. -/
theorem cborDeserialize_take_heardStatus : ∃ out,
    cborSerialize reference (heardStatus 2 7) 248 = .ok out ∧ 84 < out.length
      ∧ ∃ e, cborDeserialize reference (out.take 84) = .error e ∧ e ≠ 0 := by
  obtain ⟨out, hout⟩ : ∃ out, cborSerialize reference (heardStatus 2 7) 248 = .ok out :=
    ⟨_, rfl⟩
  have hlen : 84 < out.length := by
    cases hout
    decide +kernel
  exact ⟨out, hout, hlen,
    cborDeserialize_take_eq_error lawful_reference sound_reference frames_reference hout hlen⟩

/-! ## Narrowing -/

/-- **The struct says what the wire says**: its fields, widened, are the
integers on the wire, and its key, read as a C string, is the text. -/
structure WireMsg.SaidBy (w : WireMsg) (msg : TsMsgLoraOutgoing) : Prop where
  route : msg.route.wire = w.route
  data : msg.data.wire = some w.data

/-- A node status is one that `ts_status_t` declares, `OK` or `ERROR`. -/
def TsMsgData.StatusDeclared : TsMsgData → Prop
  | .nodeStatus s => s.status = 0 ∨ s.status = 1
  | _ => True

def WireRoute.narrowed (r : WireRoute) : WireRoute :=
  ⟨r.src % 65536, r.dst % 65536, r.msgId, r.ttl % 256, r.keyId % 256⟩

def WireData.narrowed : WireData → WireData
  | .configSet key value => .configSet (key.takeWhile (fun c => c ≠ 0)) value
  | .configAck key value result => .configAck (key.takeWhile (fun c => c ≠ 0)) value result
  | d => d

/-- **What is left of a message** in the fields of the struct: the ids
modulo `2 ^ 16`, `ttl` and `key_id` modulo `2 ^ 8`, and the key up to its
first NUL. -/
def WireMsg.narrowed (w : WireMsg) : WireMsg := ⟨w.route.narrowed, w.data.narrowed⟩

/-- Each integer fits its field. -/
structure WireRoute.Fits (r : WireRoute) : Prop where
  src : r.src.toNat < 2 ^ 16
  dst : r.dst.toNat < 2 ^ 16
  ttl : r.ttl.toNat < 2 ^ 8
  keyId : r.keyId.toNat < 2 ^ 8

/-- A key has no NUL in it. -/
def WireData.Fits : WireData → Prop
  | .configSet key _ => 0 ∉ key
  | .configAck key _ _ => 0 ∉ key
  | _ => True

/-- **The struct has room for the message.** -/
def WireMsg.Fits (w : WireMsg) : Prop := w.route.Fits ∧ w.data.Fits

theorem WireRoute.wire_decoded (r : WireRoute) : r.decoded.wire = r.narrowed := rfl

theorem WireData.wire_decoded {d : WireData} (h : d.KeyFits) :
    d.decoded.wire = some d.narrowed := by
  cases d with
  | telemetry t => rfl
  | nodeStatus timestamp uptime status => rfl
  | configSet key value =>
    rw [decoded, TsMsgData.wire, KeyBuf.cstr_ofText (le_of_lt h), narrowed]
  | configAck key value result =>
    rw [decoded, TsMsgData.wire, KeyBuf.cstr_ofText (le_of_lt h), narrowed]

/-- An integer is unchanged by the cut when it is small. -/
theorem mod_eq_self_iff {v m : UInt32} (hm : 0 < m.toNat) : v % m = v ↔ v.toNat < m.toNat := by
  rw [← UInt32.toNat_inj, UInt32.toNat_mod, Nat.mod_eq_iff_lt hm.ne']

theorem WireRoute.narrowed_eq_self_iff (r : WireRoute) : r.narrowed = r ↔ r.Fits := by
  constructor
  · intro h
    obtain ⟨hsrc, hdst, -, httl, hkey⟩ := WireRoute.ext_iff.mp h
    exact ⟨(mod_eq_self_iff (by decide)).mp hsrc, (mod_eq_self_iff (by decide)).mp hdst,
      (mod_eq_self_iff (by decide)).mp httl, (mod_eq_self_iff (by decide)).mp hkey⟩
  · intro h
    exact WireRoute.ext ((mod_eq_self_iff (by decide)).mpr h.src)
      ((mod_eq_self_iff (by decide)).mpr h.dst) rfl
      ((mod_eq_self_iff (by decide)).mpr h.ttl) ((mod_eq_self_iff (by decide)).mpr h.keyId)

/-- A text is unchanged by the cut when it has no NUL. -/
theorem takeWhile_eq_self_iff_not_mem (s : List UInt8) :
    s.takeWhile (fun c => c ≠ 0) = s ↔ 0 ∉ s := by
  rw [List.takeWhile_eq_self_iff]
  constructor
  · intro h hzero
    exact of_decide_eq_true (h 0 hzero) rfl
  · intro h c hc
    exact decide_eq_true (fun h0 => h (h0 ▸ hc))

theorem WireData.narrowed_eq_self_iff (d : WireData) : d.narrowed = d ↔ d.Fits := by
  cases d with
  | telemetry t => exact iff_of_true rfl trivial
  | nodeStatus timestamp uptime status => exact iff_of_true rfl trivial
  | configSet key value =>
    rw [narrowed, WireData.configSet.injEq, and_iff_left rfl]
    exact takeWhile_eq_self_iff_not_mem key
  | configAck key value result =>
    rw [narrowed, WireData.configAck.injEq, and_iff_left ⟨rfl, rfl⟩]
    exact takeWhile_eq_self_iff_not_mem key

/-- **A decoded message says what is left of it.** -/
theorem WireMsg.narrowed_saidBy {w : WireMsg} (h : w.data.KeyFits) : w.narrowed.SaidBy w.decoded :=
  ⟨w.route.wire_decoded, WireData.wire_decoded h⟩

/-- A struct says one message only. -/
theorem WireMsg.SaidBy.unique {w w' : WireMsg} {msg : TsMsgLoraOutgoing} (h : w.SaidBy msg)
    (h' : w'.SaidBy msg) : w = w' :=
  WireMsg.ext (h.route.symm.trans h'.route)
    (Option.some.inj (h.data.symm.trans h'.data))

/-- Nothing is lost of a message that fits. -/
theorem WireMsg.narrowed_eq_self_iff (w : WireMsg) : w.narrowed = w ↔ w.Fits := by
  unfold WireMsg.Fits
  rw [← WireRoute.narrowed_eq_self_iff, ← WireData.narrowed_eq_self_iff]
  exact WireMsg.ext_iff

/-- **What the decoder keeps.** An accepted byte string starts with one
message. The decoded one is that message with the ids cut to 16 bits, `ttl`
and `key_id` to 8 bits and the key at its first NUL – every other field,
also a status that is not declared, is the one on the wire – so it says
exactly what the wire says when all of them fit. -/
theorem saidBy_of_cborDeserialize {z : Zcbor} (hz : z.Sound) {b : List UInt8}
    {msg : TsMsgLoraOutgoing} (h : cborDeserialize z b = .ok msg) :
    ∃ w : WireMsg, w.AtFront b ∧ (∀ w' : WireMsg, w'.AtFront b → w' = w)
      ∧ w.narrowed.SaidBy msg ∧ (w.SaidBy msg ↔ w.Fits) := by
  obtain ⟨w, hfront, hkey, rfl⟩ := exists_atFront_of_cborDeserialize hz h
  have hsaid := WireMsg.narrowed_saidBy hkey
  refine ⟨w, hfront, fun w' hfront' => hfront'.unique hfront, hsaid, ?_⟩
  rw [← WireMsg.narrowed_eq_self_iff]
  constructor
  · intro h'
    exact hsaid.unique h'
  · intro heq
    rwa [heq] at hsaid

/-- A status whose source does not fit: `65537` is `1` in 16 bits. -/
def wideStatus : WireMsg := ⟨⟨65537, 0xFFFF, 7, 4, 0⟩, .nodeStatus 60 60 0⟩

/-- The status from `65537` is taken for one of node 1. -/
theorem cborDeserialize_wideStatus :
    ∃ w : WireMsg, w.AtFront (wideStatus.written reference)
      ∧ w.narrowed.SaidBy (heardStatus 1 7) := by
  have hdec : cborDeserialize reference (wideStatus.written reference) = .ok (heardStatus 1 7) := by
    decide +kernel
  obtain ⟨w, hfront, -, hsaid, -⟩ := saidBy_of_cborDeserialize sound_reference hdec
  exact ⟨w, hfront, hsaid⟩

/-- A status that is neither `OK` nor `ERROR`. -/
def undeclaredStatus : WireMsg := ⟨⟨1, 0xFFFF, 7, 4, 0⟩, .nodeStatus 60 60 9⟩

/-- A request whose key goes on after a NUL. -/
def nulKey : WireMsg := ⟨⟨1, 2, 7, 4, 1⟩, .configSet (cstr "routing_ttl" ++ [0, 33]) 3⟩

/-- What is promised of a byte string if nothing is narrowed. -/
def NothingNarrowed (b : List UInt8) : Prop :=
  ∀ msg, cborDeserialize reference b = .ok msg →
    (∃ w : WireMsg, w.AtFront b ∧ w.SaidBy msg) ∧ msg.data.StatusDeclared

/-- A message that is written is the one at the front. -/
theorem WireMsg.AtFront.eq_of_written {w w' : WireMsg} (hkey : w.data.KeyWritable)
    (h : w'.AtFront (w.written reference)) : w' = w :=
  h.unique ⟨_, [], (List.append_nil _).symm,
    encodes_written lawful_reference frames_reference hkey⟩

/-- **Narrowing is silent**: the source of an accepted message is not the
integer on the wire, its status is none of those declared, or its key is not
the text. -/
theorem not_nothingNarrowed : ¬ NothingNarrowed (wideStatus.written reference)
    ∧ ¬ NothingNarrowed (undeclaredStatus.written reference)
    ∧ ¬ NothingNarrowed (nulKey.written reference) := by
  refine ⟨fun h => ?_, fun h => ?_, fun h => ?_⟩
  · have hdec : cborDeserialize reference (wideStatus.written reference)
        = .ok wideStatus.decoded := by decide +kernel
    obtain ⟨⟨w, hfront, hsaid⟩, -⟩ := h _ hdec
    obtain rfl : w = wideStatus := hfront.eq_of_written trivial
    exact absurd (congrArg WireRoute.src hsaid.route) (by decide)
  · have hdec : cborDeserialize reference (undeclaredStatus.written reference)
        = .ok undeclaredStatus.decoded := by decide +kernel
    obtain ⟨-, hdeclared⟩ := h _ hdec
    rcases hdeclared with hok | herror
    · exact absurd hok (by decide)
    · exact absurd herror (by decide)
  · have hdec : cborDeserialize reference (nulKey.written reference) = .ok nulKey.decoded := by
      decide +kernel
    obtain ⟨⟨w, hfront, hsaid⟩, -⟩ := h _ hdec
    have hlen : (cstr "routing_ttl" ++ [0, 33]).length < 2 ^ 32 := by decide
    obtain rfl : w = nulKey := hfront.eq_of_written hlen
    obtain ⟨hkey, -⟩ := WireData.configSet.inj (Option.some.inj hsaid.data)
    exact absurd hkey (by decide +kernel)

/-! ## Whole messages -/

/-- **All of the bytes are one message**, the decoded one. -/
def WholeMessage (b : List UInt8) (msg : TsMsgLoraOutgoing) : Prop :=
  ∃ w : WireMsg, Encodes w.item b ∧ msg = w.decoded

/-- Nothing comes after the first item of the bytes. -/
def NothingFollows (b : List UInt8) : Prop :=
  ∀ item bs rest, b = bs ++ rest → Encodes item bs → rest = []

/-- **Whole messages only, if nothing follows.** An accepted byte string is
one message exactly when it goes on no further than its first item; with
anything appended it does. -/
theorem wholeMessage_iff_nothingFollows {z : Zcbor} (hz : z.Sound) {b : List UInt8}
    {msg : TsMsgLoraOutgoing} (h : cborDeserialize z b = .ok msg) :
    (WholeMessage b msg ↔ NothingFollows b) ∧ ∀ q, q ≠ [] → ¬ NothingFollows (b ++ q) := by
  obtain ⟨w, ⟨bs, rest, rfl, henc⟩, -, rfl⟩ := exists_atFront_of_cborDeserialize hz h
  refine ⟨⟨?_, fun hlast => ?_⟩, fun q hq hlast => hq ?_⟩
  · rintro ⟨w', hwhole, -⟩ item bs' rest' heq henc'
    exact ((hwhole.prefix_free henc' (List.append_nil _ |>.trans heq)).2.2).symm
  · obtain rfl := hlast _ _ _ rfl henc
    refine ⟨w, ?_, rfl⟩
    rwa [List.append_nil]
  · have hrest := hlast _ _ _ (List.append_assoc bs rest q) henc
    exact (List.append_eq_nil_iff.mp hrest).2

/-- The status of node 2 as it is written: whole, because nothing follows. -/
theorem wholeMessage_heardStatus : ∃ out, cborSerialize reference (heardStatus 2 7) 248 = .ok out
    ∧ cborDeserialize reference out = .ok (heardStatus 2 7)
    ∧ (WholeMessage out (heardStatus 2 7) ↔ NothingFollows out) := by
  obtain ⟨out, hout⟩ : ∃ out, cborSerialize reference (heardStatus 2 7) 248 = .ok out :=
    ⟨_, rfl⟩
  have hdec : cborDeserialize reference out = .ok (heardStatus 2 7) := by
    cases hout
    decide +kernel
  exact ⟨out, hout, hdec, (wholeMessage_iff_nothingFollows sound_reference hdec).1⟩

/-- **A byte too many goes unnoticed.** The status of node 2 with a zero
behind it is accepted like the status itself, and it is not one message. -/
theorem not_wholeMessage_trailing : ∃ out,
    cborSerialize reference (heardStatus 2 7) 248 = .ok out
      ∧ cborDeserialize reference out = .ok (heardStatus 2 7)
      ∧ cborDeserialize reference (out ++ [0]) = .ok (heardStatus 2 7)
      ∧ ¬ WholeMessage (out ++ [0]) (heardStatus 2 7) := by
  obtain ⟨out, hout⟩ : ∃ out, cborSerialize reference (heardStatus 2 7) 248 = .ok out :=
    ⟨_, rfl⟩
  obtain ⟨d, -, hkey, hwritten⟩ := exists_written_of_cborSerialize hout
  have henc : Encodes (WireMsg.mk (heardStatus 2 7).route.wire d).item out := by
    rw [hwritten]
    exact encodes_written lawful_reference frames_reference hkey
  refine ⟨out, hout, ?_, ?_, ?_⟩
  · cases hout
    decide +kernel
  · cases hout
    decide +kernel
  · rintro ⟨w, hwhole, -⟩
    obtain ⟨-, -, hrest⟩ := henc.prefix_free hwhole (List.append_nil (out ++ [0])).symm
    cases hrest

end Terrascope
