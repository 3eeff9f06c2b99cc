import Terrascope.FrameRejection

/-!
# The size of a frame

The transmit task serializes into what the tag leaves of a buffer of 256
bytes, and the receive task takes at most 255. Neither limit is ever met:
however long its integers and its key are, a message takes at most 223 bytes,
so every message of one of the four types is sent, with its tag where a
receiver looks for it.
-/

namespace Terrascope

open Zcbor

section Size

variable {z : Zcbor} (hz : z.Compact)

include hz

/-- A name of the format. -/
theorem length_name_le (name : String) (h : (cstr name).length ≤ 11) :
    (z.tstrPut (cstr name)).length ≤ 13 := by
  have hle := hz.tstrPut_le (cstr name) (by omega)
  omega

/-- A key, even one that fills its array. -/
theorem length_key_le (key : KeyBuf) : (z.tstrPut key.cstr).length ≤ 34 := by
  have hle : key.cstr.length ≤ 32 := key.length_cstr_le
  have hput := hz.tstrPut_le key.cstr hle
  omega

/-- The route header: six names, five integers and a map. -/
theorem length_routeItems_le (r : TsRouteHeader) : (routeItems z r).flatten.length ≤ 105 := by
  have hroute := length_name_le hz "route" (by decide)
  have hsrc := length_name_le hz "src" (by decide)
  have hdst := length_name_le hz "dst" (by decide)
  have hid := length_name_le hz "msg_id" (by decide)
  have httl := length_name_le hz "ttl" (by decide)
  have hkey := length_name_le hz "key_id" (by decide)
  have hints := hz.uint32Put_le
  have hstart := hz.mapStartEncode_eq 5 (by decide)
  have hend := hz.mapEndEncode_le 5 (by decide)
  have hsrc' := hints r.src.toUInt32
  have hdst' := hints r.dst.toUInt32
  have hid' := hints r.msgId
  have httl' := hints r.ttl.toUInt32
  have hkey' := hints r.keyId.toUInt32
  simp only [routeItems, List.flatten_cons, List.flatten_nil, List.length_append, List.length_nil]
  omega

/-- **The payload** is longest where it has a key. -/
theorem length_dataItems_le {data : TsMsgData} {items : List (List UInt8)}
    (hitems : dataItems z data = some items) : items.flatten.length ≤ 85 := by
  have hstart : ∀ n, n < 24 → _ := hz.mapStartEncode_eq
  have hend : ∀ n, n < 24 → _ := hz.mapEndEncode_le
  cases data with
  | telemetry t =>
    cases hitems
    have hname₁ := length_name_le hz "timestamp" (by decide)
    have hname₂ := length_name_le hz "temperature" (by decide)
    have hname₃ := length_name_le hz "humidity" (by decide)
    have hname₄ := length_name_le hz "pressure" (by decide)
    have hint₁ := hz.uint32Put_le t.timestamp
    have hint₂ := hz.int32Put_le t.temperature
    have hint₃ := hz.uint32Put_le t.humidity
    have hint₄ := hz.uint32Put_le t.pressure
    have hopen := hstart 4 (by decide)
    have hclose := hend 4 (by decide)
    simp only [List.flatten_cons, List.flatten_nil, List.length_append, List.length_nil]
    omega
  | nodeStatus s =>
    cases hitems
    have hname₁ := length_name_le hz "timestamp" (by decide)
    have hname₂ := length_name_le hz "uptime" (by decide)
    have hname₃ := length_name_le hz "status" (by decide)
    have hint₁ := hz.uint32Put_le s.timestamp
    have hint₂ := hz.uint32Put_le s.uptime
    have hint₃ := hz.uint32Put_le s.status
    have hopen := hstart 3 (by decide)
    have hclose := hend 3 (by decide)
    simp only [List.flatten_cons, List.flatten_nil, List.length_append, List.length_nil]
    omega
  | configSet c =>
    cases hitems
    have hname₁ := length_name_le hz "key" (by decide)
    have hname₂ := length_name_le hz "value" (by decide)
    have hkey := length_key_le hz c.key
    have hint := hz.int32Put_le c.value
    have hopen := hstart 2 (by decide)
    have hclose := hend 2 (by decide)
    simp only [List.flatten_cons, List.flatten_nil, List.length_append, List.length_nil]
    omega
  | configAck a =>
    cases hitems
    have hname₁ := length_name_le hz "key" (by decide)
    have hname₂ := length_name_le hz "value" (by decide)
    have hname₃ := length_name_le hz "result" (by decide)
    have hkey := length_key_le hz a.key
    have hint₁ := hz.int32Put_le a.value
    have hint₂ := hz.int32Put_le a.result
    have hopen := hstart 3 (by decide)
    have hclose := hend 3 (by decide)
    simp only [List.flatten_cons, List.flatten_nil, List.length_append, List.length_nil]
    omega
  | unknown t => cases hitems

/-- **A message takes at most 223 bytes**, and at least one. -/
theorem length_msgItems {msg : TsMsgLoraOutgoing} {items : List (List UInt8)}
    (hitems : dataItems z msg.data = some items) :
    (msgItems z msg items).flatten.length ≤ 223 ∧ 0 < (msgItems z msg items).flatten.length := by
  have hroute := length_routeItems_le hz msg.route
  have hdata := length_dataItems_le hz hitems
  have htype := length_name_le hz "type" (by decide)
  have hname := length_name_le hz "data" (by decide)
  have hint := hz.uint32Put_le msg.data.type
  have hopen := hz.mapStartEncode_eq 3 (by decide)
  have hclose := hz.mapEndEncode_le 3 (by decide)
  simp only [msgItems, List.flatten_append, List.flatten_cons, List.flatten_nil,
    List.length_append, List.length_nil]
  omega

/-- **Every message of one of the four types is serialized**, with room for
the tag to spare. -/
theorem cborSerialize_of_compact {msg : TsMsgLoraOutgoing} (hmsg : ∀ t, msg.data ≠ .unknown t) :
    ∃ cbor, cborSerialize z msg (ZBOR_ENCODE_BUFFER_SIZE - TS_AUTH_TAG_SIZE) = .ok cbor
      ∧ cbor.length ≤ 223 ∧ 0 < cbor.length := by
  obtain ⟨items, hitems⟩ : ∃ items, dataItems z msg.data = some items := by
    cases hdata : msg.data with
    | unknown t => exact absurd hdata (hmsg t)
    | _ => exact ⟨_, rfl⟩
  obtain ⟨hle, hpos⟩ := length_msgItems hz hitems
  refine ⟨_, cborSerialize_of_fits hitems (hle.trans ?_), hle, hpos⟩
  show 223 ≤ 248
  decide

end Size

/-- **Every message is made into a frame** of at most 231 bytes. -/
theorem loraOutFrame_of_compact {P : Platform} (hz : P.zcbor.Compact)
    (hmac : ∀ data, ∃ fullMac, P.mac data = some fullMac) {msg : TsMsgLoraOutgoing}
    (hmsg : ∀ t, msg.data ≠ .unknown t) :
    ∃ cbor tag, cborSerialize P.zcbor (msg.stamp (tsAuthGetKeyId P))
          (ZBOR_ENCODE_BUFFER_SIZE - TS_AUTH_TAG_SIZE) = .ok cbor
        ∧ tsAuthSign P cbor = .ok tag ∧ loraOutFrame P msg = .ok (cbor ++ tag)
        ∧ tag.length = 8 ∧ cbor.length ≤ 223 ∧ 0 < cbor.length := by
  have hstamped : ∀ t, (msg.stamp (tsAuthGetKeyId P)).data ≠ .unknown t := hmsg
  obtain ⟨cbor, hcbor, hle, hpos⟩ := cborSerialize_of_compact hz hstamped
  obtain ⟨fullMac, hfull⟩ := hmac cbor
  obtain ⟨tag, htag⟩ : ∃ tag, tsAuthSign P cbor = .ok tag := by
    unfold tsAuthSign
    rw [hfull]
    exact ⟨_, rfl⟩
  have hframe : loraOutFrame P msg = .ok (cbor ++ tag) := by
    unfold loraOutFrame
    exact bind_eq_ok.mpr ⟨cbor, hcbor, bind_eq_ok.mpr ⟨tag, htag, rfl⟩⟩
  exact ⟨cbor, tag, hcbor, htag, hframe, length_of_tsAuthSign htag, hle, hpos⟩

/-- **The frame is cut where it was put together.** -/
theorem payloadOf_append (cbor : List UInt8) {tag : List UInt8} (htag : tag.length = TS_AUTH_TAG_SIZE) :
    payloadOf (cbor ++ tag) = cbor ∧ tagOf (cbor ++ tag) = tag := by
  have hlen : (cbor ++ tag).length - TS_AUTH_TAG_SIZE = cbor.length := by
    rw [List.length_append, htag, Nat.add_sub_cancel]
  rw [payloadOf, tagOf, hlen]
  exact ⟨List.take_left' rfl, List.drop_left' rfl⟩

/-- **Every message is sent, and every receiver finds its tag.** Where the MAC
is computed and the CBOR library writes items of the usual size, a pass of
the transmit task over any message of one of the four types – with any field
values, and a key that may fill its array – serializes it into what the tag
leaves of the buffer, puts the tag behind it inside the buffer, and sends
more than 8 and at most 255 bytes. A receiver under the same key cuts out the
serialized bytes, and their tag is verified. -/
theorem every_message_fits {P : Platform} (hz : P.zcbor.Compact)
    (hmac : ∀ data, ∃ fullMac, P.mac data = some fullMac) {msg : TsMsgLoraOutgoing}
    (hmsg : ∀ t, msg.data ≠ .unknown t) :
    ∃ cbor tag frame,
      cborSerialize P.zcbor (msg.stamp (tsAuthGetKeyId P))
          (ZBOR_ENCODE_BUFFER_SIZE - TS_AUTH_TAG_SIZE) = .ok cbor
        ∧ cbor.length ≤ ZBOR_ENCODE_BUFFER_SIZE - TS_AUTH_TAG_SIZE
        ∧ tsAuthSign P cbor = .ok tag
        ∧ loraOutFrame P msg = .ok frame ∧ frame = cbor ++ tag
        ∧ frame.length ≤ ZBOR_ENCODE_BUFFER_SIZE
        ∧ frame.length ≤ LORA_RX_BUFFER_SIZE ∧ TS_AUTH_TAG_SIZE < frame.length
        ∧ ∀ Q : Platform, Q.mac = P.mac →
          payloadOf frame = cbor ∧ tsAuthVerify Q (payloadOf frame) (tagOf frame) = 0 := by
  obtain ⟨cbor, tag, hcbor, htag, hframe, hlen, hle, hpos⟩ :=
    loraOutFrame_of_compact hz hmac hmsg
  have htotal : (cbor ++ tag).length = cbor.length + 8 := by rw [List.length_append, hlen]
  have hencode : cbor.length ≤ 248 := by omega
  have hbuffer : (cbor ++ tag).length ≤ 256 := by omega
  have hreceive : (cbor ++ tag).length ≤ 255 := by omega
  have hmore : 8 < (cbor ++ tag).length := by omega
  refine ⟨cbor, tag, cbor ++ tag, hcbor, hencode, htag, hframe, rfl, hbuffer, hreceive, hmore,
    fun Q hQ => ?_⟩
  obtain ⟨hpayload, htagOf⟩ := payloadOf_append cbor hlen
  rw [hpayload, htagOf]
  have hsame : tsAuthSign Q cbor = .ok tag := by
    rw [← htag, tsAuthSign, hQ, tsAuthSign]
  exact ⟨rfl, tsAuthVerify_tsAuthSign hsame⟩

/-- An acknowledgement of the widest values, with a key that fills its
array. -/
def widestAck : TsMsgLoraOutgoing :=
  ⟨⟨0xFFFE, 0xFFFD, 0xFFFFFFFF, 255, 255⟩,
    .configAck ⟨KeyBuf.ofText (cstr "ts/routing_table_stale_timeout_s"), -2147483648, -2147483648⟩⟩

/-- It is sent too. -/
theorem every_message_fits_widestAck :
    ∃ cbor tag frame,
      cborSerialize defaultPlatform.zcbor (widestAck.stamp (tsAuthGetKeyId defaultPlatform))
          (ZBOR_ENCODE_BUFFER_SIZE - TS_AUTH_TAG_SIZE) = .ok cbor
        ∧ cbor.length ≤ ZBOR_ENCODE_BUFFER_SIZE - TS_AUTH_TAG_SIZE
        ∧ tsAuthSign defaultPlatform cbor = .ok tag
        ∧ loraOutFrame defaultPlatform widestAck = .ok frame ∧ frame = cbor ++ tag
        ∧ frame.length ≤ ZBOR_ENCODE_BUFFER_SIZE
        ∧ frame.length ≤ LORA_RX_BUFFER_SIZE ∧ TS_AUTH_TAG_SIZE < frame.length
        ∧ ∀ Q : Platform, Q.mac = defaultPlatform.mac →
          payloadOf frame = cbor ∧ tsAuthVerify Q (payloadOf frame) (tagOf frame) = 0 :=
  every_message_fits compact_reference (fun _ => ⟨_, rfl⟩) nofun

end Terrascope
