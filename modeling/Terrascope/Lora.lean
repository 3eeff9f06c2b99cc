import Terrascope.Auth
import Terrascope.Cbor

/-!
# Frames

What `lora_out_task` makes of a message and what `lora_in_task` makes of
the bytes it receives: CBOR with the tag of its MAC behind it. The key id is
stamped on the way out, so a receiver sees the sender's.
-/

namespace Terrascope

/-- `ZBOR_ENCODE_BUFFER_SIZE`. -/
def ZBOR_ENCODE_BUFFER_SIZE : ℕ := 256

/-- `LORA_RX_BUFFER_SIZE`. -/
def LORA_RX_BUFFER_SIZE : ℕ := 255

/-- A message with the key id of its sender. -/
def TsMsgLoraOutgoing.stamp (msg : TsMsgLoraOutgoing) (keyId : UInt8) : TsMsgLoraOutgoing :=
  { msg with route := { msg.route with keyId := keyId } }

/-- One pass of `lora_out_task` over a message it has read: the bytes passed
to `lora_send`, or the error the message is given up for. -/
def loraOutFrame (P : Platform) (msg : TsMsgLoraOutgoing) : Except Int32 (List UInt8) := do
  let cbor ← cborSerialize P.zcbor (msg.stamp (tsAuthGetKeyId P))
    (ZBOR_ENCODE_BUFFER_SIZE - TS_AUTH_TAG_SIZE)
  let tag ← tsAuthSign P cbor
  return cbor ++ tag

/-- The frame of a message, no bytes where there is none. -/
def frameOf (P : Platform) (msg : TsMsgLoraOutgoing) : List UInt8 :=
  match loraOutFrame P msg with
  | .ok frame => frame
  | .error _ => []

/-- `lora_in_task` from the bytes `lora_recv` returned to the message it goes
on with, or nothing where the frame is dropped. -/
def loraInParse (P : Platform) (frame : List UInt8) : Option TsMsgLoraOutgoing :=
  if frame.length ≤ TS_AUTH_TAG_SIZE then none
  else
    let cborLen := frame.length - TS_AUTH_TAG_SIZE
    if tsAuthVerify P (frame.take cborLen) (frame.drop cborLen) ≠ 0 then none
    else
      match cborDeserialize P.zcbor (frame.take cborLen) with
      | .error _ => none
      | .ok msg => if msg.route.keyId ≠ tsAuthGetKeyId P then none else some msg

/-- **A frame that was sent**: the serialized message and its tag. -/
theorem loraOutFrame_eq_ok {P : Platform} {msg : TsMsgLoraOutgoing} {frame : List UInt8}
    (h : loraOutFrame P msg = .ok frame) :
    ∃ cbor tag, cborSerialize P.zcbor (msg.stamp P.keyId)
        (ZBOR_ENCODE_BUFFER_SIZE - TS_AUTH_TAG_SIZE) = .ok cbor
      ∧ tsAuthSign P cbor = .ok tag ∧ frame = cbor ++ tag
      ∧ frame.take (frame.length - TS_AUTH_TAG_SIZE) = cbor
      ∧ frame.drop (frame.length - TS_AUTH_TAG_SIZE) = tag := by
  unfold loraOutFrame at h
  obtain ⟨cbor, hcbor, h⟩ := bind_eq_ok.mp h
  obtain ⟨tag, htag, h⟩ := bind_eq_ok.mp h
  obtain rfl : cbor ++ tag = frame := Except.ok.inj h
  have hlen : (cbor ++ tag).length - TS_AUTH_TAG_SIZE = cbor.length := by
    rw [List.length_append, length_of_tsAuthSign htag, Nat.add_sub_cancel]
  rw [hlen]
  exact ⟨cbor, tag, hcbor, htag, rfl, List.take_left' rfl, List.drop_left' rfl⟩

/-- What `lora_in_task` goes on with was accepted by `cbor_deserialize` under
the node's own key id. -/
theorem loraInParse_eq_some {P : Platform} {frame : List UInt8} {msg : TsMsgLoraOutgoing}
    (h : loraInParse P frame = some msg) :
    cborDeserialize P.zcbor (frame.take (frame.length - TS_AUTH_TAG_SIZE)) = .ok msg
      ∧ msg.route.keyId = P.keyId := by
  unfold loraInParse at h
  split at h
  · cases h
  · dsimp only at h
    split at h
    · cases h
    · split at h
      · cases h
      · next m hm =>
        split at h
        · cases h
        · next hkey =>
          cases h
          exact ⟨hm, not_not.mp hkey⟩

/-- Whatever `lora_in_task` goes on with has a C string for a key. -/
theorem keyTerminated_of_loraInParse {P : Platform} {frame : List UInt8}
    {msg : TsMsgLoraOutgoing} (h : loraInParse P frame = some msg) : msg.data.KeyTerminated :=
  (readable_of_cborDeserialize (loraInParse_eq_some h).1).keyTerminated

/-- **What is received was sent.** Whatever a node goes on with, from a frame
that another node with the same CBOR library made of a message, has that
message's header up to the key id and the same payload. -/
theorem agrees_of_loraInParse {P Q : Platform} (hz : P.zcbor.Lawful)
    (hPQ : Q.zcbor = P.zcbor) {msg msg' : TsMsgLoraOutgoing} {frame : List UInt8}
    (hout : loraOutFrame P msg = .ok frame) (hin : loraInParse Q frame = some msg') :
    msg'.route = (msg.stamp P.keyId).route ∧ msg.data.Agrees msg'.data := by
  obtain ⟨cbor, tag, hcbor, -, -, htake, -⟩ := loraOutFrame_eq_ok hout
  obtain ⟨hde, -⟩ := loraInParse_eq_some hin
  rw [htake, hPQ] at hde
  by_cases hkey : (msg.stamp P.keyId).data.KeyTerminated
  · obtain ⟨data', hdata', hagrees⟩ := cborDeserialize_of_keyTerminated hz hkey hcbor
    cases hdata'.symm.trans hde
    exact ⟨rfl, hagrees⟩
  · rw [cborDeserialize_of_not_keyTerminated hz hkey hcbor] at hde
    cases hde

/-- **A frame with a C string for a key gets through** between nodes built
alike. -/
theorem loraInParse_loraOutFrame {P : Platform} (hz : P.zcbor.Lawful)
    {msg : TsMsgLoraOutgoing} {frame : List UInt8} (hkey : msg.data.KeyTerminated)
    (hout : loraOutFrame P msg = .ok frame) :
    ∃ data', loraInParse P frame = some ⟨(msg.stamp P.keyId).route, data'⟩
      ∧ msg.data.Agrees data' := by
  obtain ⟨cbor, tag, hcbor, htag, hframe, htake, hdrop⟩ := loraOutFrame_eq_ok hout
  have hstamped : (msg.stamp P.keyId).data.KeyTerminated := hkey
  obtain ⟨data', hdata', hagrees⟩ := cborDeserialize_of_keyTerminated hz hstamped hcbor
  have hne : cbor ≠ [] := by
    rintro rfl
    cases hdata'
  have hlen : ¬ frame.length ≤ TS_AUTH_TAG_SIZE := by
    rw [hframe, List.length_append, length_of_tsAuthSign htag]
    have hpos := List.length_pos_iff.mpr hne
    omega
  refine ⟨data', ?_, hagrees⟩
  unfold loraInParse
  rw [if_neg hlen]
  simp only [htake, hdrop, tsAuthVerify_tsAuthSign htag, hdata', ne_eq, not_true_eq_false,
    if_false]
  exact if_neg (not_not.mpr rfl)

end Terrascope
