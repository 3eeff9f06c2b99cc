import Terrascope.Node

/-!
# Frames that are rejected

A frame passes five checks before the node does anything with it: its
length, its tag, its encoding, its key id and its source. One that fails any
of them leaves the node as it was, and one that fails the first two is not
even looked at by the decoder.

That a decoder is not called is a statement about the pass, not about its
result, so the pass is written here once more over a decoder with effects,
and run with one that notes down what it is given.
-/

namespace Terrascope

open Node

/-! ## What is wrong with a frame -/

/-- The bytes of a frame before its tag. -/
def payloadOf (frame : List UInt8) : List UInt8 :=
  frame.take (frame.length - TS_AUTH_TAG_SIZE)

/-- The tag at the end of a frame. -/
def tagOf (frame : List UInt8) : List UInt8 :=
  frame.drop (frame.length - TS_AUTH_TAG_SIZE)

/-- **The tag is that of the payload**: the first eight bytes of its MAC, bit
by bit. -/
def TagMatches (P : Platform) (frame : List UInt8) : Prop :=
  ∃ fullMac, P.mac (payloadOf frame) = some fullMac
    ∧ tagOf frame = fullMac.toList.take TS_AUTH_TAG_SIZE

/-- **What can be wrong with a frame** that a node receives. -/
inductive Rejected {τ : Type} (P : Platform) (n : Node τ) (frame : List UInt8) : Prop where
  | tooShort (h : frame.length ≤ TS_AUTH_TAG_SIZE)
  | wrongTag (h : ¬ TagMatches P frame)
  | undecodable (ret : Int32) (h : cborDeserialize P.zcbor (payloadOf frame) = .error ret)
  | wrongKeyId (msg : TsMsgLoraOutgoing)
      (hmsg : cborDeserialize P.zcbor (payloadOf frame) = .ok msg)
      (h : msg.route.keyId ≠ tsAuthGetKeyId P)
  | ownSource (msg : TsMsgLoraOutgoing)
      (hmsg : cborDeserialize P.zcbor (payloadOf frame) = .ok msg)
      (h : msg.route.src = tsRoutingGetNodeId n.routing)

/-- The tag of a frame that is long enough has its full size. -/
theorem length_tagOf {frame : List UInt8} (h : ¬ frame.length ≤ TS_AUTH_TAG_SIZE) :
    (tagOf frame).length = TS_AUTH_TAG_SIZE := by
  rw [tagOf, List.length_drop]
  omega

/-- **The comparison of the tags is exact.** -/
theorem tsAuthVerify_frame {P : Platform} {frame : List UInt8}
    (hlen : ¬ frame.length ≤ TS_AUTH_TAG_SIZE) :
    tsAuthVerify P (payloadOf frame) (tagOf frame) = 0 ↔ TagMatches P frame := by
  rw [tsAuthVerify_eq_zero_iff (length_tagOf hlen)]
  unfold tsAuthSign TagMatches
  cases P.mac (payloadOf frame) with
  | none => simp
  | some fullMac => simp [eq_comm]

/-! ## The pass over a frame, with the decoder's effects -/

/-- **`lora_in_task` up to the check of the key id**, over a decoder that may
do more than decode. -/
def loraInChecks {m : Type → Type} [Monad m] (P : Platform)
    (decode : List UInt8 → m (Except Int32 TsMsgLoraOutgoing)) (frame : List UInt8) :
    m (Option TsMsgLoraOutgoing) :=
  if frame.length ≤ TS_AUTH_TAG_SIZE then pure none
  else if tsAuthVerify P (payloadOf frame) (tagOf frame) ≠ 0 then pure none
  else do
    match ← decode (payloadOf frame) with
    | .error _ => pure none
    | .ok msg => pure (if msg.route.keyId ≠ tsAuthGetKeyId P then none else some msg)

/-- `cbor_deserialize`, which notes down what it is called with. -/
def recordingDecoder (P : Platform) (bytes : List UInt8) :
    StateM (List (List UInt8)) (Except Int32 TsMsgLoraOutgoing) := do
  modify (fun calls => calls ++ [bytes])
  return cborDeserialize P.zcbor bytes

/-- The byte strings passed to `cbor_deserialize` for a frame. -/
def decoderCalls (P : Platform) (frame : List UInt8) : List (List UInt8) :=
  ((loraInChecks P (recordingDecoder P) frame).run []).2

/-- **It is the same pass**: with the recording decoder it finds what
`loraInParse` finds. -/
theorem loraInChecks_recordingDecoder (P : Platform) (frame : List UInt8) :
    ((loraInChecks P (recordingDecoder P) frame).run []).1 = loraInParse P frame := by
  unfold loraInChecks loraInParse
  by_cases hlen : frame.length ≤ TS_AUTH_TAG_SIZE
  · rw [if_pos hlen, if_pos hlen]
    rfl
  · rw [if_neg hlen, if_neg hlen]
    dsimp only
    rw [← payloadOf, ← tagOf]
    by_cases hverify : tsAuthVerify P (payloadOf frame) (tagOf frame) ≠ 0
    · rw [if_pos hverify, if_pos hverify]
      rfl
    · rw [if_neg hverify, if_neg hverify]
      unfold recordingDecoder
      cases cborDeserialize P.zcbor (payloadOf frame) with
      | error ret => rfl
      | ok msg => rfl

/-- **The decoder sees only authentic bytes.** -/
theorem decoderCalls_eq_nil {P : Platform} {frame : List UInt8}
    (h : frame.length ≤ TS_AUTH_TAG_SIZE ∨ ¬ TagMatches P frame) :
    decoderCalls P frame = [] := by
  unfold decoderCalls loraInChecks
  by_cases hlen : frame.length ≤ TS_AUTH_TAG_SIZE
  · rw [if_pos hlen]
    rfl
  · have hverify : tsAuthVerify P (payloadOf frame) (tagOf frame) ≠ 0 :=
      fun hzero => (h.resolve_left hlen) ((tsAuthVerify_frame hlen).mp hzero)
    rw [if_neg hlen, if_pos hverify]
    rfl

/-! ## What becomes of it -/

section Frame

variable {τ : Type} {P : Platform} {n : Node τ} {frame : List UInt8}

/-- What `lora_in_task` goes on with has passed four of the checks. -/
theorem TagMatches.of_loraInParse {msg : TsMsgLoraOutgoing}
    (h : loraInParse P frame = some msg) :
    ¬ frame.length ≤ TS_AUTH_TAG_SIZE ∧ TagMatches P frame := by
  unfold loraInParse at h
  split at h
  · cases h
  · next hlen =>
    dsimp only at h
    split at h
    · cases h
    · next hverify =>
      exact ⟨hlen, (tsAuthVerify_frame hlen).mp (not_not.mp hverify)⟩

/-- **A rejected frame** is dropped before the node's own id is looked at, or
because of it. -/
theorem Rejected.dropped (h : Rejected P n frame) :
    loraInParse P frame = none
      ∨ ∃ msg, loraInParse P frame = some msg ∧ msg.route.src = n.routing.selfNodeId := by
  cases hparse : loraInParse P frame with
  | none => exact Or.inl rfl
  | some msg =>
    obtain ⟨hlen, htag⟩ := TagMatches.of_loraInParse hparse
    obtain ⟨hde, hkey⟩ := loraInParse_eq_some hparse
    rw [← payloadOf] at hde
    cases h with
    | tooShort hshort => exact absurd hshort hlen
    | wrongTag hwrong => exact absurd htag hwrong
    | undecodable ret hret => cases hret.symm.trans hde
    | wrongKeyId msg' hmsg' hwrong =>
      cases hmsg'.symm.trans hde
      exact absurd hkey hwrong
    | ownSource msg' hmsg' hown =>
      cases hmsg'.symm.trans hde
      exact Or.inr ⟨msg, rfl, hown⟩

/-- **Rejected frames leave no trace.** Whatever the MAC is, one iteration of
the receive task over a frame that is too short, wrongly tagged, not
decodable, under another key id or of the node's own leaves the whole state
of the node as it was and publishes nothing; and the decoder is called for
none whose length or tag is wrong. -/
theorem rejected_leaves_no_trace (hrx : n.rx = .listening)
    (hlen : frame.length ≤ LORA_RX_BUFFER_SIZE) (hrej : Rejected P n frame) (tag : τ)
    (rssi : Int16) (snr : Int8) (now : UInt32) :
    n.stepEvents P (.receive frame tag rssi snr now) = some (n, [])
      ∧ (frame.length ≤ TS_AUTH_TAG_SIZE ∨ ¬ TagMatches P frame → decoderCalls P frame = []) := by
  refine ⟨?_, decoderCalls_eq_nil⟩
  simp only [stepEvents, receive, hrx]
  rw [if_neg (Nat.not_lt.mpr hlen)]
  rcases hrej.dropped with hparse | ⟨msg, hparse, hown⟩
  · rw [hparse]
  · rw [hparse]
    exact congrArg some (accept_of_own hown tag rssi snr now)

/-- A status of another node, with one bit of its first byte flipped on the
way. -/
def tamperedStatus : List UInt8 :=
  match frameOf defaultPlatform (heardStatus 2 0) with
  | [] => []
  | b :: bytes => (b ^^^ 1) :: bytes

/-- It is dropped by a node that has just booted. -/
theorem rejected_leaves_no_trace_tamperedStatus :
    let n : Node Unit := Node.boot ConfigState.empty
    n.stepEvents defaultPlatform (.receive tamperedStatus () (-80) 5 60) = some (n, [])
      ∧ decoderCalls defaultPlatform tamperedStatus = [] := by
  intro n
  have htag : ¬ TagMatches defaultPlatform tamperedStatus := by
    have hverify : tsAuthVerify defaultPlatform (payloadOf tamperedStatus)
        (tagOf tamperedStatus) ≠ 0 := by decide +kernel
    exact fun hmatch => hverify ((tsAuthVerify_frame (by decide +kernel)).mpr hmatch)
  have h := rejected_leaves_no_trace (n := n) rfl (by decide +kernel) (.wrongTag htag) ()
    (-80) 5 60
  exact ⟨h.1, h.2 (Or.inr htag)⟩

end Frame

end Terrascope
