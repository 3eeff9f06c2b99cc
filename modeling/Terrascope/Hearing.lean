import Terrascope.Node

/-!
# Nodes that hear messages

A run of a node is a run over frames. To follow what happens to messages it
is convenient to speak of the messages a node hears, and for messages that
get through – their frame fits the receive buffer and is read back as the
message it was made of – the two are the same (`run_heard`,
`trace_heard`).
-/

namespace Terrascope

open Node Transition

/-- **A message that gets through** between nodes of one image. -/
structure Audible (P : Platform) (msg : TsMsgLoraOutgoing) : Prop where
  length_le : (frameOf P msg).length ≤ LORA_RX_BUFFER_SIZE
  parse : loraInParse P (frameOf P msg) = some msg

/-- The message fits a frame that fits the receive buffer. -/
def fitsFrame (z : Zcbor) (msg : TsMsgLoraOutgoing) : Bool :=
  match cborSerialize z msg (ZBOR_ENCODE_BUFFER_SIZE - TS_AUTH_TAG_SIZE) with
  | .ok cbor => cbor.length + TS_AUTH_TAG_SIZE ≤ LORA_RX_BUFFER_SIZE
  | .error _ => false

/-- Payloads without a key agree only if they are equal. -/
theorem TsMsgData.Agrees.eq_of_not_isConfig {d d' : TsMsgData} (h : d.Agrees d')
    (hd : d.isConfig = false) : d' = d := by
  cases d <;> cases d' <;> simp_all [TsMsgData.Agrees, TsMsgData.isConfig]

/-- **What fits gets through**, under a MAC that never fails, if it is not a
configuration message and has the key id of the image. -/
theorem audible_of_fitsFrame {P : Platform} (hz : P.zcbor.Lawful)
    (hmac : ∀ data, (P.mac data).isSome = true) {msg : TsMsgLoraOutgoing}
    (hkeyId : msg.route.keyId = P.keyId) (hconfig : msg.data.isConfig = false)
    (hfits : fitsFrame P.zcbor msg = true) : Audible P msg := by
  have hstamp : msg.stamp P.keyId = msg := by
    unfold TsMsgLoraOutgoing.stamp
    rw [← hkeyId]
  unfold fitsFrame at hfits
  split at hfits
  · next cbor hcbor =>
    obtain ⟨full, hfull⟩ := Option.isSome_iff_exists.mp (hmac cbor)
    have hsign : tsAuthSign P cbor = .ok (full.toList.take TS_AUTH_TAG_SIZE) := by
      unfold tsAuthSign
      rw [hfull]
    have hout : loraOutFrame P msg = .ok (cbor ++ full.toList.take TS_AUTH_TAG_SIZE) := by
      unfold loraOutFrame tsAuthGetKeyId
      rw [hstamp, hcbor]
      simp only [bind, Except.bind, hsign, pure, Except.pure]
    have hframe : frameOf P msg = cbor ++ full.toList.take TS_AUTH_TAG_SIZE := by
      unfold frameOf
      rw [hout]
    have hkey : msg.data.KeyTerminated := by
      cases hdata : msg.data <;> simp_all [TsMsgData.KeyTerminated, TsMsgData.isConfig]
    obtain ⟨data', hin, hagrees⟩ := loraInParse_loraOutFrame hz hkey hout
    refine ⟨?_, ?_⟩
    · rw [hframe, List.length_append, length_of_tsAuthSign hsign]
      exact of_decide_eq_true hfits
    · rw [hframe, hin, hagrees.eq_of_not_isConfig hconfig, hstamp]
  · cases hfits

/-- With the default image. -/
theorem audible_default {msg : TsMsgLoraOutgoing} (hkeyId : msg.route.keyId = 0)
    (hconfig : msg.data.isConfig = false) (hfits : fitsFrame Zcbor.reference msg = true) :
    Audible defaultPlatform msg :=
  audible_of_fitsFrame Zcbor.lawful_reference (fun _ => rfl) hkeyId hconfig hfits

/-! ## Runs -/

section Runs

variable {τ : Type}

/-- **A step of a node that hears messages**: the frame it receives is given
by its message, any other step is as it was. -/
inductive HeardAct (τ : Type) where
  | hears (msg : TsMsgLoraOutgoing) (tag : τ) (rssi : Int16) (snr : Int8) (now : UInt32)
  | does (act : NodeAct τ)

/-- The step over frames. -/
def HeardAct.act (P : Platform) : HeardAct τ → NodeAct τ
  | .hears msg tag rssi snr now => .receive (frameOf P msg) tag rssi snr now
  | .does a => a

/-- A whole pass of the receive task over a message heard close by. -/
def passOver (msg : TsMsgLoraOutgoing) : List (HeardAct Unit) :=
  [.hears msg () (-40) 5 60, .does (.deliver 0 ()), .does .relay]

/-- What is heard gets through. -/
def HeardAct.Audible (P : Platform) : HeardAct τ → Prop
  | .hears msg _ _ _ _ => Terrascope.Audible P msg
  | .does _ => True

/-- One step, with what it does. -/
def heardStepEvents (P : Platform) (n : Node τ) :
    HeardAct τ → Option (Node τ × List (NodeEvent τ))
  | .hears msg tag rssi snr now =>
    match n.rx with
    | .listening => some (n.accept msg tag rssi snr now)
    | _ => none
  | .does a => n.stepEvents P a

/-- The node after a step. -/
def heardStep (P : Platform) (n : Node τ) (a : HeardAct τ) : Option (Node τ) :=
  (heardStepEvents P n a).map Prod.fst

/-- What the step does. -/
def heardEvents (P : Platform) (n : Node τ) (a : HeardAct τ) : List (NodeEvent τ) :=
  (heardStepEvents P n a).elim [] Prod.snd

theorem stepEvents_act {P : Platform} {a : HeardAct τ} (h : a.Audible P) (n : Node τ) :
    n.stepEvents P (a.act P) = heardStepEvents P n a := by
  cases a with
  | does a => rfl
  | hears msg tag rssi snr now =>
    have hmsg : Terrascope.Audible P msg := h
    show n.receive P (frameOf P msg) tag rssi snr now = _
    unfold Node.receive
    rw [if_neg (Nat.not_lt.mpr hmsg.length_le), hmsg.parse]
    rfl

theorem step_act {P : Platform} {a : HeardAct τ} (h : a.Audible P) (n : Node τ) :
    Node.step P n (a.act P) = heardStep P n a := by
  unfold Node.step heardStep
  rw [stepEvents_act h]

theorem events_act {P : Platform} {a : HeardAct τ} (h : a.Audible P) (n : Node τ) :
    Node.events P n (a.act P) = heardEvents P n a := by
  unfold Node.events heardEvents
  rw [stepEvents_act h]

/-- **Hearing messages is receiving their frames.** -/
theorem run_heard {P : Platform} {as : List (HeardAct τ)} (h : ∀ a ∈ as, a.Audible P)
    (n : Node τ) : run (Node.step P) n (as.map (HeardAct.act P)) = run (heardStep P) n as :=
  run_map (fun a ha => step_act (h a ha)) n

theorem trace_heard {P : Platform} {as : List (HeardAct τ)} (h : ∀ a ∈ as, a.Audible P)
    (n : Node τ) : trace (Node.step P) (Node.events P) n (as.map (HeardAct.act P))
      = trace (heardStep P) (heardEvents P) n as :=
  trace_map (fun a ha => step_act (h a ha)) (fun a ha => events_act (h a ha)) n

/-- A run of passes hears what it passes over. -/
theorem audible_passes {P : Platform} {msgs : List TsMsgLoraOutgoing}
    (h : ∀ msg ∈ msgs, Audible P msg) :
    ∀ a ∈ msgs.flatMap passOver, a.Audible P := by
  intro a ha
  obtain ⟨msg, hmsg, ha⟩ := List.mem_flatMap.mp ha
  simp only [passOver, List.mem_cons, List.not_mem_nil, or_false] at ha
  rcases ha with rfl | rfl | rfl
  · exact h msg hmsg
  · trivial
  · trivial

end Runs

end Terrascope
