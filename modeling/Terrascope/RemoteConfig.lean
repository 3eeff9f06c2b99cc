import Terrascope.ConfigPersistence
import Terrascope.FrameSize

/-!
# Configuration over the mesh

A node that is sent a key and a value does what it would do if it were asked
locally, and answers with what it returned – if the key gets to it. On the
way it is in an array of 32 bytes, twice, and is read back only if there is a
NUL behind it. The one key that does not fit with its NUL is
`ts/routing_table_stale_timeout_s`, so that spelling works locally and not
over the mesh (`remote_equals_local_iff`).
-/

namespace Terrascope

open Transition Node

/-- A pass of the receive task over a configuration request. -/
def remoteSetActs {τ : Type} (frame : List UInt8) (tag : τ) (rssi : Int16) (snr : Int8)
    (now : UInt32) (saveRet : Int32) (ackTag : τ) : List (NodeAct τ) :=
  [.receive frame tag rssi snr now, .deliver saveRet ackTag, .publishAck]

/-- **A header that the node takes for one of a new message addressed to
it.** -/
structure FreshFor {τ : Type} (n : Node τ) (route : TsRouteHeader) : Prop where
  listening : n.rx = .listening
  other : route.src ≠ n.routing.selfNodeId
  unseen : tsRoutingIsDuplicate n.routing route = false
  addressed : route.dst = n.routing.selfNodeId

/-- **Asking over the mesh is asking locally**: a request that is sent to the
node leaves its configuration as the local call does, and the node answers
with the key, the value and what the local call returns. -/
def RemoteEqualsLocal {τ : Type} (P : Platform) (n : Node τ) (route : TsRouteHeader)
    (req : TsMsgConfigSet) (tag : τ) (rssi : Int16) (snr : Int8) (now : UInt32) (ackTag : τ)
    (key : CString) (v saveRet : Int32) : Prop :=
  let acts := fun frame => remoteSetActs frame tag rssi snr now saveRet ackTag
  ∃ frame n' ack pub, loraOutFrame P ⟨route, .configSet req⟩ = .ok frame
    ∧ run (Node.step P) n (acts frame) = some n'
    ∧ .published ack pub ∈ trace (Node.step P) (Node.events P) n (acts frame)
    ∧ n'.config = (tsConfigSet n.config key v saveRet).1
    ∧ ∃ a, ack.msg.data = .configAck a ∧ a.key.cstr = key ∧ a.value = v
      ∧ a.result = (tsConfigSet n.config key v saveRet).2

/-! ## Keys in their arrays -/

/-- **The keys that are recognised** are the names of the table, with the
prefix or without. -/
theorem key_of_findKey {key : CString} {k : TsConfigKey} (h : findKey (keyField key) = some k) :
    k ∈ configKeys ∧ (key = k.name ∨ key = cstr "ts/" ++ k.name) := by
  obtain ⟨hk, hname⟩ := findKey_eq_some.mp h
  refine ⟨hk, ?_⟩
  unfold keyField at hname
  split at hname
  · next hprefix => exact Or.inr (by rw [hname, ← hprefix, List.take_append_drop])
  · exact Or.inl hname.symm

/-- They have no NUL in them. -/
theorem takeWhile_of_findKey {key : CString} {k : TsConfigKey}
    (h : findKey (keyField key) = some k) : key.takeWhile (fun c => c ≠ 0) = key := by
  have hall : ∀ k ∈ configKeys, k.name.takeWhile (fun c => c ≠ 0) = k.name
      ∧ (cstr "ts/" ++ k.name).takeWhile (fun c => c ≠ 0) = cstr "ts/" ++ k.name := by decide
  obtain ⟨hk, rfl | rfl⟩ := key_of_findKey h
  · exact (hall k hk).1
  · exact (hall k hk).2

/-- **An acknowledged key is short.** -/
theorem length_cstr_ackKey (req : TsMsgConfigSet) :
    (KeyBuf.ofText (req.key.cstr.take (TS_MSG_CONFIG_KEY_MAX - 1))).cstr.length
      < TS_MSG_CONFIG_KEY_MAX := by
  refine KeyBuf.length_cstr_lt (KeyBuf.terminated_ofText ?_)
  rw [List.length_take]
  exact lt_of_le_of_lt (Nat.min_le_left _ _) (by decide)

/-- A short key is acknowledged as it is. -/
theorem cstr_ackKey {req : TsMsgConfigSet} (h : req.key.cstr.length < TS_MSG_CONFIG_KEY_MAX) :
    (KeyBuf.ofText (req.key.cstr.take (TS_MSG_CONFIG_KEY_MAX - 1))).cstr = req.key.cstr := by
  rw [List.take_of_length_le (Nat.le_sub_one_of_lt h), KeyBuf.cstr_ofText h.le]
  exact req.key.takeWhile_cstr

/-! ## The exchange -/

section Exchange

variable {τ : Type} {P : Platform} {n : Node τ}

/-- An accepted request is applied, and its acknowledgement prepared. -/
theorem deliver_request {inMsg : TsMsgLoraIncoming} {tag : τ} {req : TsMsgConfigSet}
    (hrx : n.rx = .accepted inMsg tag)
    (hfor : tsRoutingIsForUs n.routing inMsg.msg.route = true)
    (hdata : inMsg.msg.data = .configSet req) (saveRet : Int32) (ackTag : τ) :
    let r := tsConfigSet n.config req.key.cstr req.value saveRet
    ∃ n' ackRoute es, n.stepEvents P (.deliver saveRet ackTag) = some (n', es)
      ∧ n'.rx = .acking ⟨configAckMsg ackRoute req r.2, ackTag⟩ ∧ n'.config = r.1 := by
  simp only [stepEvents, deliver, hrx, hfor, hdata, if_true]
  exact ⟨_, _, _, rfl, rfl, rfl⟩

/-- A prepared acknowledgement is published. -/
theorem publish_ack {ack : Copy τ} (hrx : n.rx = .acking ack) :
    ∃ n', n.stepEvents P .publishAck = some (n', [.published ack (n.bus.chan.pubs + 1)])
      ∧ n'.config = n.config := by
  simp only [stepEvents, publishAck, hrx]
  exact ⟨_, rfl, rfl⟩

/-- **What the node does with a request it has read.** -/
theorem remoteSet_run {frame : List UInt8} {route : TsRouteHeader} {req : TsMsgConfigSet}
    (hfresh : FreshFor n route) (hlen : frame.length ≤ LORA_RX_BUFFER_SIZE)
    (hparse : loraInParse P frame = some ⟨route, .configSet req⟩) (tag : τ) (rssi : Int16)
    (snr : Int8) (now : UInt32) (saveRet : Int32) (ackTag : τ) :
    let acts := remoteSetActs frame tag rssi snr now saveRet ackTag
    let r := tsConfigSet n.config req.key.cstr req.value saveRet
    ∃ n' ackRoute pub, run (Node.step P) n acts = some n'
      ∧ .published ⟨configAckMsg ackRoute req r.2, ackTag⟩ pub
        ∈ trace (Node.step P) (Node.events P) n acts
      ∧ n'.config = r.1 := by
  intro acts r
  have hreceive := receive_of_new hfresh.listening hlen hparse hfresh.other hfresh.unseen tag
    rssi snr now
  have hfor : tsRoutingIsForUs (tsRoutingMarkSeen n.routing route) route = true := by
    unfold tsRoutingIsForUs tsRoutingMarkSeen
    rw [hfresh.addressed, beq_self_eq_true, Bool.true_or]
  obtain ⟨n₂, ackRoute, es₂, hdeliver, hrx₂, hconfig₂⟩ :=
    deliver_request (P := P) (n := { n with
      routing := tsRoutingMarkSeen n.routing route
      table := (tsRoutingTableUpdate n.cfg now n.table route.src rssi snr route.ttl).1
      rx := .accepted ⟨⟨route, .configSet req⟩, rssi, snr⟩ tag }) rfl hfor rfl saveRet ackTag
  obtain ⟨n₃, hpublish, hconfig₃⟩ := publish_ack (P := P) hrx₂
  obtain ⟨hstep₁, hevents₁⟩ := step_of_stepEvents hreceive
  obtain ⟨hstep₂, hevents₂⟩ := step_of_stepEvents hdeliver
  obtain ⟨hstep₃, hevents₃⟩ := step_of_stepEvents hpublish
  refine ⟨n₃, ackRoute, n₂.bus.chan.pubs + 1, ?_, ?_, hconfig₃.trans hconfig₂⟩
  · exact run_cons_eq_some.mpr ⟨_, hstep₁, run_cons_eq_some.mpr
      ⟨_, hstep₂, run_cons_eq_some.mpr ⟨_, hstep₃, rfl⟩⟩⟩
  · simp only [acts, remoteSetActs, trace, hstep₁, hstep₂, hstep₃, hevents₁, hevents₂, hevents₃,
      Option.elim_some, List.mem_append]
    exact Or.inr (Or.inr (Or.inl List.mem_cons_self))

/-- **Whatever request a node is sent, the key it answers with is short.** -/
theorem length_of_published {frame : List UInt8} {tag ackTag : τ} {rssi : Int16} {snr : Int8}
    {now : UInt32} {saveRet : Int32} {n' : Node τ} {ack : Copy τ} {pub : ℕ}
    {a : TsMsgConfigAck}
    (hrun : run (Node.step P) n (remoteSetActs frame tag rssi snr now saveRet ackTag) = some n')
    (hpub : .published ack pub ∈ trace (Node.step P) (Node.events P) n
      (remoteSetActs frame tag rssi snr now saveRet ackTag))
    (ha : ack.msg.data = .configAck a) : a.key.cstr.length < TS_MSG_CONFIG_KEY_MAX := by
  obtain ⟨n₁, hs₁, hrun⟩ := run_cons_eq_some.mp hrun
  obtain ⟨n₂, hs₂, hrun⟩ := run_cons_eq_some.mp hrun
  obtain ⟨n₃, hs₃, -⟩ := run_cons_eq_some.mp hrun
  simp only [remoteSetActs, trace, hs₁, hs₂, hs₃, Option.elim_some, List.append_nil,
    List.mem_append] at hpub
  have hstep₁ := Step.of_step hs₁
  have hstep₂ := Step.of_step hs₂
  have hstep₃ := Step.of_step hs₃
  -- only the last of the three steps publishes, and what it publishes the second one made
  have hrx₂ : n₂.rx = .acking ack := by
    rcases hpub with hpub | hpub | hpub
    · generalize n.events P _ = es at hstep₁ hpub
      cases hstep₁ <;> simp at hpub
    · generalize n₁.events P _ = es at hstep₂ hpub
      cases hstep₂ <;> simp at hpub
    · generalize n₂.events P _ = es at hstep₃ hpub
      cases hstep₃ with
      | ackPublished hrx =>
        cases List.mem_singleton.mp hpub
        exact hrx
  generalize n₁.events P _ = es at hstep₂
  cases hstep₂ with
  | @configured _ _ _ _ req _ _ _ config cfgRet _ ackRoute =>
    have hack : ⟨configAckMsg ackRoute req cfgRet, ackTag⟩ = ack := RxPc.acking.inj hrx₂
    rw [← hack] at ha
    have hkey := congrArg TsMsgConfigAck.key (TsMsgData.configAck.inj ha)
    rw [← hkey]
    exact length_cstr_ackKey req
  | notForUs => cases hrx₂
  | delivered => cases hrx₂

/-- **Remote configuration equals local configuration exactly for the keys
that fit their array.** For every key that `ts_config_set` recognises, every
value and every node that has its receive task waiting: a request sent to the
node under a new header can leave it as the local call does and be answered
with the key, the value and the local result, if and only if the key is
shorter than `TS_MSG_CONFIG_KEY_MAX`. -/
theorem remote_equals_local_iff (hz : P.zcbor.Lawful) (hcompact : P.zcbor.Compact)
    (hmac : ∀ data, ∃ fullMac, P.mac data = some fullMac) {route : TsRouteHeader}
    (hfresh : FreshFor n route) {key : CString} {k : TsConfigKey}
    (hkey : findKey (keyField key) = some k) (v saveRet : Int32) (tag : τ) (rssi : Int16)
    (snr : Int8) (now : UInt32) (ackTag : τ) :
    (∃ req, RemoteEqualsLocal P n route req tag rssi snr now ackTag key v saveRet)
      ↔ key.length < TS_MSG_CONFIG_KEY_MAX := by
  constructor
  · rintro ⟨req, frame, n', ack, pub, -, hrun, hpub, -, a, ha, hakey, -, -⟩
    rw [← hakey]
    exact length_of_published hrun hpub ha
  · intro hshort
    have hcstr : (KeyBuf.ofText key).cstr = key := by
      rw [KeyBuf.cstr_ofText hshort.le]
      exact takeWhile_of_findKey hkey
    let sent : TsMsgLoraOutgoing := ⟨route, .configSet ⟨KeyBuf.ofText key, v⟩⟩
    have hkind : ∀ t, sent.data ≠ .unknown t := nofun
    have hterm : sent.data.KeyTerminated := KeyBuf.terminated_ofText hshort
    obtain ⟨cbor, macTag, -, -, hframe, hmacTag, hle, -⟩ :=
      loraOutFrame_of_compact hcompact hmac hkind
    have hlen : (cbor ++ macTag).length ≤ LORA_RX_BUFFER_SIZE := by
      rw [List.length_append, hmacTag]
      exact le_trans (Nat.add_le_add_right hle 8) (by decide)
    obtain ⟨data', hparse, hagrees⟩ :=
      loraInParse_loraOutFrame hz hterm hframe
    -- what the node reads is the request that was sent, the key as a string
    cases data' with
    | configSet req' =>
      obtain ⟨hkey', hvalue'⟩ := hagrees
      rw [hcstr] at hkey'
      dsimp only at hkey' hvalue'
      have hstamped : FreshFor n { route with keyId := P.keyId } :=
        ⟨hfresh.listening, hfresh.other, hfresh.unseen, hfresh.addressed⟩
      obtain ⟨n', ackRoute, pub, hrun, hpub, hconfig⟩ :=
        remoteSet_run hstamped hlen hparse tag rssi snr now saveRet ackTag
      rw [← hkey', ← hvalue'] at hconfig hpub
      refine ⟨_, cbor ++ macTag, n', _, pub, hframe, hrun, hpub, hconfig, _, rfl, ?_,
        hvalue'.symm, rfl⟩
      exact (cstr_ackKey (hkey' ▸ hshort)).trans hkey'.symm
    | _ => exact absurd hagrees id

end Exchange

/-- A request of node 2 to node 1 is a new one to a node that has booted. -/
theorem freshFor_boot :
    FreshFor (Node.boot ConfigState.empty : Node Unit) ⟨2, 1, 0, 5, 0⟩ where
  listening := rfl
  other := by decide +kernel
  unseen := by decide +kernel
  addressed := by decide +kernel

/-- Its hop limit can be set over the mesh. -/
theorem remote_equals_local_iff_routingTtl : ∃ req, RemoteEqualsLocal defaultPlatform
    (Node.boot ConfigState.empty : Node Unit) ⟨2, 1, 0, 5, 0⟩ req () (-80) 5 60 ()
    (cstr "ts/routing_ttl") 3 0 :=
  (remote_equals_local_iff Zcbor.lawful_reference Zcbor.compact_reference (fun _ => ⟨_, rfl⟩)
    freshFor_boot (show findKey (keyField (cstr "ts/routing_ttl"))
      = some (configKey .routingTtl 1 255) by decide) 3 0 () (-80) 5 60 ()).mpr (by decide)

/-- **Its stale timeout cannot** under the full name of the key, which
`ts_config_set` knows: whatever request it is sent, it does not answer with
that key. -/
theorem staleTimeout_not_remote :
    (tsConfigSet ConfigState.empty (cstr "ts/routing_table_stale_timeout_s") 1800 0).2 = 0
      ∧ FreshFor (Node.boot ConfigState.empty : Node Unit) ⟨2, 1, 0, 5, 0⟩
      ∧ ∀ req rssi snr now, ¬ RemoteEqualsLocal defaultPlatform
        (Node.boot ConfigState.empty : Node Unit) ⟨2, 1, 0, 5, 0⟩ req () rssi snr now ()
        (cstr "ts/routing_table_stale_timeout_s") 1800 0 := by
  refine ⟨by decide +kernel, freshFor_boot, fun req rssi snr now h => ?_⟩
  obtain ⟨frame, n', ack, pub, -, hrun, hpub, -, a, ha, hakey, -, -⟩ := h
  have hshort := length_of_published hrun hpub ha
  rw [hakey] at hshort
  exact absurd hshort (by decide)

end Terrascope
