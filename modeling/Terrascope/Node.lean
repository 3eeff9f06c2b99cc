import Mathlib.Data.Fintype.Basic
import Terrascope.Contention
import Terrascope.Lora
import Terrascope.OutChannel
import Terrascope.RoutingTable
import Terrascope.Transition

/-!
# A node

One node with its threads: the receive task, the transmit task, the work
queue with the contention handlers and the timers, the heartbeat loop, and
whatever else originates messages. A pass of the receive task over a frame
touches what the other threads touch at separate moments, so it is cut
there: it accepts the frame (`receive`), deals with it locally (`deliver`),
publishes an acknowledgement (`publishAck`) and schedules the forward
(`relay`). Between any two of these the other threads run.

Every message in a node carries a tag of type `τ`, which no code reads: it
is handed in with a frame or at an origination and goes where the message
goes.
-/

namespace Terrascope

open Zephyr

/-- **Where `lora_in_task` is** in its pass over a frame. -/
inductive RxPc (τ : Type) where
  /-- In `lora_recv`. -/
  | listening
  /-- Past `ts_routing_mark_seen` and `ts_routing_table_update`. -/
  | accepted (msg : TsMsgLoraIncoming) (tag : τ)
  /-- On its way to publish an acknowledgement. -/
  | acking (ack : Copy τ)
  /-- Past the local delivery. -/
  | relaying (msg : TsMsgLoraIncoming) (tag : τ)

/-- The message accepted and being dealt with. -/
def RxPc.received {τ : Type} : RxPc τ → Option (Copy τ)
  | .accepted inMsg tag => some ⟨inMsg.msg, tag⟩
  | .relaying inMsg tag => some ⟨inMsg.msg, tag⟩
  | _ => none

/-- **Who originates messages**: `main`'s heartbeat loop, the sensor work, and
any application code that uses `ts_routing_prepare_header` and the outgoing
channel as these two do. -/
inductive Producer where
  | heartbeat
  | sensor
  | application
deriving DecidableEq, Repr

instance : Fintype Producer where
  elems := {.heartbeat, .sensor, .application}
  complete := fun who => by cases who <;> decide

/-- The state of a node. -/
structure Node (τ : Type) where
  config : ConfigState
  routing : RoutingState
  table : NeighborTable
  pool : Pool τ
  rx : RxPc τ
  bus : OutBus (Copy τ)
  /-- The message each producer has prepared and not yet published. -/
  producing : Producer → Option (Copy τ)

/-- What a producer puts into a message. -/
inductive Content where
  | heartbeat (now : UInt32)
  | sensor (now : UInt32) (temperature : Int32) (humidity pressure : UInt32)
  | application (dst : UInt16) (data : TsMsgData)

/-- Whose content it is. -/
def Content.producer : Content → Producer
  | .heartbeat _ => .heartbeat
  | .sensor _ _ _ _ => .sensor
  | .application _ _ => .application

/-- Where it goes. -/
def Content.dst : Content → UInt16
  | .heartbeat _ => TS_ROUTING_BROADCAST_ADDR
  | .sensor _ _ _ _ => TS_ROUTING_BROADCAST_ADDR
  | .application dst _ => dst

/-- The message made of it. -/
def Content.msg (route : TsRouteHeader) : Content → TsMsgLoraOutgoing
  | .heartbeat now => heartbeatMsg route now
  | .sensor now temperature humidity pressure =>
    sensorMsg route now temperature humidity pressure
  | .application _ data => ⟨route, data⟩

/-- **A step of one of the node's threads.** -/
inductive NodeAct (τ : Type) where
  /-- `lora_recv` returns a frame, and the receive task accepts or drops it. -/
  | receive (frame : List UInt8) (tag : τ) (rssi : Int16) (snr : Int8) (now : UInt32)
  /-- The receive task delivers what it accepted; `saveRet` is what
  `settings_save_one` returns if it is called. -/
  | deliver (saveRet : Int32) (ackTag : τ)
  | publishAck
  | relay
  /-- A timer expires, or a contention handler takes a step. -/
  | handler (slot : Fin TS_CONTENTION_POOL_SIZE) (act : HandlerAct)
  /-- A producer prepares a message. -/
  | originate (content : Content) (tag : τ)
  | publishOwn (who : Producer)
  /-- The sensor could not be read, and its message is given up. -/
  | dropOwn
  /-- `lora_out_task` takes its next step. -/
  | outWait
  | outRead
  | outSend
  /-- The aging timer's work. -/
  | age (now : UInt32)

/-- **What a step does that others can see.** -/
inductive NodeEvent (τ : Type) where
  /-- A frame reached `ts_routing_mark_seen`. -/
  | accepted (msg : Copy τ)
  /-- A frame was dropped because `ts_routing_is_duplicate` was true. -/
  | duplicate (msg : Copy τ)
  /-- `ts_routing_table_update` ran for an accepted frame. -/
  | neighbourUpdated (msg : Copy τ)
  /-- `ts_config_set` ran for a request. -/
  | configApplied (msg : Copy τ)
  /-- A message was published on `ts_lora_in_chan`. -/
  | delivered (msg : Copy τ)
  /-- `ts_contention_schedule` stored a forward in the pool. -/
  | scheduled (copy : Copy τ)
  /-- `ts_contention_schedule` found no slot for a forward. -/
  | refused (copy : Copy τ)
  /-- `ts_routing_prepare_header` ran for a new message. -/
  | originated (msg : Copy τ)
  /-- `zbus_chan_pub` was called on `ts_lora_out_chan`; the number is that of
  the publication. -/
  | published (msg : Copy τ) (pub : ℕ)
  /-- A message was serialized, signed and passed to `lora_send`. -/
  | transmitted (msg : Copy τ) (pub : ℕ) (frame : List UInt8)
deriving DecidableEq

namespace Node

variable {τ : Type}

/-- The configuration as its readers see it. -/
def cfg (n : Node τ) : TsConfig := tsConfigGet n.config.live

/-- The node after `main`'s initialisation and `ts_contention_init`, over the
configuration that was loaded. -/
def boot [Inhabited τ] (config : ConfigState) : Node τ where
  config := config
  routing := tsRoutingInit (tsConfigGet config.live).nodeId
  table := tsRoutingTableInit
  pool := tsContentionInit staticPool
  rx := .listening
  bus := OutBus.boot
  producing := fun _ => none

/-! ## The receive task -/

/-- `lora_in_task` over a message whose frame was authentic and readable, up
to `ts_routing_table_update`. -/
def accept (n : Node τ) (msg : TsMsgLoraOutgoing) (tag : τ) (rssi : Int16) (snr : Int8)
    (now : UInt32) : Node τ × List (NodeEvent τ) :=
  if msg.route.src = tsRoutingGetNodeId n.routing then (n, [])
  else if tsRoutingIsDuplicate n.routing msg.route then
    ({ n with pool := (tsContentionCancel n.pool msg.route.src msg.route.msgId).1 },
      [.duplicate ⟨msg, tag⟩])
  else
    ({ n with
        routing := tsRoutingMarkSeen n.routing msg.route
        table := (tsRoutingTableUpdate n.cfg now n.table msg.route.src rssi snr
          msg.route.ttl).1
        rx := .accepted ⟨msg, rssi, snr⟩ tag },
      [.accepted ⟨msg, tag⟩, .neighbourUpdated ⟨msg, tag⟩])

/-- One frame, from `lora_recv` on. -/
def receive (P : Platform) (n : Node τ) (frame : List UInt8) (tag : τ) (rssi : Int16)
    (snr : Int8) (now : UInt32) : Option (Node τ × List (NodeEvent τ)) :=
  match n.rx with
  | .listening =>
    if LORA_RX_BUFFER_SIZE < frame.length then none
    else
      match loraInParse P frame with
      | none => some (n, [])
      | some msg => some (n.accept msg tag rssi snr now)
  | _ => none

/-- The local delivery of an accepted message. -/
def deliver (n : Node τ) (saveRet : Int32) (ackTag : τ) :
    Option (Node τ × List (NodeEvent τ)) :=
  match n.rx with
  | .accepted inMsg tag =>
    if tsRoutingIsForUs n.routing inMsg.msg.route then
      match inMsg.msg.data with
      | .configSet req =>
        let (config, cfgRet) := tsConfigSet n.config req.key.cstr req.value saveRet
        let (routing, route) := tsRoutingPrepareHeader (tsConfigGet config.live) n.routing
          .zero inMsg.msg.route.src
        let ack : Copy τ := ⟨configAckMsg route req cfgRet, ackTag⟩
        some ({ n with config := config, routing := routing, rx := .acking ack },
          [.configApplied ⟨inMsg.msg, tag⟩, .originated ack])
      | _ => some ({ n with rx := .relaying inMsg tag }, [.delivered ⟨inMsg.msg, tag⟩])
    else some ({ n with rx := .relaying inMsg tag }, [])
  | _ => none

/-- The publication of an acknowledgement. -/
def publishAck (n : Node τ) : Option (Node τ × List (NodeEvent τ)) :=
  match n.rx with
  | .acking ack =>
    some ({ n with rx := .listening, bus := (n.bus.publish ack).1 },
      [.published ack (n.bus.chan.pubs + 1)])
  | _ => none

/-- **The forward of a received message**, if it is to be forwarded at all:
configuration messages are not, and neither are those with no hop left. -/
def forwardOf (msg : TsMsgLoraOutgoing) : Option TsMsgLoraOutgoing :=
  if msg.data.isConfig then none
  else
    let (route, ret) := tsRoutingDecrementTtl msg.route
    if ret = 0 ∧ 0 < route.ttl then some { msg with route := route } else none

/-- The end of the pass: the forward is scheduled. -/
def relay (n : Node τ) : Option (Node τ × List (NodeEvent τ)) :=
  match n.rx with
  | .relaying inMsg tag =>
    match forwardOf inMsg.msg with
    | none => some ({ n with rx := .listening }, [])
    | some fwd =>
      let (pool, ret) := tsContentionSchedule n.cfg n.pool ⟨fwd, tag⟩ inMsg.rssi
      some ({ n with pool := pool, rx := .listening },
        [if ret = 0 then .scheduled ⟨fwd, tag⟩ else .refused ⟨fwd, tag⟩])
  | _ => none

/-! ## The other threads -/

/-- A timer or a contention handler. -/
def handler (n : Node τ) (i : Fin TS_CONTENTION_POOL_SIZE) (a : HandlerAct) :
    Option (Node τ × List (NodeEvent τ)) :=
  (n.pool.handle i a).map (fun pool =>
    match (n.pool i).publishes a with
    | some c => ({ n with pool := pool, bus := (n.bus.publish c).1 },
        [.published c (n.bus.chan.pubs + 1)])
    | none => ({ n with pool := pool }, []))

/-- A producer prepares a message. -/
def originate (n : Node τ) (content : Content) (tag : τ) :
    Option (Node τ × List (NodeEvent τ)) :=
  match n.producing content.producer with
  | some _ => none
  | none =>
    let (routing, route) := tsRoutingPrepareHeader n.cfg n.routing .zero content.dst
    let own : Copy τ := ⟨content.msg route, tag⟩
    some ({ n with
        routing := routing
        producing := Function.update n.producing content.producer (some own) },
      [.originated own])

/-- A producer publishes what it has prepared. -/
def publishOwn (n : Node τ) (who : Producer) : Option (Node τ × List (NodeEvent τ)) :=
  match n.producing who with
  | none => none
  | some own =>
    some ({ n with
        producing := Function.update n.producing who none
        bus := (n.bus.publish own).1 },
      [.published own (n.bus.chan.pubs + 1)])

/-- The sensor work returns without publishing. -/
def dropOwn (n : Node τ) : Option (Node τ × List (NodeEvent τ)) :=
  match n.producing .sensor with
  | none => none
  | some _ => some ({ n with producing := Function.update n.producing .sensor none }, [])

/-- `lora_out_task` serializes, signs and sends what it has read. -/
def outSend (P : Platform) (n : Node τ) : Option (Node τ × List (NodeEvent τ)) :=
  n.bus.send.map (fun r =>
    ({ n with bus := r.1 },
      match loraOutFrame P r.2.1.msg with
      | .ok frame => [.transmitted r.2.1 r.2.2 frame]
      | .error _ => []))

/-- **One step of the node, with what it does.** -/
def stepEvents (P : Platform) (n : Node τ) : NodeAct τ → Option (Node τ × List (NodeEvent τ))
  | .receive frame tag rssi snr now => n.receive P frame tag rssi snr now
  | .deliver saveRet ackTag => n.deliver saveRet ackTag
  | .publishAck => n.publishAck
  | .relay => n.relay
  | .handler i a => n.handler i a
  | .originate content tag => n.originate content tag
  | .publishOwn who => n.publishOwn who
  | .dropOwn => n.dropOwn
  | .outWait => n.bus.wait.map (fun bus => ({ n with bus := bus }, []))
  | .outRead => n.bus.read.map (fun bus => ({ n with bus := bus }, []))
  | .outSend => n.outSend P
  | .age now => some ({ n with
      table := (tsRoutingTableAgeSeconds now n.cfg.routingTableStaleTimeoutS n.table).1 }, [])

/-- The node after a step. -/
def step (P : Platform) (n : Node τ) (a : NodeAct τ) : Option (Node τ) :=
  (n.stepEvents P a).map Prod.fst

/-- What the step does. -/
def events (P : Platform) (n : Node τ) (a : NodeAct τ) : List (NodeEvent τ) :=
  (n.stepEvents P a).elim [] Prod.snd

/-- A step and its events come together. -/
theorem step_eq_some {P : Platform} {n n' : Node τ} {a : NodeAct τ}
    (h : n.step P a = some n') : n.stepEvents P a = some (n', n.events P a) := by
  unfold step at h
  unfold events
  obtain ⟨⟨n₁, es⟩, hs, rfl⟩ := Option.map_eq_some_iff.mp h
  rw [hs]
  rfl

/-- The step and what it does, of both together. -/
theorem step_of_stepEvents {P : Platform} {n n' : Node τ} {a : NodeAct τ}
    {es : List (NodeEvent τ)} (h : n.stepEvents P a = some (n', es)) :
    n.step P a = some n' ∧ n.events P a = es := by
  rw [step, events, h]
  exact ⟨rfl, rfl⟩

/-- **What is forwarded**: a message that is not of the configuration kind
and has at least two hops left, with one hop less. -/
theorem forwardOf_eq_some {msg fwd : TsMsgLoraOutgoing} (h : forwardOf msg = some fwd) :
    msg.data.isConfig = false ∧ 2 ≤ msg.route.ttl.toNat
      ∧ fwd = { msg with route := { msg.route with ttl := msg.route.ttl - 1 } }
      ∧ fwd.route.ttl.toNat = msg.route.ttl.toNat - 1 := by
  unfold forwardOf at h
  split at h
  · cases h
  · next hconfig =>
    dsimp only at h
    split at h
    · next hok =>
      obtain ⟨htwo, hroute, hsub⟩ := tsRoutingDecrementTtl_eq hok
      cases h
      rw [hroute]
      exact ⟨Bool.eq_false_iff.mpr hconfig, htwo, rfl, hsub⟩
    · cases h

/-- A message of the node's own is dropped. -/
theorem accept_of_own {n : Node τ} {msg : TsMsgLoraOutgoing}
    (hsrc : msg.route.src = n.routing.selfNodeId) (tag : τ) (rssi : Int16) (snr : Int8)
    (now : UInt32) : n.accept msg tag rssi snr now = (n, []) := if_pos hsrc

/-- A message of another node that is not a duplicate is accepted. -/
theorem accept_of_new {n : Node τ} {msg : TsMsgLoraOutgoing}
    (hsrc : msg.route.src ≠ n.routing.selfNodeId)
    (hdup : tsRoutingIsDuplicate n.routing msg.route = false) (tag : τ) (rssi : Int16)
    (snr : Int8) (now : UInt32) :
    n.accept msg tag rssi snr now
      = ({ n with
          routing := tsRoutingMarkSeen n.routing msg.route
          table := (tsRoutingTableUpdate n.cfg now n.table msg.route.src rssi snr
            msg.route.ttl).1
          rx := .accepted ⟨msg, rssi, snr⟩ tag },
        [.accepted ⟨msg, tag⟩, .neighbourUpdated ⟨msg, tag⟩]) := by
  unfold accept tsRoutingGetNodeId
  rw [if_neg hsrc, if_neg (Bool.eq_false_iff.mp hdup)]

/-- A frame of a message of another node that is not a duplicate. -/
theorem receive_of_new {P : Platform} {n : Node τ} {frame : List UInt8}
    {msg : TsMsgLoraOutgoing} (hrx : n.rx = .listening)
    (hlen : frame.length ≤ LORA_RX_BUFFER_SIZE) (hparse : loraInParse P frame = some msg)
    (hsrc : msg.route.src ≠ n.routing.selfNodeId)
    (hdup : tsRoutingIsDuplicate n.routing msg.route = false) (tag : τ) (rssi : Int16)
    (snr : Int8) (now : UInt32) :
    n.stepEvents P (.receive frame tag rssi snr now)
      = some ({ n with
          routing := tsRoutingMarkSeen n.routing msg.route
          table := (tsRoutingTableUpdate n.cfg now n.table msg.route.src rssi snr
            msg.route.ttl).1
          rx := .accepted ⟨msg, rssi, snr⟩ tag },
        [.accepted ⟨msg, tag⟩, .neighbourUpdated ⟨msg, tag⟩]) := by
  simp only [stepEvents, receive, hrx]
  rw [if_neg (Nat.not_lt.mpr hlen), hparse]
  exact congrArg some (accept_of_new hsrc hdup tag rssi snr now)

/-! ## What a step can do -/

/-- **The steps of a node, case by case**: the state after each and what
others see of it, with everything the code has checked on the way. -/
inductive Step (P : Platform) (n : Node τ) : NodeAct τ → Node τ → List (NodeEvent τ) → Prop
  where
  /-- A frame that is not authentic, not readable or under another key. -/
  | dropped {frame tag rssi snr now} (hrx : n.rx = .listening)
      (hlen : frame.length ≤ LORA_RX_BUFFER_SIZE) (hparse : loraInParse P frame = none) :
      Step P n (.receive frame tag rssi snr now) n []
  /-- A message of this node that comes back. -/
  | ownSource {frame tag rssi snr now msg} (hrx : n.rx = .listening)
      (hlen : frame.length ≤ LORA_RX_BUFFER_SIZE) (hparse : loraInParse P frame = some msg)
      (hsrc : msg.route.src = n.routing.selfNodeId) :
      Step P n (.receive frame tag rssi snr now) n []
  | duplicate {frame tag rssi snr now msg} (hrx : n.rx = .listening)
      (hlen : frame.length ≤ LORA_RX_BUFFER_SIZE) (hparse : loraInParse P frame = some msg)
      (hsrc : msg.route.src ≠ n.routing.selfNodeId)
      (hdup : tsRoutingIsDuplicate n.routing msg.route = true) :
      Step P n (.receive frame tag rssi snr now)
        { n with pool := (tsContentionCancel n.pool msg.route.src msg.route.msgId).1 }
        [.duplicate ⟨msg, tag⟩]
  | accepted {frame tag rssi snr now msg} (hrx : n.rx = .listening)
      (hlen : frame.length ≤ LORA_RX_BUFFER_SIZE) (hparse : loraInParse P frame = some msg)
      (hsrc : msg.route.src ≠ n.routing.selfNodeId)
      (hdup : tsRoutingIsDuplicate n.routing msg.route = false) :
      Step P n (.receive frame tag rssi snr now)
        { n with
          routing := tsRoutingMarkSeen n.routing msg.route
          table := (tsRoutingTableUpdate n.cfg now n.table msg.route.src rssi snr
            msg.route.ttl).1
          rx := .accepted ⟨msg, rssi, snr⟩ tag }
        [.accepted ⟨msg, tag⟩, .neighbourUpdated ⟨msg, tag⟩]
  /-- An accepted message for another node. -/
  | notForUs {saveRet ackTag inMsg tag} (hrx : n.rx = .accepted inMsg tag)
      (hfor : tsRoutingIsForUs n.routing inMsg.msg.route = false) :
      Step P n (.deliver saveRet ackTag) { n with rx := .relaying inMsg tag } []
  /-- A configuration request for this node. -/
  | configured {saveRet ackTag inMsg tag req} (hrx : n.rx = .accepted inMsg tag)
      (hfor : tsRoutingIsForUs n.routing inMsg.msg.route = true)
      (hdata : inMsg.msg.data = .configSet req) (config : ConfigState) (cfgRet : Int32)
      (hset : tsConfigSet n.config req.key.cstr req.value saveRet = (config, cfgRet))
      (route : TsRouteHeader)
      (hroute : route = (tsRoutingPrepareHeader (tsConfigGet config.live) n.routing .zero
        inMsg.msg.route.src).2) :
      Step P n (.deliver saveRet ackTag)
        { n with
          config := config
          routing := { n.routing with nextMsgId := n.routing.nextMsgId + 1 }
          rx := .acking ⟨configAckMsg route req cfgRet, ackTag⟩ }
        [.configApplied ⟨inMsg.msg, tag⟩, .originated ⟨configAckMsg route req cfgRet, ackTag⟩]
  | delivered {saveRet ackTag inMsg tag} (hrx : n.rx = .accepted inMsg tag)
      (hfor : tsRoutingIsForUs n.routing inMsg.msg.route = true)
      (hdata : ∀ req, inMsg.msg.data ≠ .configSet req) :
      Step P n (.deliver saveRet ackTag) { n with rx := .relaying inMsg tag }
        [.delivered ⟨inMsg.msg, tag⟩]
  | ackPublished {ack} (hrx : n.rx = .acking ack) :
      Step P n .publishAck { n with rx := .listening, bus := (n.bus.publish ack).1 }
        [.published ack (n.bus.chan.pubs + 1)]
  /-- A message that is not to be forwarded. -/
  | notRelayed {inMsg tag} (hrx : n.rx = .relaying inMsg tag)
      (hfwd : forwardOf inMsg.msg = none) : Step P n .relay { n with rx := .listening } []
  /-- A forward for which the pool has no slot. -/
  | poolFull {inMsg tag fwd} (hrx : n.rx = .relaying inMsg tag)
      (hfwd : forwardOf inMsg.msg = some fwd) (hfull : ∀ i, (n.pool i).occupied = true) :
      Step P n .relay { n with rx := .listening } [.refused ⟨fwd, tag⟩]
  | relayed {inMsg tag fwd} (hrx : n.rx = .relaying inMsg tag)
      (hfwd : forwardOf inMsg.msg = some fwd) (i : Fin TS_CONTENTION_POOL_SIZE)
      (hfind : findFreeSlot n.pool = some i) (hfree : (n.pool i).occupied = false)
      (work : WorkDelayable (HandlerPc τ))
      (hwork : work = (kWorkSchedule (n.pool i).work
        (tsContentionRssiToDelayMs n.cfg inMsg.rssi)).1) :
      Step P n .relay
        { n with
          pool := Function.update n.pool i
            ⟨work, ⟨fwd, tag⟩, fwd.route.src, fwd.route.msgId, true⟩
          rx := .listening }
        [.scheduled ⟨fwd, tag⟩]
  /-- A timer, or a handler step that publishes nothing. -/
  | handled {i a slot} (hslot : (n.pool i).handle a = some slot)
      (hpub : (n.pool i).publishes a = none) :
      Step P n (.handler i a) { n with pool := Function.update n.pool i slot } []
  | forwardPublished {i} (c : Copy τ) (hrun : (n.pool i).work.running = some (.publishing c)) :
      Step P n (.handler i .publish)
        { n with
          pool := Function.update n.pool i
            { n.pool i with work := (n.pool i).work.resume .done }
          bus := (n.bus.publish c).1 }
        [.published c (n.bus.chan.pubs + 1)]
  | originated {content tag} (hidle : n.producing content.producer = none)
      (route : TsRouteHeader)
      (hroute : route = (tsRoutingPrepareHeader n.cfg n.routing .zero content.dst).2) :
      Step P n (.originate content tag)
        { n with
          routing := { n.routing with nextMsgId := n.routing.nextMsgId + 1 }
          producing := Function.update n.producing content.producer
            (some ⟨content.msg route, tag⟩) }
        [.originated ⟨content.msg route, tag⟩]
  | ownPublished {who} (own : Copy τ) (hown : n.producing who = some own) :
      Step P n (.publishOwn who)
        { n with
          producing := Function.update n.producing who none
          bus := (n.bus.publish own).1 }
        [.published own (n.bus.chan.pubs + 1)]
  | ownDropped (own : Copy τ) (hown : n.producing .sensor = some own) :
      Step P n .dropOwn { n with producing := Function.update n.producing .sensor none } []
  | waited {bus} (hbus : n.bus.wait = some bus) : Step P n .outWait { n with bus := bus } []
  | read {bus} (hbus : n.bus.read = some bus) : Step P n .outRead { n with bus := bus } []
  | sent {bus msg pub frame} (hbus : n.bus.send = some (bus, msg, pub))
      (hframe : loraOutFrame P msg.msg = .ok frame) :
      Step P n .outSend { n with bus := bus } [.transmitted msg pub frame]
  /-- A message that could not be serialized or signed. -/
  | notSent {bus msg pub ret} (hbus : n.bus.send = some (bus, msg, pub))
      (hframe : loraOutFrame P msg.msg = .error ret) : Step P n .outSend { n with bus := bus } []
  | aged {now} :
      Step P n (.age now)
        { n with
          table := (tsRoutingTableAgeSeconds now n.cfg.routingTableStaleTimeoutS n.table).1 } []

section Inversion

variable {P : Platform} {n n' : Node τ} {es : List (NodeEvent τ)}

theorem Step.of_receive {frame : List UInt8} {tag : τ} {rssi : Int16} {snr : Int8}
    {now : UInt32} (h : n.receive P frame tag rssi snr now = some (n', es)) :
    Step P n (.receive frame tag rssi snr now) n' es := by
  unfold receive at h
  split at h
  · next hrx =>
    split at h
    · cases h
    · next hlong =>
      have hlen := Nat.le_of_not_lt hlong
      split at h
      · next hparse =>
        cases h
        exact .dropped hrx hlen hparse
      · next msg hparse =>
        have hacc := Option.some.inj h
        unfold accept at hacc
        split at hacc
        · next hsrc =>
          cases hacc
          exact .ownSource hrx hlen hparse hsrc
        · next hsrc =>
          split at hacc
          · next hdup =>
            cases hacc
            exact .duplicate hrx hlen hparse hsrc hdup
          · next hdup =>
            cases hacc
            exact .accepted hrx hlen hparse hsrc (Bool.eq_false_iff.mpr hdup)
  · cases h

theorem Step.of_deliver {saveRet : Int32} {ackTag : τ}
    (h : n.deliver saveRet ackTag = some (n', es)) : Step P n (.deliver saveRet ackTag) n' es := by
  unfold deliver at h
  split at h
  · next inMsg tag hrx =>
    split at h
    · next hfor =>
      split at h
      · next req hdata =>
        cases h
        exact .configured hrx hfor hdata _ _ rfl _ rfl
      · next hdata =>
        cases h
        exact .delivered hrx hfor hdata
    · next hfor =>
      cases h
      exact .notForUs hrx (Bool.eq_false_iff.mpr hfor)
  · cases h

theorem Step.of_relay (h : n.relay = some (n', es)) : Step P n .relay n' es := by
  unfold relay at h
  split at h
  · next inMsg tag hrx =>
    split at h
    · next hfwd =>
      cases h
      exact .notRelayed hrx hfwd
    · next fwd hfwd =>
      rcases tsContentionSchedule_cases n.cfg n.pool ⟨fwd, tag⟩ inMsg.rssi with
        ⟨-, hfull, heq⟩ | ⟨i, hfind, hfree, heq⟩
      · rw [heq] at h
        dsimp only at h
        rw [if_neg neg_enomem_ne_zero] at h
        cases h
        exact .poolFull hrx hfwd hfull
      · rw [heq] at h
        dsimp only at h
        rw [if_pos rfl] at h
        cases h
        exact .relayed hrx hfwd i hfind hfree _ rfl
  · cases h

theorem Step.of_handler {i : Fin TS_CONTENTION_POOL_SIZE} {a : HandlerAct}
    (h : n.handler i a = some (n', es)) : Step P n (.handler i a) n' es := by
  unfold handler at h
  obtain ⟨pool, hpool, hres⟩ := Option.map_eq_some_iff.mp h
  obtain ⟨slot, hslot, rfl⟩ := Pool.handle_eq_some.mp hpool
  split at hres
  · next c hpub =>
    -- only the publish step passes something on
    obtain ⟨rfl, hrun⟩ := ContentionSlot.publishes_eq_some.mp hpub
    obtain rfl : { n.pool i with work := (n.pool i).work.resume .done } = slot := by
      simpa [ContentionSlot.handle, hrun] using hslot
    cases hres
    exact .forwardPublished c hrun
  · next hpub =>
    cases hres
    exact .handled hslot hpub

/-- **Every step is one of these.** -/
theorem Step.of_stepEvents {a : NodeAct τ} (h : n.stepEvents P a = some (n', es)) :
    Step P n a n' es := by
  cases a with
  | receive frame tag rssi snr now => exact Step.of_receive h
  | deliver saveRet ackTag => exact Step.of_deliver h
  | relay => exact Step.of_relay h
  | handler i a => exact Step.of_handler h
  | publishAck =>
    simp only [stepEvents, publishAck] at h
    split at h
    · next ack hrx =>
      cases h
      exact .ackPublished hrx
    · cases h
  | originate content tag =>
    simp only [stepEvents, originate] at h
    split at h
    · cases h
    · next hidle =>
      cases h
      exact .originated hidle _ rfl
  | publishOwn who =>
    simp only [stepEvents, publishOwn] at h
    split at h
    · cases h
    · next own hown =>
      cases h
      exact .ownPublished own hown
  | dropOwn =>
    simp only [stepEvents, dropOwn] at h
    split at h
    · cases h
    · next own hown =>
      cases h
      exact .ownDropped own hown
  | outWait =>
    obtain ⟨bus, hbus, hres⟩ := Option.map_eq_some_iff.mp h
    cases hres
    exact .waited hbus
  | outRead =>
    obtain ⟨bus, hbus, hres⟩ := Option.map_eq_some_iff.mp h
    cases hres
    exact .read hbus
  | outSend =>
    obtain ⟨⟨bus, msg, pub⟩, hbus, hres⟩ := Option.map_eq_some_iff.mp h
    cases hframe : loraOutFrame P msg.msg with
    | ok frame =>
      simp only [hframe] at hres
      cases hres
      exact .sent hbus hframe
    | error ret =>
      simp only [hframe] at hres
      cases hres
      exact .notSent hbus hframe
  | age now =>
    cases h
    exact .aged

/-- The step relation at a step and its events. -/
theorem Step.of_step {a : NodeAct τ} (h : n.step P a = some n') :
    Step P n a n' (n.events P a) :=
  Step.of_stepEvents (step_eq_some h)

end Inversion

/-! ## What a step takes in -/

/-- The message accepted is a configuration request to this node, so its
delivery will prepare an acknowledgement. -/
def Acknowledges (n : Node τ) : Prop :=
  ∃ inMsg tag req, n.rx = .accepted inMsg tag
    ∧ tsRoutingIsForUs n.routing inMsg.msg.route = true ∧ inMsg.msg.data = .configSet req

section Intake

variable {P : Platform} {n n' : Node τ} {a : NodeAct τ} {es : List (NodeEvent τ)}

/-- A node keeps its id. -/
theorem Step.selfNodeId_eq (h : Step P n a n' es) :
    n'.routing.selfNodeId = n.routing.selfNodeId := by
  cases h <;> rfl

/-- **An accepted message** was read from the frame received, is of another
node and was not recognised. -/
theorem Step.of_accepted_mem (h : Step P n a n' es) {c : Copy τ} (hmem : .accepted c ∈ es) :
    ∃ frame rssi snr now, a = .receive frame c.tag rssi snr now
      ∧ loraInParse P frame = some c.msg ∧ c.msg.route.src ≠ n.routing.selfNodeId
      ∧ n'.routing = tsRoutingMarkSeen n.routing c.msg.route
      ∧ es = [.accepted c, .neighbourUpdated c] := by
  cases h with
  | accepted hrx hlen hparse hsrc hdup =>
    rcases List.mem_cons.mp hmem with heq | hmem
    · cases heq
      exact ⟨_, _, _, _, rfl, hparse, hsrc, rfl, rfl⟩
    · cases List.mem_singleton.mp hmem
  | _ => simp at hmem

/-- The cache changes only by acceptances. -/
theorem Step.seenCache_cases (h : Step P n a n' es) :
    (∃ c, .accepted c ∈ es ∧ n'.routing = tsRoutingMarkSeen n.routing c.msg.route)
      ∨ (n'.routing.seenCache = n.routing.seenCache
        ∧ n'.routing.seenWriteIdx = n.routing.seenWriteIdx
        ∧ n'.routing.seenCount = n.routing.seenCount) := by
  cases h with
  | accepted => exact Or.inl ⟨_, List.mem_cons_self, rfl⟩
  | _ => exact Or.inr ⟨rfl, rfl, rfl⟩

/-- **A message dropped as a duplicate** was read from the frame received, is
of another node and was recognised. -/
theorem Step.of_duplicate_mem (h : Step P n a n' es) {c : Copy τ}
    (hmem : .duplicate c ∈ es) :
    ∃ frame rssi snr now, a = .receive frame c.tag rssi snr now
      ∧ loraInParse P frame = some c.msg ∧ c.msg.route.src ≠ n.routing.selfNodeId
      ∧ tsRoutingIsDuplicate n.routing c.msg.route = true := by
  cases h with
  | duplicate hrx hlen hparse hsrc hdup =>
    cases List.mem_singleton.mp hmem
    exact ⟨_, _, _, _, rfl, hparse, hsrc, hdup⟩
  | _ => simp at hmem

/-- **An originated message** has the node's id and its next message id. -/
theorem Step.of_originated_mem (h : Step P n a n' es) {c : Copy τ}
    (hmem : .originated c ∈ es) :
    ((∃ content, a = .originate content c.tag ∧ n.producing content.producer = none)
        ∨ ∃ saveRet, a = .deliver saveRet c.tag ∧ n.Acknowledges)
      ∧ c.msg.route.id = (n.routing.selfNodeId, n.routing.nextMsgId)
      ∧ (es = [.originated c] ∨ ∃ req, es = [.configApplied req, .originated c]) := by
  cases h with
  | originated hidle route hroute =>
    cases List.mem_singleton.mp hmem
    refine ⟨Or.inl ⟨_, rfl, hidle⟩, ?_, Or.inl rfl⟩
    rw [hroute]
    cases ‹Content› <;> rfl
  | configured hrx hfor hdata config cfgRet hset route hroute =>
    rcases List.mem_cons.mp hmem with heq | hmem
    · cases heq
    · cases List.mem_singleton.mp hmem
      refine ⟨Or.inr ⟨_, rfl, _, _, _, hrx, hfor, hdata⟩, ?_, Or.inr ⟨_, rfl⟩⟩
      rw [hroute]
      rfl
  | _ => simp at hmem

/-- **The message id counts the originations.** -/
theorem Step.nextMsgId_cases (h : Step P n a n' es) :
    (∃ c, .originated c ∈ es ∧ n'.routing.nextMsgId = n.routing.nextMsgId + 1)
      ∨ ((∀ c, .originated c ∉ es) ∧ n'.routing.nextMsgId = n.routing.nextMsgId) := by
  cases h with
  | originated => exact Or.inl ⟨_, List.mem_cons_self, rfl⟩
  | configured => exact Or.inl ⟨_, List.mem_cons_of_mem _ List.mem_cons_self, rfl⟩
  | _ => exact Or.inr ⟨by simp, rfl⟩

end Intake

end Node

end Terrascope
