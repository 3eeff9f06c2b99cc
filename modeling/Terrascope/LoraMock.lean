import Terrascope.MsgQueue
import Terrascope.NodeFlow
import Terrascope.Unheard

/-!
# The mock radio

The driver of the emulated build, `lora_mock.c`. What it is asked to send goes
into a queue of four packets, and what it receives comes out of it: the node
hears itself. A packet stores its length in eight bits, so the one length a
frame buffer allows and eight bits do not, 256, is stored as none.

`radio_fifo` says what the radio does with a sequence of calls: what was
received is what was queued, once each and in order. `loopback_hears_nobody`
says what that amounts to for a node on this radio: it drops everything it
hears, as it comes from itself, and whatever the node does, nothing of the
mesh – acceptance, relaying, neighbours, remote configuration – is ever
exercised.
-/

namespace Terrascope

open Node Transition Zephyr

namespace Errno

def EAGAIN : Int32 := 11
def EMSGSIZE : Int32 := 122

end Errno

/-! ## The driver -/

/-- `MOCK_LOOPBACK_BUF_SIZE`. -/
abbrev MOCK_LOOPBACK_BUF_SIZE : ℕ := 256

/-- `MOCK_LOOPBACK_QUEUE_DEPTH`. -/
abbrev MOCK_LOOPBACK_QUEUE_DEPTH : ℕ := 4

/-- `struct lora_mock_packet`. -/
structure LoraMockPacket where
  data : Vector UInt8 MOCK_LOOPBACK_BUF_SIZE
  len : UInt8

/-- `struct lora_mock_data`. -/
structure LoraMockData where
  config : Option LoraModemConfig
  configured : Bool
  rxMsgq : MsgQueue LoraMockPacket MOCK_LOOPBACK_QUEUE_DEPTH

/-- `lora_mock_init`, over the zeros of static storage. -/
def loraMockInit : LoraMockData := ⟨none, false, kMsgqInit⟩

/-- `lora_mock_config`. -/
def loraMockConfig (d : LoraMockData) (config : LoraModemConfig) : LoraMockData × Int32 :=
  ({ d with config := some config, configured := true }, 0)

/-- The packet of some bytes: a zeroed buffer with the bytes in front, and
their number in eight bits. -/
def LoraMockPacket.ofBytes (data : List UInt8) : LoraMockPacket :=
  ⟨Vector.ofFn (fun i => data.getD i 0), UInt8.ofNat data.length⟩

/-- `lora_mock_send`: a packet that finds the queue full is dropped, and the
caller is told the same. -/
def loraMockSend (d : LoraMockData) (data : List UInt8) : LoraMockData × Int32 :=
  if MOCK_LOOPBACK_BUF_SIZE < data.length then (d, -Errno.EMSGSIZE)
  else
    match kMsgqPut d.rxMsgq (LoraMockPacket.ofBytes data) with
    | none => (d, 0)
    | some q => ({ d with rxMsgq := q }, 0)

/-- What a packet is read as. -/
def LoraMockPacket.bytes (pkt : LoraMockPacket) : List UInt8 := pkt.data.toList.take pkt.len.toNat

/-- `lora_mock_recv`: the bytes received with their RSSI and SNR, or the error
returned. A packet that does not fit the buffer is gone all the same. -/
def loraMockRecv (d : LoraMockData) (size : UInt8) :
    LoraMockData × Except Int32 (List UInt8 × Int16 × Int8) :=
  match kMsgqGet d.rxMsgq with
  | none => (d, .error (-Errno.EAGAIN))
  | some (pkt, q) =>
    if size < pkt.len then ({ d with rxMsgq := q }, .error (-Errno.ENOMEM))
    else ({ d with rxMsgq := q }, .ok (pkt.bytes, -42, 10))

/-- **What comes back of a frame**: itself, unless it fills the buffer. -/
theorem bytes_ofBytes {data : List UInt8} (h : data.length ≤ MOCK_LOOPBACK_BUF_SIZE) :
    (LoraMockPacket.ofBytes data).bytes
      = if data.length = MOCK_LOOPBACK_BUF_SIZE then [] else data := by
  unfold LoraMockPacket.bytes LoraMockPacket.ofBytes
  rw [Vector.toList_ofFn, UInt8.toNat_ofNat']
  split
  · next hfull =>
    rw [hfull]
    rfl
  · next hfull =>
    have hmod : data.length % 2 ^ 8 = data.length := Nat.mod_eq_of_lt (lt_of_le_of_ne h hfull)
    rw [hmod]
    refine List.ext_getElem ?_ (fun i h₁ h₂ => ?_)
    · rw [List.length_take, List.length_ofFn]
      exact Nat.min_eq_left h
    · rw [List.getElem_take, List.getElem_ofFn]
      show data.getD i 0 = _
      rw [List.getD_eq_getElem?_getD, List.getElem?_eq_getElem h₂, Option.getD_some]

/-! ## A sequence of calls -/

/-- A call of the driver by the LoRa threads: `lora_in_task` receives into a
buffer of `LORA_RX_BUFFER_SIZE` bytes. -/
inductive RadioCall where
  | config (config : LoraModemConfig)
  | send (data : List UInt8)
  | recv

/-- **What comes of a call.** -/
inductive RadioEvent where
  | configured (config : LoraModemConfig)
  | queued (data : List UInt8)
  /-- The queue was full. -/
  | dropped (data : List UInt8)
  /-- The frame was longer than a packet. -/
  | refused (data : List UInt8)
  | received (data : List UInt8)
  /-- Nothing was received until the timeout. -/
  | timedOut
  /-- What was received was longer than the buffer. -/
  | overrun
deriving DecidableEq

/-- The driver after a call. -/
def radioStep (d : LoraMockData) : RadioCall → Option LoraMockData
  | .config config => some (loraMockConfig d config).1
  | .send data => some (loraMockSend d data).1
  | .recv => some (loraMockRecv d (UInt8.ofNat LORA_RX_BUFFER_SIZE)).1

/-- What comes of it. -/
def radioEvents (d : LoraMockData) : RadioCall → List RadioEvent
  | .config config => [.configured config]
  | .send data =>
    if MOCK_LOOPBACK_BUF_SIZE < data.length then [.refused data]
    else if (kMsgqPut d.rxMsgq (LoraMockPacket.ofBytes data)).isSome then [.queued data]
    else [.dropped data]
  | .recv =>
    match (loraMockRecv d (UInt8.ofNat LORA_RX_BUFFER_SIZE)).2 with
    | .ok (data, _, _) => [.received data]
    | .error ret => if ret = -Errno.EAGAIN then [.timedOut] else [.overrun]

/-- The frame queued. -/
def RadioEvent.put : RadioEvent → Option (List UInt8)
  | .queued data => some data
  | _ => none

/-- The bytes received. -/
def RadioEvent.got : RadioEvent → Option (List UInt8)
  | .received data => some data
  | _ => none

/-- The configuration taken over. -/
def RadioEvent.modem : RadioEvent → Option LoraModemConfig
  | .configured config => some config
  | _ => none

/-- A buffer of `LORA_RX_BUFFER_SIZE` bytes takes every packet. -/
theorem not_rx_buffer_lt (len : UInt8) : ¬ UInt8.ofNat LORA_RX_BUFFER_SIZE < len := by
  rw [UInt8.lt_iff_toNat_lt, Nat.not_lt]
  exact Nat.le_of_lt_succ len.toNat_lt

/-- **What a reception does**, of a full-size buffer: nothing where the queue
is empty, and otherwise the oldest packet is received. -/
theorem loraMockRecv_cases (d : LoraMockData) :
    (kMsgqGet d.rxMsgq = none
        ∧ loraMockRecv d (UInt8.ofNat LORA_RX_BUFFER_SIZE) = (d, .error (-Errno.EAGAIN)))
      ∨ ∃ pkt q, kMsgqGet d.rxMsgq = some (pkt, q)
        ∧ loraMockRecv d (UInt8.ofNat LORA_RX_BUFFER_SIZE)
          = ({ d with rxMsgq := q }, .ok (pkt.bytes, -42, 10)) := by
  unfold loraMockRecv
  cases hget : kMsgqGet d.rxMsgq with
  | none => exact Or.inl ⟨rfl, rfl⟩
  | some r =>
    obtain ⟨pkt, q⟩ := r
    refine Or.inr ⟨pkt, q, rfl, ?_⟩
    dsimp only
    rw [if_neg (not_rx_buffer_lt pkt.len)]

/-- **The radio and its past**: the packets of what was queued are those of what
was received and those in the queue. What was queued fits a packet, no packet is too
long for the buffer, and the configuration is the last one taken over. -/
structure RadioHistory (d : LoraMockData) (es : List RadioEvent) : Prop where
  fifo : ∃ got, Fifo d.rxMsgq ((es.filterMap RadioEvent.put).map LoraMockPacket.ofBytes) got
    ∧ es.filterMap RadioEvent.got = got.map LoraMockPacket.bytes
  fits : ∀ data ∈ es.filterMap RadioEvent.put, data.length ≤ MOCK_LOOPBACK_BUF_SIZE
  overrun : RadioEvent.overrun ∉ es
  modem : d.config = (es.filterMap RadioEvent.modem).getLast?

/-- An event that is not of a kind adds nothing to those of the kind. -/
theorem filterMap_concat_of_none {α : Type} {f : RadioEvent → Option α} {e : RadioEvent}
    (h : f e = none) (es : List RadioEvent) : (es ++ [e]).filterMap f = es.filterMap f := by
  rw [List.filterMap_append, List.filterMap_cons_none h, List.filterMap_nil, List.append_nil]

/-- The radio is configured. -/
theorem RadioHistory.configured {d : LoraMockData} {es : List RadioEvent} (h : RadioHistory d es)
    (config : LoraModemConfig) :
    RadioHistory (loraMockConfig d config).1 (es ++ [.configured config]) := by
  refine ⟨?_, ?_, ?_, ?_⟩
  · rw [filterMap_concat_of_none rfl, filterMap_concat_of_none rfl]
    exact h.fifo
  · rw [filterMap_concat_of_none rfl]
    exact h.fits
  · simpa using h.overrun
  · have hmodem : (es ++ [RadioEvent.configured config]).filterMap RadioEvent.modem
        = es.filterMap RadioEvent.modem ++ [config] := List.filterMap_append
    rw [hmodem, List.getLast?_concat]
    rfl

/-- A call of which nothing is queued or received. -/
theorem RadioHistory.idle {d : LoraMockData} {es : List RadioEvent} (h : RadioHistory d es)
    {e : RadioEvent} (hput : e.put = none) (hgot : e.got = none) (hmodem : e.modem = none)
    (he : e ≠ .overrun) : RadioHistory d (es ++ [e]) := by
  refine ⟨?_, ?_, ?_, ?_⟩
  · rw [filterMap_concat_of_none hput, filterMap_concat_of_none hgot]
    exact h.fifo
  · rw [filterMap_concat_of_none hput]
    exact h.fits
  · rw [List.mem_append, List.mem_singleton, not_or]
    exact ⟨h.overrun, he.symm⟩
  · rw [filterMap_concat_of_none hmodem]
    exact h.modem

/-- A frame queued. -/
theorem RadioHistory.queued {d : LoraMockData} {es : List RadioEvent} (h : RadioHistory d es)
    {data : List UInt8} (hfits : data.length ≤ MOCK_LOOPBACK_BUF_SIZE)
    {q : MsgQueue LoraMockPacket MOCK_LOOPBACK_QUEUE_DEPTH}
    (hput : kMsgqPut d.rxMsgq (LoraMockPacket.ofBytes data) = some q) :
    RadioHistory { d with rxMsgq := q } (es ++ [.queued data]) := by
  obtain ⟨got, hfifo, hgot⟩ := h.fifo
  have hputs : (es ++ [RadioEvent.queued data]).filterMap RadioEvent.put
      = es.filterMap RadioEvent.put ++ [data] := List.filterMap_append
  refine ⟨⟨got, ?_, ?_⟩, ?_, ?_, ?_⟩
  · rw [hputs, List.map_append]
    exact hfifo.put hput
  · rw [filterMap_concat_of_none rfl, hgot]
  · rw [hputs]
    intro data' hmem
    rcases List.mem_append.mp hmem with hmem | hmem
    · exact h.fits data' hmem
    · rw [List.mem_singleton.mp hmem]
      exact hfits
  · simpa using h.overrun
  · rw [filterMap_concat_of_none rfl]
    exact h.modem

/-- A packet received. -/
theorem RadioHistory.received {d : LoraMockData} {es : List RadioEvent} (h : RadioHistory d es)
    {pkt : LoraMockPacket} {q : MsgQueue LoraMockPacket MOCK_LOOPBACK_QUEUE_DEPTH}
    (hget : kMsgqGet d.rxMsgq = some (pkt, q)) :
    RadioHistory { d with rxMsgq := q } (es ++ [.received pkt.bytes]) := by
  obtain ⟨got, hfifo, hgot⟩ := h.fifo
  refine ⟨⟨got ++ [pkt], ?_, ?_⟩, ?_, ?_, ?_⟩
  · rw [filterMap_concat_of_none rfl]
    exact hfifo.get hget
  · rw [List.filterMap_append, hgot, List.map_append]
    rfl
  · rw [filterMap_concat_of_none rfl]
    exact h.fits
  · simpa using h.overrun
  · rw [filterMap_concat_of_none rfl]
    exact h.modem

/-- **One call.** -/
theorem RadioHistory.step {d d' : LoraMockData} {es : List RadioEvent} {a : RadioCall}
    (h : RadioHistory d es) (hs : radioStep d a = some d') :
    RadioHistory d' (es ++ radioEvents d a) := by
  cases a with
  | config config =>
    cases hs
    exact h.configured config
  | send data =>
    cases hs
    by_cases hlong : MOCK_LOOPBACK_BUF_SIZE < data.length
    · simp only [loraMockSend, radioEvents, if_pos hlong]
      exact h.idle rfl rfl rfl (fun h => nomatch h)
    · simp only [loraMockSend, radioEvents, if_neg hlong]
      cases hput : kMsgqPut d.rxMsgq (LoraMockPacket.ofBytes data) with
      | none => exact h.idle rfl rfl rfl (fun h => nomatch h)
      | some q => exact h.queued (Nat.le_of_not_lt hlong) hput
  | recv =>
    cases hs
    rcases loraMockRecv_cases d with ⟨-, heq⟩ | ⟨pkt, q, hget, heq⟩
    · simp only [radioEvents, heq, if_true]
      exact h.idle rfl rfl rfl (fun h => nomatch h)
    · simp only [radioEvents, heq]
      exact h.received hget

/-- **A node with the mock radio for its device.** -/
structure Loopback where
  node : Node Unit
  radio : LoraMockData

/-- **A step**: `lora_recv` returns, or one of the node's threads takes a step
of its own. -/
inductive LoopbackAct where
  | recv (now : UInt32)
  | act (a : NodeAct Unit)

namespace Loopback

/-- After boot, with nothing sent. -/
def boot (config : ConfigState) : Loopback := ⟨Node.boot config, loraMockInit⟩

/-- What a step of the node hands to the radio. -/
def transmit (d : LoraMockData) (es : List (NodeEvent Unit)) : LoraMockData :=
  es.foldl (fun d e => match e with
    | .transmitted _ _ frame => (loraMockSend d frame).1
    | _ => d) d

/-- One step with what it does. The one way to receive is off the radio. -/
def stepEvents (P : Platform) (s : Loopback) :
    LoopbackAct → Option (Loopback × List (NodeEvent Unit))
  | .recv now =>
    match s.node.rx, loraMockRecv s.radio (UInt8.ofNat LORA_RX_BUFFER_SIZE) with
    | .listening, (radio, .ok (frame, rssi, snr)) =>
      (s.node.stepEvents P (.receive frame () rssi snr now)).map (fun r => (⟨r.1, radio⟩, r.2))
    | .listening, (radio, .error _) => some ({ s with radio := radio }, [])
    | _, _ => none
  | .act (.receive _ _ _ _ _) => none
  | .act a => (s.node.stepEvents P a).map (fun r => (⟨r.1, transmit s.radio r.2⟩, r.2))

def step (P : Platform) (s : Loopback) (a : LoopbackAct) : Option Loopback :=
  (s.stepEvents P a).map Prod.fst

def events (P : Platform) (s : Loopback) (a : LoopbackAct) : List (NodeEvent Unit) :=
  (s.stepEvents P a).elim [] Prod.snd

end Loopback

/-- **What is in the packet comes from the node**, if it can be read at all. -/
def LoraMockPacket.From (P : Platform) (src : UInt16) (pkt : LoraMockPacket) : Prop :=
  ∀ msg, loraInParse P pkt.bytes = some msg → msg.route.src = src

/-- **The node hears nobody but itself**: so does everything on its way out
and in the radio come from it. -/
structure HearsItself (P : Platform) (loaded : ConfigState) (s : Loopback) : Prop where
  unheard : s.node.Unheard loaded
  carries : s.node.Carries (fun _ => False)
    (fun c => c.msg.route.src = s.node.routing.selfNodeId)
    (fun c _ => c.msg.route.src = s.node.routing.selfNodeId)
  radio : ∀ pkt ∈ s.radio.rxMsgq.items, pkt.From P s.node.routing.selfNodeId

theorem hearsItself_boot (P : Platform) (config : ConfigState) :
    HearsItself P config (Loopback.boot config) where
  unheard := Node.unheard_boot config
  carries := Node.carries_boot config
  radio := fun _ h => absurd h List.not_mem_nil

/-- **A frame of the node's own** comes back as a packet of its own, if it
finds room. -/
theorem from_loraMockSend {P : Platform} (hz : P.zcbor.Lawful) {d : LoraMockData} {src : UInt16}
    (h : ∀ pkt ∈ d.rxMsgq.items, pkt.From P src) {msg : TsMsgLoraOutgoing}
    (hsrc : msg.route.src = src) {frame : List UInt8} (hframe : loraOutFrame P msg = .ok frame) :
    ∀ pkt ∈ (loraMockSend d frame).1.rxMsgq.items, pkt.From P src := by
  unfold loraMockSend
  split
  · exact h
  · next hlong =>
    have hfits := Nat.le_of_not_lt hlong
    split
    · exact h
    · next q hput =>
      intro pkt hpkt
      rw [kMsgqPut_eq_some hput] at hpkt
      rcases List.mem_append.mp hpkt with hpkt | hpkt
      · exact h pkt hpkt
      · intro msg' hparse
        rw [List.mem_singleton.mp hpkt, bytes_ofBytes hfits] at hparse
        split at hparse
        · cases hparse
        · obtain ⟨hroute, -⟩ := agrees_of_loraInParse hz rfl hframe hparse
          rw [hroute]
          exact hsrc

/-- What a step transmits keeps the radio's packets the node's own. -/
theorem from_transmit {P : Platform} (hz : P.zcbor.Lawful) {src : UInt16}
    {es : List (NodeEvent Unit)} (hes : ∀ c pub frame, .transmitted c pub frame ∈ es →
      c.msg.route.src = src ∧ loraOutFrame P c.msg = .ok frame) {d : LoraMockData}
    (h : ∀ pkt ∈ d.rxMsgq.items, pkt.From P src) :
    ∀ pkt ∈ (Loopback.transmit d es).rxMsgq.items, pkt.From P src := by
  induction es generalizing d with
  | nil => exact h
  | cons e es ih =>
    refine ih (fun c pub frame hmem => hes c pub frame (List.mem_cons_of_mem e hmem)) ?_
    cases e with
    | transmitted c pub frame =>
      obtain ⟨hsrc, hframe⟩ := hes c pub frame List.mem_cons_self
      exact from_loraMockSend hz h hsrc hframe
    | _ => exact h

/-- **A step of the node's own** keeps it hearing nobody but itself. -/
theorem HearsItself.act {P : Platform} (hz : P.zcbor.Lawful) {loaded : ConfigState} {s : Loopback}
    (h : HearsItself P loaded s) {a : NodeAct Unit} {n' : Node Unit} {es : List (NodeEvent Unit)}
    (hs : Step P s.node a n' es)
    (ha : ∀ frame tag rssi snr now, a ≠ .receive frame tag rssi snr now) :
    HearsItself P loaded ⟨n', Loopback.transmit s.radio es⟩ ∧ ∀ e ∈ es, e.isOwn = true := by
  have hnone : ∀ c, .accepted c ∉ es := fun c hc => by
    obtain ⟨frame, rssi, snr, now, hact, -⟩ := hs.of_accepted_mem hc
    exact ha _ _ _ _ _ hact
  obtain ⟨hunheard, hown⟩ := h.unheard.step hs hnone
  have hself := hs.selfNodeId_eq
  have hcarries := h.carries.step hs (fun c hc => hnone c hc)
    (fun c hc => congrArg Prod.fst (hs.of_originated_mem hc).2.1)
    (fun _ _ _ hc _ => hc.elim) (fun _ _ hc _ => hc)
  rw [← hself] at hcarries
  refine ⟨⟨hunheard, hcarries, ?_⟩, hown⟩
  rw [hself]
  exact from_transmit hz (fun c pub frame hc => h.carries.transmitted hs hc) h.radio

/-- **A reception** does so, too: what comes off the radio is its own, and
dropped. -/
theorem HearsItself.recv {P : Platform} {loaded : ConfigState} {s : Loopback}
    (h : HearsItself P loaded s) {now : UInt32} {s' : Loopback} {es : List (NodeEvent Unit)}
    (hs : s.stepEvents P (.recv now) = some (s', es)) : HearsItself P loaded s' ∧ es = [] := by
  unfold Loopback.stepEvents at hs
  rcases loraMockRecv_cases s.radio with ⟨-, heq⟩ | ⟨pkt, q, hget, heq⟩
  · rw [h.unheard.fresh.listening, heq] at hs
    cases hs
    exact ⟨h, rfl⟩
  · rw [h.unheard.fresh.listening, heq] at hs
    obtain ⟨⟨n', es'⟩, hstep, hres⟩ := Option.map_eq_some_iff.mp hs
    cases hres
    have hitems := kMsgqGet_eq_some hget
    have hfrom : pkt.From P s.node.routing.selfNodeId :=
      h.radio pkt (by rw [hitems]; exact List.mem_cons_self)
    have hrest : ∀ pkt' ∈ q.items, pkt'.From P s.node.routing.selfNodeId := fun pkt' hpkt =>
      h.radio pkt' (by rw [hitems]; exact List.mem_cons_of_mem pkt hpkt)
    cases Step.of_stepEvents hstep with
    | dropped | ownSource => exact ⟨⟨h.unheard, h.carries, hrest⟩, rfl⟩
    | duplicate hrx hlen hparse hsrc | accepted hrx hlen hparse hsrc =>
      exact absurd (hfrom _ hparse) hsrc

/-- **On the mock radio a node hears nobody.** In every run of a node whose
radio is the mock driver, whatever the node originates, publishes and sends
and whatever comes back: no frame is accepted or taken for a duplicate,
nothing is delivered, relayed or applied, and configuration, contention pool,
neighbour table and duplicate cache are as they were after boot. -/
theorem loopback_hears_nobody {P : Platform} (hz : P.zcbor.Lawful) {loaded : ConfigState}
    {acts : List LoopbackAct} {s : Loopback}
    (hrun : run (Loopback.step P) (Loopback.boot loaded) acts = some s) :
    s.node.config = loaded ∧ s.node.pool = tsContentionInit staticPool
      ∧ tsRoutingTableCount s.node.table = 0
      ∧ (∀ id, ¬ Recognised s.node.routing id)
      ∧ ∀ e ∈ trace (Loopback.step P) (Loopback.events P) (Loopback.boot loaded) acts,
        e.isOwn = true := by
  have hstep : ∀ s es a s', (HearsItself P loaded s ∧ ∀ e ∈ es, e.isOwn = true) →
      Loopback.step P s a = some s' →
      HearsItself P loaded s' ∧ ∀ e ∈ es ++ Loopback.events P s a, e.isOwn = true := by
    rintro s es a s' ⟨h, hes⟩ hs
    obtain ⟨⟨s₁, new⟩, hboth, rfl⟩ := Option.map_eq_some_iff.mp hs
    have hnew : Loopback.events P s a = new := by rw [Loopback.events, hboth]; rfl
    rw [hnew]
    have hresult : HearsItself P loaded s₁ ∧ ∀ e ∈ new, e.isOwn = true := by
      cases a with
      | recv now =>
        obtain ⟨h', rfl⟩ := h.recv hboth
        exact ⟨h', fun e he => absurd he List.not_mem_nil⟩
      | act a =>
        unfold Loopback.stepEvents at hboth
        split at hboth
        · cases ‹LoopbackAct.act a = _›
        · cases hboth
        · next a' hreceive heq =>
          cases heq
          obtain ⟨⟨n', es'⟩, hnode, hres⟩ := Option.map_eq_some_iff.mp hboth
          cases hres
          have hs' := Step.of_stepEvents hnode
          have ha : ∀ frame tag rssi snr now, a ≠ .receive frame tag rssi snr now := by
            rintro frame tag rssi snr now rfl
            exact hreceive frame tag rssi snr now rfl
          exact h.act hz hs' ha
    refine ⟨hresult.1, fun e he => ?_⟩
    rcases List.mem_append.mp he with he | he
    · exact hes e he
    · exact hresult.2 e he
  have hboot : HearsItself P loaded (Loopback.boot loaded)
      ∧ ∀ e ∈ ([] : List (NodeEvent Unit)), e.isOwn = true :=
    ⟨hearsItself_boot P loaded, fun e he => absurd he List.not_mem_nil⟩
  obtain ⟨h, hes⟩ := run_history
    (J := fun s (es : List (NodeEvent Unit)) => HearsItself P loaded s ∧ ∀ e ∈ es, e.isOwn = true)
    hstep hboot hrun
  exact ⟨h.unheard.config, h.unheard.pool, tsRoutingTableCount_eq_zero h.unheard.fresh.table,
    h.unheard.not_recognised, hes⟩

/-- A node sends a heartbeat and receives it. -/
def hearsItself : List LoopbackAct :=
  [.act (.originate (.heartbeat 60) ()), .act (.publishOwn .heartbeat), .act .outWait,
    .act .outRead, .act .outSend, .recv 61]

/-- It has heard nobody by that. -/
theorem loopback_hears_nobody_heartbeat : ∃ s,
    run (Loopback.step defaultPlatform) (Loopback.boot ConfigState.empty) hearsItself = some s
      ∧ s.radio.rxMsgq.items.length = 0 ∧ tsRoutingTableCount s.node.table = 0
      ∧ ∀ e ∈ trace (Loopback.step defaultPlatform) (Loopback.events defaultPlatform)
          (Loopback.boot ConfigState.empty) hearsItself, e.isOwn = true := by
  have heval : (run (Loopback.step defaultPlatform) (Loopback.boot ConfigState.empty)
      hearsItself).map (fun s => s.radio.rxMsgq.items.length) = some 0 := by decide +kernel
  obtain ⟨s, hrun, hempty⟩ := Option.map_eq_some_iff.mp heval
  obtain ⟨-, -, hcount, -, hown⟩ := loopback_hears_nobody Zcbor.lawful_reference hrun
  exact ⟨s, hrun, hempty, hcount, hown⟩

end Terrascope
