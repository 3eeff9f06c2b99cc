import Terrascope.Mesh

/-!
# A forward on its way out of a node

A node at rest gets a forward out: it schedules it, the delay passes if there
is one, the handler run claims and publishes it, and the transmit task reads
and sends it. Each of these is a run of its own here, with what it does, and
`exists_runsTo_relayPass` puts them one after another.

Nothing else has to happen meanwhile, so these are runs that exist, not all
there are.
-/

namespace Terrascope

open Node Transition Zephyr SlotArray

variable {τ : Type}

/-! ## A node at rest -/

/-- **The outgoing bus is at rest**: nothing is announced, and the transmit
task waits. -/
structure OutBus.Idle {μ : Type} (b : OutBus μ) : Prop where
  task : b.task = .waiting
  queue : b.chan.queue = []

/-- **A node at rest**: it listens, its outgoing bus is at rest, and the slot
that a forward would take has nothing left of an earlier one. -/
structure Node.Idle (n : Node τ) : Prop where
  rx : n.rx = .listening
  bus : n.bus.Idle
  slot : ∃ i, findFreeSlot n.pool = some i ∧ (n.pool i).work = kWorkInitDelayable

namespace Node

variable {P : Platform} {n n' : Node τ}

/-- The node with another content of one slot. -/
def withSlot (n : Node τ) (i : Fin TS_CONTENTION_POOL_SIZE) (slot : ContentionSlot τ) : Node τ :=
  { n with pool := Function.update n.pool i slot }

@[simp] theorem withSlot_pool_self (n : Node τ) (i : Fin TS_CONTENTION_POOL_SIZE)
    (slot : ContentionSlot τ) : (n.withSlot i slot).pool i = slot := Function.update_self _ _ _

@[simp] theorem withSlot_withSlot (n : Node τ) (i : Fin TS_CONTENTION_POOL_SIZE)
    (slot slot' : ContentionSlot τ) : (n.withSlot i slot).withSlot i slot' = n.withSlot i slot' := by
  unfold withSlot
  rw [Function.update_idem]

/-- The node with another state of its outgoing bus. -/
def withBus (n : Node τ) (b : OutBus (Copy τ)) : Node τ := { n with bus := b }

theorem withBus_withSlot (n : Node τ) (b : OutBus (Copy τ)) (i : Fin TS_CONTENTION_POOL_SIZE)
    (slot : ContentionSlot τ) : (n.withBus b).withSlot i slot = (n.withSlot i slot).withBus b := rfl

/-- A step and what it does, before a run. -/
theorem runsTo_cons {n₁ : Node τ} {a : NodeAct τ} {as : List (NodeAct τ)}
    {es es' : List (NodeEvent τ)} (hstep : n.stepEvents P a = some (n₁, es))
    (h : RunsTo (Node.step P) (Node.events P) n₁ as n' es') :
    RunsTo (Node.step P) (Node.events P) n (a :: as) n' (es ++ es') := by
  obtain ⟨hs, rfl⟩ := step_of_stepEvents hstep
  exact h.cons hs

/-- **What is announced goes out**: the transmit task's pass over the one
message announced. -/
theorem runsTo_outPass {c : Copy τ} {pubs : ℕ} {frame : List UInt8}
    (hbus : n.bus = ⟨⟨c, [.loraOut], pubs⟩, .waiting⟩) (hframe : loraOutFrame P c.msg = .ok frame) :
    RunsTo (Node.step P) (Node.events P) n [.outWait, .outRead, .outSend]
      (n.withBus ⟨⟨c, [], pubs⟩, .waiting⟩) [.transmitted c pubs frame] := by
  have hwait : n.stepEvents P .outWait
      = some (n.withBus ⟨⟨c, [], pubs⟩, .notified .loraOut⟩, []) := by
    simp only [stepEvents, hbus]
    rfl
  have hread : (n.withBus ⟨⟨c, [], pubs⟩, .notified .loraOut⟩).stepEvents P .outRead
      = some (n.withBus ⟨⟨c, [], pubs⟩, .sending c pubs⟩, []) := rfl
  have hsend : (n.withBus ⟨⟨c, [], pubs⟩, .sending c pubs⟩).stepEvents P .outSend
      = some (n.withBus ⟨⟨c, [], pubs⟩, .waiting⟩, [.transmitted c pubs frame]) := by
    simp only [stepEvents, outSend, OutBus.send, withBus, Option.map_some, hframe]
  exact runsTo_cons hwait (runsTo_cons hread (runsTo_cons hsend (.nil _)))

/-- A timer or a handler step that publishes nothing changes its slot. -/
theorem stepEvents_handler_of_quiet {i : Fin TS_CONTENTION_POOL_SIZE} {a : HandlerAct}
    {slot slot' : ContentionSlot τ} (hslot : n.pool i = slot) (h : slot.handle a = some slot')
    (hpub : slot.publishes a = none) :
    n.stepEvents P (.handler i a) = some (n.withSlot i slot', []) := by
  simp only [stepEvents, handler, Pool.handle, hslot, h, hpub, Option.map_some, withSlot]

/-- The step that publishes. -/
theorem stepEvents_handler_publish {i : Fin TS_CONTENTION_POOL_SIZE} {c : Copy τ}
    {slot : ContentionSlot τ} (hslot : n.pool i = slot)
    (hrun : slot.work.running = some (.publishing c)) :
    n.stepEvents P (.handler i .publish)
      = some ((n.withSlot i { slot with work := slot.work.resume .done }).withBus
          (n.bus.publish c).1, [.published c (n.bus.chan.pubs + 1)]) := by
  simp only [stepEvents, handler, Pool.handle, ContentionSlot.handle, ContentionSlot.publishes,
    hslot, hrun, Option.map_some, withSlot, withBus]

/-- **A queued forward is published**: the handler run claims what the slot
holds and publishes it, and leaves the slot free and its item idle. -/
theorem runsTo_handlerPass {i : Fin TS_CONTENTION_POOL_SIZE} {c : Copy τ} {src : UInt16}
    {msgId : UInt32} (hslot : n.pool i = ⟨⟨false, true, false, none⟩, c, src, msgId, true⟩) :
    RunsTo (Node.step P) (Node.events P) n
      [.handler i .start, .handler i .claim, .handler i .publish, .handler i .ret]
      ((n.withSlot i ⟨kWorkInitDelayable, c, src, msgId, false⟩).withBus (n.bus.publish c).1)
      [.published c (n.bus.chan.pubs + 1)] := by
  -- the slot after each step
  let entered : ContentionSlot τ := ⟨⟨false, false, false, some .entered⟩, c, src, msgId, true⟩
  let publishing : ContentionSlot τ :=
    ⟨⟨false, false, false, some (.publishing c)⟩, c, src, msgId, false⟩
  let done : ContentionSlot τ := ⟨⟨false, false, false, some .done⟩, c, src, msgId, false⟩
  have hstart : n.stepEvents P (.handler i .start) = some (n.withSlot i entered, []) :=
    stepEvents_handler_of_quiet hslot rfl rfl
  have hclaim : (n.withSlot i entered).stepEvents P (.handler i .claim)
      = some (n.withSlot i publishing, []) := by
    rw [stepEvents_handler_of_quiet (withSlot_pool_self n i entered)
        (show entered.handle .claim = some publishing from rfl) rfl,
      withSlot_withSlot]
  have hpublish : (n.withSlot i publishing).stepEvents P (.handler i .publish)
      = some ((n.withSlot i done).withBus (n.bus.publish c).1,
        [.published c (n.bus.chan.pubs + 1)]) := by
    rw [stepEvents_handler_publish (c := c) (withSlot_pool_self n i publishing) rfl,
      withSlot_withSlot]
    rfl
  have hret : ((n.withSlot i done).withBus (n.bus.publish c).1).stepEvents P (.handler i .ret)
      = some ((n.withSlot i ⟨kWorkInitDelayable, c, src, msgId, false⟩).withBus
          (n.bus.publish c).1, []) := by
    have hdone : ((n.withSlot i done).withBus (n.bus.publish c).1).pool i = done :=
      withSlot_pool_self n i done
    have hidle : done.handle .ret = some ⟨kWorkInitDelayable, c, src, msgId, false⟩ := rfl
    rw [stepEvents_handler_of_quiet hdone hidle rfl, withBus_withSlot, withSlot_withSlot]
  exact runsTo_cons hstart (runsTo_cons hclaim (runsTo_cons hpublish (runsTo_cons hret (.nil _))))

/-- A message published on a bus at rest is announced. -/
theorem publish_of_idle {μ : Type} {b : OutBus μ} (h : b.Idle) (c : μ) :
    (b.publish c).1 = ⟨⟨c, [.loraOut], b.chan.pubs + 1⟩, .waiting⟩ := by
  rcases b.publish_cases c with ⟨-, heq⟩ | ⟨hfull, -⟩
  · rw [heq, h.queue, h.task]
    rfl
  · rw [h.queue] at hfull
    cases hfull

/-- A queued forward is published and sent. -/
theorem runsTo_queuedPass {i : Fin TS_CONTENTION_POOL_SIZE} {c : Copy τ} {src : UInt16}
    {msgId : UInt32} {frame : List UInt8} (hbus : n.bus.Idle)
    (hslot : n.pool i = ⟨⟨false, true, false, none⟩, c, src, msgId, true⟩)
    (hframe : loraOutFrame P c.msg = .ok frame) :
    ∃ n', RunsTo (Node.step P) (Node.events P) n
      ([.handler i .start, .handler i .claim, .handler i .publish, .handler i .ret]
        ++ [.outWait, .outRead, .outSend]) n'
      [.published c (n.bus.chan.pubs + 1), .transmitted c (n.bus.chan.pubs + 1) frame] := by
  have hhandler := runsTo_handlerPass (P := P) hslot
  rw [publish_of_idle hbus] at hhandler
  exact ⟨_, hhandler.append (runsTo_outPass rfl hframe)⟩

/-- An item that was idle is queued after its schedule, or delayed first. -/
theorem schedule_init {ρ : Type} (delay : UInt32) :
    (kWorkSchedule (kWorkInitDelayable : WorkDelayable ρ) delay).1 = ⟨false, true, false, none⟩
      ∨ (kWorkSchedule (kWorkInitDelayable : WorkDelayable ρ) delay).1
        = ⟨true, false, false, none⟩ := by
  by_cases h : delay = 0
  · left
    simp [kWorkSchedule, kWorkInitDelayable, h]
  · right
    simp [kWorkSchedule, kWorkInitDelayable, h]

/-- **A forward gets out of a node at rest**: it is scheduled, its delay
passes if there is one, and the handler publishes it for the transmit task to
send. -/
theorem exists_runsTo_relayPass {inMsg : TsMsgLoraIncoming} {tag : τ} {fwd : TsMsgLoraOutgoing}
    {frame : List UInt8} (hrx : n.rx = .relaying inMsg tag) (hbus : n.bus.Idle)
    {i : Fin TS_CONTENTION_POOL_SIZE} (hfind : findFreeSlot n.pool = some i)
    (hwork : (n.pool i).work = kWorkInitDelayable) (hfwd : forwardOf inMsg.msg = some fwd)
    (hframe : loraOutFrame P fwd = .ok frame) :
    ∃ (acts : List InnerAct) (n' : Node τ),
      RunsTo (Node.step P) (Node.events P) n (acts.map InnerAct.act) n'
        [.scheduled ⟨fwd, tag⟩, .published ⟨fwd, tag⟩ (n.bus.chan.pubs + 1),
          .transmitted ⟨fwd, tag⟩ (n.bus.chan.pubs + 1) frame] := by
  let c : Copy τ := ⟨fwd, tag⟩
  let w := (kWorkSchedule (kWorkInitDelayable : WorkDelayable (HandlerPc τ))
    (tsContentionRssiToDelayMs n.cfg inMsg.rssi)).1
  let held : ContentionSlot τ := ⟨w, c, fwd.route.src, fwd.route.msgId, true⟩
  let queued : ContentionSlot τ :=
    ⟨⟨false, true, false, none⟩, c, fwd.route.src, fwd.route.msgId, true⟩
  let n₁ : Node τ := { n.withSlot i held with rx := .listening }
  have hrelay : n.stepEvents P .relay = some (n₁, [.scheduled c]) := by
    simp only [stepEvents, relay, hrx, hfwd, tsContentionSchedule, hfind, hwork]
    rfl
  have hheld : n₁.pool i = held := withSlot_pool_self n i held
  rcases schedule_init (ρ := HandlerPc τ) (tsContentionRssiToDelayMs n.cfg inMsg.rssi)
    with hw | hw
  · -- no delay: the item is in the queue at once
    have hqueued : n₁.pool i = queued := by
      rw [hheld]
      exact congrArg (ContentionSlot.mk · c fwd.route.src fwd.route.msgId true) hw
    obtain ⟨n', hout⟩ := runsTo_queuedPass (n := n₁) (P := P) hbus hqueued hframe
    exact ⟨[.relay, .handler i .start, .handler i .claim, .handler i .publish, .handler i .ret,
      .outWait, .outRead, .outSend], n', runsTo_cons hrelay hout⟩
  · have hexpire : n₁.stepEvents P (.handler i .expire) = some (n₁.withSlot i queued, []) := by
      refine stepEvents_handler_of_quiet hheld ?_ rfl
      show Option.map _ w.expire = _
      rw [show w = ⟨true, false, false, none⟩ from hw]
      rfl
    obtain ⟨n', hout⟩ := runsTo_queuedPass (n := n₁.withSlot i queued) (P := P) hbus
      (withSlot_pool_self _ _ _) hframe
    exact ⟨[.relay, .handler i .expire, .handler i .start, .handler i .claim,
      .handler i .publish, .handler i .ret, .outWait, .outRead, .outSend], n',
      runsTo_cons hrelay (runsTo_cons hexpire hout)⟩

end Node

/-- A node that has booted is at rest. -/
theorem Node.idle_boot [Inhabited τ] (config : ConfigState) : (Node.boot config : Node τ).Idle where
  rx := rfl
  bus := ⟨rfl, rfl⟩
  slot := by
    obtain ⟨i, hi⟩ := findSlot_isSome (n := TS_CONTENTION_POOL_SIZE)
      (p := fun i => !((Node.boot config : Node τ).pool i).occupied) (i := ⟨0, by decide⟩) rfl
    exact ⟨i, hi, rfl⟩

end Terrascope
