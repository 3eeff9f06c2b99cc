import Terrascope.Node

/-!
# What passes through a node

Between the frames it receives and the frames it transmits, a node only
hands messages on: from the receive task to a slot, from a slot to a handler
run, from there to the outgoing bus. Two things follow from this, whatever
the messages are.

What holds of every message that comes in, and is kept by the step from a
received message to its forward, holds of every message in the node and of
every message that goes out (`Node.Carries`). And every copy that is
published was accepted or originated, with no copy counted twice
(`inFlight_step`).
-/

namespace Terrascope

open Zephyr SlotArray Node

/-! ## What holds of the messages in a node -/

/-- **What holds of the messages of a slot**: of the one it is occupied by
and of the one its handler run is about to publish. -/
structure ContentionSlot.Carries {τ : Type} (outP : Copy τ → Prop)
    (slot : ContentionSlot τ) : Prop where
  held : slot.occupied = true → outP slot.copy
  publishing : ∀ c, slot.work.running = some (.publishing c) → outP c

/-- **What holds of the messages of the bus**, with the numbers of their
publications: of the stored one while it is going to be read, and of the one
that was read. -/
structure OutBus.Carries {μ : Type} (busP : μ → ℕ → Prop) (b : OutBus μ) : Prop where
  oneChannel : b.OneChannel
  stored : 0 < b.outstanding → busP b.chan.msg b.chan.pubs
  sending : ∀ msg pub, b.task = .sending msg pub → busP msg pub

/-- **What holds of the messages of a node**: of those received, of those to
be published and of those published. -/
structure Node.Carries {τ : Type} (rxP outP : Copy τ → Prop) (busP : Copy τ → ℕ → Prop)
    (n : Node τ) : Prop where
  received : ∀ c, n.rx.received = some c → rxP c
  ack : ∀ c, n.rx = .acking c → outP c
  pool : ∀ i, (n.pool i).Carries outP
  own : ∀ who c, n.producing who = some c → outP c
  bus : n.bus.Carries busP

variable {τ : Type} {P : Platform}

section Slot

variable {outP : Copy τ → Prop} {slot : ContentionSlot τ}

/-- A free slot takes a message. -/
theorem ContentionSlot.Carries.schedule (h : slot.Carries outP) {c : Copy τ} (hc : outP c)
    (delay : UInt32) (src : UInt16) (msgId : UInt32) :
    ContentionSlot.Carries outP ⟨(kWorkSchedule slot.work delay).1, c, src, msgId, true⟩ where
  held := fun _ => hc
  publishing := fun c' hc' => h.publishing c' (by rwa [running_schedule] at hc')

/-- A slot is given up. -/
theorem ContentionSlot.Carries.cancel (h : slot.Carries outP) :
    ContentionSlot.Carries outP
      { slot with work := kWorkCancelDelayable slot.work, occupied := false } where
  held := fun hocc => nomatch hocc
  publishing := h.publishing

/-- A handler run goes on. -/
theorem ContentionSlot.Carries.handle (h : slot.Carries outP) {slot' : ContentionSlot τ}
    {a : HandlerAct} (hs : slot.handle a = some slot') : slot'.Carries outP := by
  rcases ContentionSlot.handle_cases hs with ⟨w, -, hw, rfl⟩ | ⟨w, -, hw, rfl⟩ |
    ⟨-, hrun, hocc, rfl⟩ | ⟨-, hrun, hocc, rfl⟩ | ⟨c, -, hrun, rfl⟩ | ⟨-, hrun, rfl⟩
  · obtain ⟨-, rfl⟩ := expire_eq_some hw
    exact ⟨h.held, h.publishing⟩
  · obtain ⟨-, -, rfl⟩ := start_eq_some hw
    exact ⟨h.held, fun c hc => nomatch hc⟩
  · refine ⟨(fun hocc' => nomatch hocc'), fun c hc => ?_⟩
    cases hc
    exact h.held hocc
  · exact ⟨h.held, fun c hc => nomatch hc⟩
  · exact ⟨h.held, fun c hc => nomatch hc⟩
  · exact ⟨h.held, fun c hc => nomatch hc⟩

end Slot

section Bus

variable {μ : Type} {busP : μ → ℕ → Prop} {b b' : OutBus μ}

theorem OutBus.Carries.publish (h : b.Carries busP) {msg : μ}
    (hmsg : busP msg (b.chan.pubs + 1)) : (b.publish msg).1.Carries busP := by
  rcases b.publish_cases msg with ⟨-, heq⟩ | ⟨-, heq⟩
  · rw [heq]
    refine ⟨⟨fun k hk => ?_, h.oneChannel.notified⟩, fun _ => hmsg, h.sending⟩
    rcases List.mem_append.mp hk with hk | hk
    · exact h.oneChannel.queued k hk
    · exact List.mem_singleton.mp hk
  · rw [heq]
    exact ⟨⟨h.oneChannel.queued, h.oneChannel.notified⟩, fun _ => hmsg, h.sending⟩

theorem OutBus.Carries.wait (h : b.Carries busP) (hs : b.wait = some b') :
    b'.Carries busP := by
  obtain ⟨k, q, ht, hq, rfl⟩ := OutBus.wait_eq_some hs
  refine ⟨⟨fun k' hk' => ?_, fun k' hk' => ?_⟩, fun _ => ?_, fun msg pub hm => nomatch hm⟩
  · exact h.oneChannel.queued k' (by rw [hq]; exact List.mem_cons_of_mem k hk')
  · obtain rfl : k = k' := OutPc.notified.inj hk'
    exact h.oneChannel.queued k (by rw [hq]; exact List.mem_cons_self)
  · refine h.stored ?_
    unfold OutBus.outstanding
    rw [hq, List.length_cons]
    omega

theorem OutBus.Carries.read (h : b.Carries busP) (hs : b.read = some b') :
    b'.Carries busP := by
  obtain ⟨ht, rfl⟩ := OutBus.read_eq_some h.oneChannel hs
  have hstored : busP b.chan.msg b.chan.pubs := by
    refine h.stored ?_
    unfold OutBus.outstanding
    rw [ht]
    exact Nat.succ_pos _
  refine ⟨⟨h.oneChannel.queued, fun k hk => nomatch hk⟩, fun _ => hstored, ?_⟩
  intro msg pub hm
  obtain ⟨rfl, rfl⟩ := OutPc.sending.inj hm
  exact hstored

theorem OutBus.Carries.send (h : b.Carries busP) {msg : μ} {pub : ℕ}
    (hs : b.send = some (b', msg, pub)) : b'.Carries busP ∧ busP msg pub := by
  obtain ⟨ht, rfl⟩ := OutBus.send_eq_some hs
  refine ⟨⟨⟨h.oneChannel.queued, fun k hk => nomatch hk⟩, fun hout => h.stored ?_,
    fun msg pub hm => nomatch hm⟩, h.sending msg pub ht⟩
  exact lt_of_lt_of_le hout (Nat.add_le_add_left (Nat.zero_le _) _)

end Bus

section Whole

variable {rxP outP : Copy τ → Prop} {busP : Copy τ → ℕ → Prop} {n n' : Node τ}
  {a : NodeAct τ} {es : List (NodeEvent τ)}

/-- Less may be said of the messages of a slot. -/
theorem ContentionSlot.Carries.mono {outP outP' : Copy τ → Prop} {slot : ContentionSlot τ}
    (h : slot.Carries outP) (hout : ∀ c, outP c → outP' c) : slot.Carries outP' where
  held := fun hocc => hout _ (h.held hocc)
  publishing := fun c hc => hout c (h.publishing c hc)

/-- A node carries nothing at first. -/
theorem Node.carries_boot [Inhabited τ] (config : ConfigState) :
    (Node.boot config).Carries rxP outP busP where
  received := fun _ h => nomatch h
  ack := fun _ h => nomatch h
  pool := fun _ => ⟨(fun h => nomatch h), fun _ h => nomatch h⟩
  own := fun _ _ h => nomatch h
  bus := ⟨OutBus.oneChannel_boot, fun h => absurd h (lt_irrefl 0), fun _ _ h => nomatch h⟩

/-- Less may be said of the messages. -/
theorem Node.Carries.mono {rxP' outP' : Copy τ → Prop} {busP' : Copy τ → ℕ → Prop}
    (h : n.Carries rxP outP busP) (hrx : ∀ c, rxP c → rxP' c) (hout : ∀ c, outP c → outP' c)
    (hbus : ∀ c pub, busP c pub → busP' c pub) : n.Carries rxP' outP' busP' where
  received := fun c hc => hrx c (h.received c hc)
  ack := fun c hc => hout c (h.ack c hc)
  pool := fun i => (h.pool i).mono hout
  own := fun who c hc => hout c (h.own who c hc)
  bus := ⟨h.bus.oneChannel, fun hout => hbus _ _ (h.bus.stored hout),
    fun c pub hc => hbus c pub (h.bus.sending c pub hc)⟩

/-- **The pool takes in forwards only.** -/
theorem Node.Step.pool_carries (hs : Step P n a n' es) (h : ∀ i, (n.pool i).Carries outP)
    (hforward : ∀ inMsg tag fwd, n.rx = .relaying inMsg tag → forwardOf inMsg.msg = some fwd →
      outP ⟨fwd, tag⟩) : ∀ i, (n'.pool i).Carries outP := by
  cases hs with
  | duplicate =>
    rcases tsContentionCancel_cases n.pool _ _ with ⟨-, -, heq⟩ | ⟨i, -, -, -, heq⟩
    · rw [heq]
      exact h
    · rw [heq]
      exact forall_update h (h i).cancel
  | relayed hrx hfwd i hfind hfree work hwork =>
    rw [hwork]
    exact forall_update h ((h i).schedule (hforward _ _ _ hrx hfwd) _ _ _)
  | handled hslot => exact forall_update h ((h _).handle hslot)
  | forwardPublished c hrun => exact forall_update h ⟨(h _).held, fun _ hc => nomatch hc⟩
  | _ => exact h

/-- What a producer has prepared replaced. -/
theorem Node.Carries.own_update (h : n.Carries rxP outP busP) {who : Producer}
    {o : Option (Copy τ)} (ho : ∀ c, o = some c → outP c) :
    ∀ who' c, Function.update n.producing who o who' = some c → outP c := by
  intro who' c hc
  by_cases hwho : who' = who
  · rw [hwho, Function.update_self] at hc
    exact ho c hc
  · rw [Function.update_of_ne hwho] at hc
    exact h.own who' c hc

/-- **What a node publishes** is among the messages to be published. -/
theorem Node.Carries.published (h : n.Carries rxP outP busP) (hs : Step P n a n' es)
    {c : Copy τ} {pub : ℕ} (hmem : .published c pub ∈ es) : outP c := by
  cases hs with
  | ackPublished hrx =>
    cases List.mem_singleton.mp hmem
    exact h.ack _ hrx
  | forwardPublished c hrun =>
    cases List.mem_singleton.mp hmem
    exact (h.pool _).publishing c hrun
  | ownPublished own hown =>
    cases List.mem_singleton.mp hmem
    exact h.own _ _ hown
  | _ => simp at hmem

/-- **What a node transmits** was published, and the frame is made of it. -/
theorem Node.Carries.transmitted (h : n.Carries rxP outP busP) (hs : Step P n a n' es)
    {c : Copy τ} {pub : ℕ} {frame : List UInt8} (hmem : .transmitted c pub frame ∈ es) :
    busP c pub ∧ loraOutFrame P c.msg = .ok frame := by
  cases hs with
  | sent hbus hframe =>
    cases List.mem_singleton.mp hmem
    exact ⟨(h.bus.send hbus).2, hframe⟩
  | _ => simp at hmem

/-- **What a node delivers** was received. -/
theorem Node.Carries.delivered (h : n.Carries rxP outP busP) (hs : Step P n a n' es)
    {c : Copy τ} (hmem : .delivered c ∈ es) : rxP c := by
  cases hs with
  | delivered hrx hfor hdata =>
    cases List.mem_singleton.mp hmem
    exact h.received _ (by rw [hrx]; rfl)
  | _ => simp at hmem

/-- **Every step keeps what holds of the messages of a node**, if it holds of
what the step takes in and passes from a received message to its forward. -/
theorem Node.Carries.step (h : n.Carries rxP outP busP) (hs : Step P n a n' es)
    (haccepted : ∀ c, .accepted c ∈ es → rxP c)
    (horiginated : ∀ c, .originated c ∈ es → outP c)
    (hforward : ∀ msg fwd tag, rxP ⟨msg, tag⟩ → forwardOf msg = some fwd → outP ⟨fwd, tag⟩)
    (hpublished : ∀ c pub, outP c → .published c pub ∈ es → busP c pub) :
    n'.Carries rxP outP busP := by
  have hout : ∀ c pub, .published c pub ∈ es → busP c pub :=
    fun c pub hmem => hpublished c pub (h.published hs hmem) hmem
  have hpool := hs.pool_carries h.pool (fun inMsg tag fwd hrx hfwd =>
    hforward _ _ _ (h.received ⟨inMsg.msg, tag⟩ (by rw [hrx]; rfl)) hfwd)
  cases hs with
  | dropped | ownSource => exact h
  | duplicate => exact ⟨h.received, h.ack, hpool, h.own, h.bus⟩
  | accepted =>
    refine ⟨fun c hc => ?_, (fun _ hc => nomatch hc), h.pool, h.own, h.bus⟩
    cases hc
    exact haccepted _ List.mem_cons_self
  | notForUs hrx | delivered hrx =>
    refine ⟨fun c hc => ?_, (fun _ hc => nomatch hc), h.pool, h.own, h.bus⟩
    cases hc
    exact h.received _ (by rw [hrx]; rfl)
  | configured =>
    refine ⟨(fun _ hc => nomatch hc), fun c hc => ?_, h.pool, h.own, h.bus⟩
    cases hc
    exact horiginated _ (List.mem_cons_of_mem _ List.mem_cons_self)
  | ackPublished hrx =>
    exact ⟨(fun _ hc => nomatch hc), (fun _ hc => nomatch hc), h.pool, h.own,
      h.bus.publish (hout _ _ List.mem_cons_self)⟩
  | notRelayed | poolFull =>
    exact ⟨(fun _ hc => nomatch hc), (fun _ hc => nomatch hc), h.pool, h.own, h.bus⟩
  | relayed => exact ⟨(fun _ hc => nomatch hc), (fun _ hc => nomatch hc), hpool, h.own, h.bus⟩
  | handled => exact ⟨h.received, h.ack, hpool, h.own, h.bus⟩
  | forwardPublished c hrun =>
    exact ⟨h.received, h.ack, hpool, h.own, h.bus.publish (hout _ _ List.mem_cons_self)⟩
  | originated =>
    refine ⟨h.received, h.ack, h.pool, h.own_update (fun c hc => ?_), h.bus⟩
    cases hc
    exact horiginated _ List.mem_cons_self
  | ownPublished own hown =>
    exact ⟨h.received, h.ack, h.pool, h.own_update (fun c hc => nomatch hc),
      h.bus.publish (hout _ _ List.mem_cons_self)⟩
  | ownDropped own hown =>
    exact ⟨h.received, h.ack, h.pool, h.own_update (fun c hc => nomatch hc), h.bus⟩
  | waited hbus => exact ⟨h.received, h.ack, h.pool, h.own, h.bus.wait hbus⟩
  | read hbus => exact ⟨h.received, h.ack, h.pool, h.own, h.bus.read hbus⟩
  | sent hbus | notSent hbus => exact ⟨h.received, h.ack, h.pool, h.own, (h.bus.send hbus).1⟩
  | aged => exact ⟨h.received, h.ack, h.pool, h.own, h.bus⟩

/-- **A step publishes once at most**, and gives the publication the next
number. -/
theorem published_cases (hs : Step P n a n' es) :
    ((∀ c pub, .published c pub ∉ es) ∧ n'.bus.chan.pubs = n.bus.chan.pubs)
      ∨ ∃ c, es = [.published c (n.bus.chan.pubs + 1)]
        ∧ n'.bus.chan.pubs = n.bus.chan.pubs + 1 := by
  cases hs with
  | ackPublished hrx => exact Or.inr ⟨_, rfl, OutBus.publish_pubs _ _⟩
  | forwardPublished c hrun => exact Or.inr ⟨_, rfl, OutBus.publish_pubs _ _⟩
  | ownPublished own hown => exact Or.inr ⟨_, rfl, OutBus.publish_pubs _ _⟩
  | waited hbus =>
    obtain ⟨k, q, -, -, rfl⟩ := OutBus.wait_eq_some hbus
    exact Or.inl ⟨by simp, rfl⟩
  | read hbus => exact Or.inl ⟨by simp, congrArg _ (OutBus.chan_read hbus)⟩
  | sent hbus | notSent hbus =>
    obtain ⟨-, rfl⟩ := OutBus.send_eq_some hbus
    exact Or.inl ⟨by simp, rfl⟩
  | _ => exact Or.inl ⟨by simp, rfl⟩

end Whole

/-! ## Copies in flight -/

section Count

variable [DecidableEq τ]

/-- One if the copy has the tag. -/
def Copy.load (t : τ) (c : Copy τ) : ℕ := if c.tag = t then 1 else 0

/-- The copies with a tag that the receive task may still pass on. -/
def RxPc.load (t : τ) : RxPc τ → ℕ
  | .listening => 0
  | .accepted inMsg tag => Copy.load t ⟨inMsg.msg, tag⟩
  | .acking ack => ack.load t
  | .relaying inMsg tag => Copy.load t ⟨inMsg.msg, tag⟩

/-- The copies with a tag among what a producer has prepared. -/
def ownLoad (t : τ) : Option (Copy τ) → ℕ
  | some c => c.load t
  | none => 0

/-- The copies with a tag in the pool and its handler runs. -/
def Pool.load (t : τ) (pool : Pool τ) : ℕ :=
  tally (fun slot => holds t slot + carries t slot) pool

/-- **The copies with a tag that a node may still publish.** -/
def Node.inFlight (t : τ) (n : Node τ) : ℕ :=
  n.rx.load t + Pool.load t n.pool + tally (ownLoad t) n.producing

/-- The event takes in a copy with the tag. -/
def NodeEvent.takesIn (t : τ) : NodeEvent τ → Bool
  | .accepted c => c.tag = t
  | .originated c => c.tag = t
  | _ => false

/-- The event publishes a copy with the tag. -/
def NodeEvent.publishes (t : τ) : NodeEvent τ → Bool
  | .published c _ => c.tag = t
  | _ => false

/-- **A slot that is freed** keeps what its handler run carries. -/
theorem ContentionSlot.load_freed {slot slot' : ContentionSlot τ}
    (hfree : slot'.occupied = false) (hrun : slot'.work.running = slot.work.running) (t : τ) :
    holds t slot' + carries t slot' ≤ holds t slot + carries t slot := by
  rw [holds_of_free hfree, carries_congr hrun, Nat.zero_add]
  exact Nat.le_add_left _ _

/-- **A handler step multiplies nothing**: what a slot holds and what its
handler run carries together only lose. -/
theorem ContentionSlot.load_handle {slot slot' : ContentionSlot τ} {a : HandlerAct}
    (hs : slot.handle a = some slot') (t : τ) :
    holds t slot' + carries t slot' ≤ holds t slot + carries t slot := by
  rcases ContentionSlot.handle_cases hs with ⟨w, -, hw, rfl⟩ | ⟨w, -, hw, rfl⟩ |
    ⟨-, hrun, hocc, rfl⟩ | ⟨-, hrun, hocc, rfl⟩ | ⟨c, -, hrun, rfl⟩ | ⟨-, hrun, rfl⟩
  · obtain ⟨-, rfl⟩ := expire_eq_some hw
    exact le_refl _
  · obtain ⟨-, -, rfl⟩ := start_eq_some hw
    exact Nat.add_le_add_left (Nat.zero_le _) _
  · -- the copy moves from the slot to the run
    rw [holds_of_free rfl, holds_of_occupied hocc, Nat.zero_add]
    exact Nat.le_add_right _ _
  · exact Nat.add_le_add_left (Nat.zero_le _) _
  · exact Nat.add_le_add_left (Nat.zero_le _) _
  · exact Nat.add_le_add_left (Nat.zero_le _) _

/-- **A slot that is taken** keeps it too, and holds what it is taken for. -/
theorem ContentionSlot.load_taken {slot : ContentionSlot τ} (hfree : slot.occupied = false)
    {c : Copy τ} (src : UInt16) (msgId : UInt32) {work : WorkDelayable (HandlerPc τ)}
    (hrun : work.running = slot.work.running) (t : τ) :
    holds t ⟨work, c, src, msgId, true⟩ + carries t ⟨work, c, src, msgId, true⟩
      = holds t slot + carries t slot + c.load t := by
  rw [holds_of_free hfree, holds_of_occupied rfl, Nat.zero_add, Nat.add_comm]
  exact congrArg (· + c.load t) (carries_congr hrun t)

/-- **One slot replaced** moves the load of the pool by what it replaces. -/
theorem Pool.load_update (t : τ) (pool : Pool τ) (i : Fin TS_CONTENTION_POOL_SIZE)
    (slot : ContentionSlot τ) :
    Pool.load t (Function.update pool i slot) + (holds t (pool i) + carries t (pool i))
      = Pool.load t pool + (holds t slot + carries t slot) :=
  tally_update (fun slot => holds t slot + carries t slot) pool i slot

theorem Pool.load_update_le {t : τ} {pool : Pool τ} {i : Fin TS_CONTENTION_POOL_SIZE}
    {slot : ContentionSlot τ}
    (h : holds t slot + carries t slot ≤ holds t (pool i) + carries t (pool i)) :
    Pool.load t (Function.update pool i slot) ≤ Pool.load t pool := by
  have hslot := Pool.load_update t pool i slot
  omega

/-- A cancellation multiplies nothing. -/
theorem Pool.load_cancel_le (t : τ) (pool : Pool τ) (src : UInt16) (msgId : UInt32) :
    Pool.load t (tsContentionCancel pool src msgId).1 ≤ Pool.load t pool := by
  rcases tsContentionCancel_cases pool src msgId with ⟨-, -, heq⟩ | ⟨i, -, -, -, heq⟩
  · rw [heq]
  · have hfreed : ∀ slot : ContentionSlot τ, slot.occupied = false →
        slot.work.running = (pool i).work.running →
        Pool.load t (Function.update pool i slot) ≤ Pool.load t pool :=
      fun slot hfree hrun => Pool.load_update_le (ContentionSlot.load_freed hfree hrun t)
    rw [heq]
    exact hfreed _ rfl rfl

/-- Nothing is in flight at first. -/
theorem inFlight_boot [Inhabited τ] (config : ConfigState) (t : τ) :
    (Node.boot config : Node τ).inFlight t = 0 := by
  have hpool : Pool.load t (Node.boot config : Node τ).pool = 0 :=
    tally_eq_zero.mpr (fun _ => by rw [holds_of_free rfl]; rfl)
  have hown : tally (ownLoad t) (Node.boot config : Node τ).producing = 0 :=
    tally_eq_zero.mpr (fun _ => rfl)
  unfold Node.inFlight
  rw [hpool, hown]
  rfl

variable {n n' : Node τ} {a : NodeAct τ} {es : List (NodeEvent τ)}

/-- **Nothing is published that was not taken in**, and nothing twice: the
copies in flight after a step and those it publishes are among the copies in
flight before and those it takes in. -/
theorem inFlight_step (hs : Step P n a n' es) (t : τ) :
    n'.inFlight t + es.countP (·.publishes t) ≤ n.inFlight t + es.countP (·.takesIn t) := by
  unfold Node.inFlight
  cases hs with
  | dropped | ownSource | waited | read | sent | notSent | aged =>
    simp [NodeEvent.publishes, NodeEvent.takesIn]
  | @duplicate frame tag rssi snr now msg =>
    have hcancel := Pool.load_cancel_le t n.pool msg.route.src msg.route.msgId
    simp only [List.countP_singleton, NodeEvent.publishes, NodeEvent.takesIn,
      Bool.false_eq_true, if_false]
    omega
  | accepted hrx | configured hrx | notForUs hrx | delivered hrx | ackPublished hrx
    | notRelayed hrx | poolFull hrx =>
    simp only [hrx, RxPc.load, Copy.load, List.countP_cons, List.countP_nil,
      NodeEvent.publishes, NodeEvent.takesIn, Bool.false_eq_true, decide_eq_true_eq, if_false]
    omega
  | @relayed inMsg tag fwd hrx hfwd i hfind hfree work hwork =>
    -- the load of the receiver moves into the slot it takes, and no frame is published
    have hslot := Pool.load_update t n.pool i
      ⟨work, ⟨fwd, tag⟩, fwd.route.src, fwd.route.msgId, true⟩
    have hrun : work.running = (n.pool i).work.running := by rw [hwork, running_schedule]
    have htaken := ContentionSlot.load_taken hfree (c := ⟨fwd, tag⟩) fwd.route.src
      fwd.route.msgId hrun t
    simp only [hrx, RxPc.load, Copy.load, List.countP_singleton, NodeEvent.publishes,
      NodeEvent.takesIn, Bool.false_eq_true, if_false] at htaken ⊢
    omega
  | handled hslot hpub =>
    have hpool := Pool.load_update_le (ContentionSlot.load_handle hslot t)
    simp only [List.countP_nil]
    omega
  | @forwardPublished i c hrun =>
    have hslot := Pool.load_update t n.pool i
      { n.pool i with work := (n.pool i).work.resume .done }
    -- what the handler was carrying is the copy this event publishes
    have hcarried : carries t (n.pool i) = c.load t := by
      unfold carries
      rw [hrun]
      rfl
    have hdone : holds t { n.pool i with work := (n.pool i).work.resume .done }
          + carries t { n.pool i with work := (n.pool i).work.resume .done }
        = holds t (n.pool i) := rfl
    rw [hdone, hcarried] at hslot
    simp only [List.countP_singleton, NodeEvent.publishes, NodeEvent.takesIn, Copy.load,
      Bool.false_eq_true, decide_eq_true_eq, if_false] at hslot ⊢
    omega
  | @originated content tag hidle route hroute =>
    have hown := tally_update (ownLoad t) n.producing content.producer
      (some ⟨content.msg route, tag⟩)
    simp only [hidle, ownLoad, List.countP_singleton, NodeEvent.publishes, NodeEvent.takesIn,
      Copy.load, Bool.false_eq_true, decide_eq_true_eq, if_false] at hown ⊢
    omega
  | @ownPublished who own hown =>
    have htally := tally_update (ownLoad t) n.producing who none
    simp only [hown, ownLoad, List.countP_singleton, NodeEvent.publishes, NodeEvent.takesIn,
      Copy.load, Bool.false_eq_true, decide_eq_true_eq, if_false] at htally ⊢
    omega
  | @ownDropped own hown =>
    have htally := tally_update (ownLoad t) n.producing .sensor none
    simp only [hown, ownLoad, List.countP_nil] at htally ⊢
    omega

/-- **A step takes in one copy at most**, which it accepts or originates. -/
theorem takesIn_cases (hs : Step P n a n' es) (t : τ) :
    es.countP (·.takesIn t) = 0
      ∨ es.countP (·.takesIn t) = 1
        ∧ ∃ c : Copy τ, c.tag = t ∧ (.accepted c ∈ es ∨ .originated c ∈ es) := by
  rcases Nat.eq_zero_or_pos (es.countP (·.takesIn t)) with hzero | hpos
  · exact Or.inl hzero
  · have hone : es.countP (·.takesIn t) ≤ 1 := by
      cases hs <;> simp [NodeEvent.takesIn, List.countP_cons] <;> split <;> omega
    obtain ⟨e, he, htakes⟩ := List.countP_pos_iff.mp hpos
    refine Or.inr ⟨le_antisymm hone hpos, ?_⟩
    cases e with
    | accepted c => exact ⟨c, of_decide_eq_true htakes, Or.inl he⟩
    | originated c => exact ⟨c, of_decide_eq_true htakes, Or.inr he⟩
    | _ => cases htakes

end Count

end Terrascope
