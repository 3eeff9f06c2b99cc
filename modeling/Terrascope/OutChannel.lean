import Terrascope.Producers
import Terrascope.Transition
import Terrascope.Zephyr

/-!
# The outgoing bus

`ts_lora_out_chan` stores one message and its subscriber a queue of two
notifications. `lora_out_task` takes a notification, reads the channel and
sends what it read – at three different moments, with the heartbeat loop,
the sensor work, the contention handler and the configuration path free to
publish between any two of them.

A notification does not carry its message, so what matters is how many are
`outstanding` when a message is published: each of them will read whatever
the channel stores by then. `drainsInOrder_iff` turns the property of a
state – the transmit task, left alone, ends up having read what was
published – into an equation, and `allStates_drainsInOrder_iff` says which
runs have it throughout.
-/

namespace Terrascope

open Zephyr Transition

/-! ## The bus and the transmit task -/

/-- The channels of the firmware. -/
inductive ZbusChan where
  | loraOut
  | loraIn
deriving DecidableEq, Repr

/-- **Where `lora_out_task` is**: in `zbus_sub_wait`, on its way to
`zbus_chan_read` with the channel it was notified of, or with a message to
send. The number is that of the publication the message is from, which the
task does not know. -/
inductive OutPc (μ : Type) where
  | waiting
  | notified (chan : ZbusChan)
  | sending (msg : μ) (pub : ℕ)
deriving DecidableEq

/-- `ts_lora_out_chan`, its subscriber and the task behind it. -/
structure OutBus (μ : Type) where
  chan : Channel ZbusChan μ
  task : OutPc μ
deriving DecidableEq

namespace OutBus

variable {μ : Type}

/-- Before anything is published: `ZBUS_MSG_INIT(0)`. -/
def boot [Inhabited μ] : OutBus μ := ⟨⟨default, [], 0⟩, .waiting⟩

/-- `zbus_chan_pub(&ts_lora_out_chan, …)`; `ts_lora_out_sub` holds two
notifications. -/
def publish (b : OutBus μ) (msg : μ) : OutBus μ × Bool :=
  let (chan, ok) := zbusChanPub 2 .loraOut b.chan msg
  ({ b with chan := chan }, ok)

/-- `zbus_sub_wait`. -/
def wait (b : OutBus μ) : Option (OutBus μ) :=
  match b.task with
  | .waiting => (zbusSubWait b.chan).map (fun r => ⟨r.2, .notified r.1⟩)
  | _ => none

/-- `zbus_chan_read`, if the notification is of the outgoing channel. -/
def read (b : OutBus μ) : Option (OutBus μ) :=
  match b.task with
  | .notified .loraOut => some { b with task := .sending (zbusChanRead b.chan) b.chan.pubs }
  | .notified .loraIn => some { b with task := .waiting }
  | _ => none

/-- The rest of the task's pass over the message it has read, which comes
back with its number. -/
def send (b : OutBus μ) : Option (OutBus μ × μ × ℕ) :=
  match b.task with
  | .sending msg pub => some ({ b with task := .waiting }, msg, pub)
  | _ => none

/-- **How many notifications are outstanding**: queued, or taken with the
channel not read yet. -/
def outstanding (b : OutBus μ) : ℕ :=
  b.chan.queue.length + (match b.task with | .notified _ => 1 | _ => 0)

/-- Every notification is of the one channel that has the subscriber. -/
structure OneChannel (b : OutBus μ) : Prop where
  queued : ∀ k ∈ b.chan.queue, k = .loraOut
  notified : ∀ k, b.task = .notified k → k = .loraOut

theorem oneChannel_boot [Inhabited μ] : (boot : OutBus μ).OneChannel where
  queued := fun _ hk => absurd hk List.not_mem_nil
  notified := fun _ hk => nomatch hk

/-- **What a publication does**: the message replaces the stored one in any
case, and it is announced if there is room for a notification. -/
theorem publish_cases (b : OutBus μ) (msg : μ) :
    (b.chan.queue.length < 2 ∧ b.publish msg
        = ({ b with chan := ⟨msg, b.chan.queue ++ [.loraOut], b.chan.pubs + 1⟩ }, true))
      ∨ (2 ≤ b.chan.queue.length ∧ b.publish msg
        = ({ b with chan := ⟨msg, b.chan.queue, b.chan.pubs + 1⟩ }, false)) := by
  unfold publish zbusChanPub
  by_cases h : b.chan.queue.length < 2
  · left
    rw [if_pos h]
    exact ⟨h, rfl⟩
  · right
    rw [if_neg h]
    exact ⟨Nat.le_of_not_lt h, rfl⟩

theorem publish_pubs (b : OutBus μ) (msg : μ) :
    (b.publish msg).1.chan.pubs = b.chan.pubs + 1 :=
  pubs_zbusChanPub _ _ _ _

/-- What taking a notification does. -/
theorem wait_eq_some {b b' : OutBus μ} (h : b.wait = some b') :
    ∃ k q, b.task = .waiting ∧ b.chan.queue = k :: q
      ∧ b' = ⟨{ b.chan with queue := q }, .notified k⟩ := by
  unfold wait at h
  split at h
  · next ht =>
    obtain ⟨⟨k, c⟩, hw, rfl⟩ := Option.map_eq_some_iff.mp h
    unfold zbusSubWait at hw
    split at hw
    · cases hw
    · next k' q hq =>
      obtain ⟨rfl, rfl⟩ := Prod.mk.injEq _ _ _ _ ▸ Option.some.inj hw
      exact ⟨k', q, ht, hq, rfl⟩
  · cases h

/-- What reading the channel does, to a bus with one channel. -/
theorem read_eq_some {b b' : OutBus μ} (hb : b.OneChannel) (h : b.read = some b') :
    b.task = .notified .loraOut ∧ b' = { b with task := .sending b.chan.msg b.chan.pubs } := by
  unfold read at h
  split at h
  · next ht => exact ⟨ht, (Option.some.inj h).symm⟩
  · next ht => exact nomatch hb.notified _ ht
  · cases h

/-- Reading changes nothing on the channel. -/
theorem chan_read {b b' : OutBus μ} (h : b.read = some b') : b'.chan = b.chan := by
  unfold read at h
  split at h <;> cases h <;> rfl

/-- What sending does. -/
theorem send_eq_some {b b' : OutBus μ} {msg : μ} {pub : ℕ}
    (h : b.send = some (b', msg, pub)) :
    b.task = .sending msg pub ∧ b' = { b with task := .waiting } := by
  unfold send at h
  split at h
  · next ht =>
    cases h
    exact ⟨ht, rfl⟩
  · cases h

end OutBus

/-! ## Runs of the bus -/

/-- The callers of `zbus_chan_pub` on the outgoing channel. -/
inductive Publisher where
  | heartbeat
  | sensor
  | contention
  | configAck
deriving DecidableEq, Repr

/-- A step of a publisher or of `lora_out_task`. -/
inductive OutAct where
  | publish (who : Publisher) (msg : TsMsgLoraOutgoing)
  | wait
  | read
  | send

/-- The step is one of `lora_out_task`. -/
def OutAct.ofTask : OutAct → Bool
  | .publish _ _ => false
  | _ => true

/-- **The bus with what happened on it**: the messages whose publication
returned `0` and the messages that were read for sending, oldest first. -/
structure OutRun where
  bus : OutBus TsMsgLoraOutgoing
  published : List TsMsgLoraOutgoing
  read : List TsMsgLoraOutgoing

/-- Nothing published yet. -/
def outBoot : OutRun := ⟨OutBus.boot, [], []⟩

/-- One step. -/
def outStep (s : OutRun) : OutAct → Option OutRun
  | .publish _ msg =>
    let (bus, ok) := s.bus.publish msg
    some ⟨bus, if ok then s.published ++ [msg] else s.published, s.read⟩
  | .wait => s.bus.wait.map (fun bus => { s with bus := bus })
  | .read => s.bus.read.map (fun bus => { s with
      bus := bus
      read := s.read ++ (match bus.task with | .sending msg _ => [msg] | _ => []) })
  | .send => s.bus.send.map (fun r => { s with bus := r.1 })

/-- A publication, its two results apart. -/
theorem outStep_publish (s : OutRun) (p : Publisher) (msg : TsMsgLoraOutgoing) :
    outStep s (.publish p msg) = some ⟨(s.bus.publish msg).1,
      if (s.bus.publish msg).2 then s.published ++ [msg] else s.published, s.read⟩ := rfl

/-- **The transmit task, left alone, ends up having read what was
published**: whenever its own steps lead to a state with no notification
outstanding, the messages read are the messages published, each once and in
order. -/
def DrainsInOrder (s : OutRun) : Prop :=
  ∀ acts t, (∀ a ∈ acts, a.ofTask = true) → run outStep s acts = some t →
    t.bus.outstanding = 0 → t.read = t.published

/-- **The condition on a publication**: no notification is outstanding, or
the message is the one the channel stores. -/
def PublishesAlone (s : OutRun) : OutAct → Prop
  | .publish _ msg => s.bus.outstanding = 0 ∨ msg = s.bus.chan.msg
  | _ => True

/-- What will have been read when the outstanding notifications are dealt
with and nothing is published any more. -/
def OutRun.expected (s : OutRun) : List TsMsgLoraOutgoing :=
  s.read ++ List.replicate s.bus.outstanding s.bus.chan.msg

/-! ## The transmit task alone -/

/-- Every step leaves the subscriber with the one channel. -/
theorem oneChannel_outStep {s s' : OutRun} {a : OutAct} (h : s.bus.OneChannel)
    (hs' : outStep s a = some s') : s'.bus.OneChannel := by
  cases a with
  | publish p msg =>
    rw [outStep_publish] at hs'
    rw [← Option.some.inj hs']
    rcases s.bus.publish_cases msg with ⟨-, heq⟩ | ⟨-, heq⟩
    · rw [heq]
      refine ⟨fun k hk => ?_, h.notified⟩
      rcases List.mem_append.mp hk with hk | hk
      · exact h.queued k hk
      · exact List.mem_singleton.mp hk
    · rw [heq]
      exact ⟨h.queued, h.notified⟩
  | wait =>
    obtain ⟨bus, hbus, rfl⟩ := Option.map_eq_some_iff.mp hs'
    obtain ⟨k, q, -, hq, rfl⟩ := OutBus.wait_eq_some hbus
    refine ⟨fun k' hk' => h.queued k' (by rw [hq]; exact List.mem_cons_of_mem k hk'),
      fun k' hk' => ?_⟩
    obtain rfl : k = k' := OutPc.notified.inj hk'
    exact h.queued k (by rw [hq]; exact List.mem_cons_self)
  | read =>
    obtain ⟨bus, hbus, rfl⟩ := Option.map_eq_some_iff.mp hs'
    obtain ⟨-, rfl⟩ := OutBus.read_eq_some h hbus
    exact ⟨h.queued, fun k hk => nomatch hk⟩
  | send =>
    obtain ⟨⟨bus, msg, pub⟩, hbus, rfl⟩ := Option.map_eq_some_iff.mp hs'
    obtain ⟨-, rfl⟩ := OutBus.send_eq_some hbus
    exact ⟨h.queued, fun k hk => nomatch hk⟩

/-- **A step of the task moves nothing but the border** between what was read
and what will be. -/
theorem expected_outStep_of_task {s s' : OutRun} {a : OutAct} (h : s.bus.OneChannel)
    (ha : a.ofTask = true) (hs' : outStep s a = some s') :
    s'.expected = s.expected ∧ s'.published = s.published := by
  unfold OutRun.expected OutBus.outstanding
  cases a with
  | publish p msg => cases ha
  | wait =>
    obtain ⟨bus, hbus, rfl⟩ := Option.map_eq_some_iff.mp hs'
    obtain ⟨k, q, ht, hq, rfl⟩ := OutBus.wait_eq_some hbus
    rw [ht, hq]
    exact ⟨rfl, rfl⟩
  | read =>
    obtain ⟨bus, hbus, rfl⟩ := Option.map_eq_some_iff.mp hs'
    obtain ⟨ht, rfl⟩ := OutBus.read_eq_some h hbus
    rw [ht]
    refine ⟨?_, rfl⟩
    show (s.read ++ [s.bus.chan.msg])
      ++ List.replicate s.bus.chan.queue.length s.bus.chan.msg = _
    rw [List.append_assoc, List.replicate_succ]
    rfl
  | send =>
    obtain ⟨⟨bus, msg, pub⟩, hbus, rfl⟩ := Option.map_eq_some_iff.mp hs'
    obtain ⟨ht, rfl⟩ := OutBus.send_eq_some hbus
    rw [ht]
    exact ⟨rfl, rfl⟩

/-- … and so does a run of it. -/
theorem expected_run_of_task {acts : List OutAct} {s t : OutRun} (h : s.bus.OneChannel)
    (hacts : ∀ a ∈ acts, a.ofTask = true) (hrun : run outStep s acts = some t) :
    t.expected = s.expected ∧ t.published = s.published := by
  induction acts generalizing s with
  | nil =>
    cases hrun
    exact ⟨rfl, rfl⟩
  | cons a acts ih =>
    obtain ⟨s', hs', ht⟩ := run_cons_eq_some.mp hrun
    have hstep := expected_outStep_of_task h (hacts a List.mem_cons_self) hs'
    have hrest := ih (oneChannel_outStep h hs')
      (fun b hb => hacts b (List.mem_cons_of_mem a hb)) ht
    exact ⟨hrest.1.trans hstep.1, hrest.2.trans hstep.2⟩

/-- From `zbus_sub_wait`, the task can deal with every queued
notification. -/
theorem exists_drain_of_waiting (s : OutRun) (h : s.bus.OneChannel)
    (ht : s.bus.task = .waiting) :
    ∃ acts t, (∀ a ∈ acts, a.ofTask = true) ∧ run outStep s acts = some t
      ∧ t.bus.outstanding = 0 := by
  obtain ⟨⟨⟨msg, queue, pubs⟩, task⟩, published, read⟩ := s
  obtain rfl : task = .waiting := ht
  induction queue generalizing read with
  | nil => exact ⟨[], _, fun a ha => absurd ha List.not_mem_nil, rfl, rfl⟩
  | cons k q ih =>
    obtain rfl : k = .loraOut := h.queued k List.mem_cons_self
    obtain ⟨acts, t, hacts, hrun, hout⟩ := ih (read ++ [msg])
      ⟨fun k' hk' => h.queued k' (List.mem_cons_of_mem _ hk'), fun k' hk' => nomatch hk'⟩
    refine ⟨.wait :: .read :: .send :: acts, t, ?_, hrun, hout⟩
    simpa [OutAct.ofTask] using hacts

/-- **The task can always deal with what is outstanding.** -/
theorem exists_drain (s : OutRun) (h : s.bus.OneChannel) :
    ∃ acts t, (∀ a ∈ acts, a.ofTask = true) ∧ run outStep s acts = some t
      ∧ t.bus.outstanding = 0 := by
  obtain ⟨⟨chan, task⟩, published, read⟩ := s
  cases task with
  | waiting => exact exists_drain_of_waiting _ h rfl
  | sending msg pub =>
    obtain ⟨acts, t, hacts, hrun, hout⟩ := exists_drain_of_waiting
      ⟨⟨chan, .waiting⟩, published, read⟩ ⟨h.queued, fun k hk => nomatch hk⟩ rfl
    refine ⟨.send :: acts, t, ?_, hrun, hout⟩
    simpa [OutAct.ofTask] using hacts
  | notified k =>
    obtain rfl : k = .loraOut := h.notified k rfl
    obtain ⟨acts, t, hacts, hrun, hout⟩ := exists_drain_of_waiting
      ⟨⟨chan, .waiting⟩, published, read ++ [chan.msg]⟩
      ⟨h.queued, fun k hk => nomatch hk⟩ rfl
    refine ⟨.read :: .send :: acts, t, ?_, hrun, hout⟩
    simpa [OutAct.ofTask] using hacts

/-- **The property of a state as an equation.** -/
theorem drainsInOrder_iff {s : OutRun} (h : s.bus.OneChannel) :
    DrainsInOrder s ↔ s.expected = s.published := by
  have hread : ∀ t : OutRun, t.bus.outstanding = 0 → t.expected = t.read := by
    intro t ht
    unfold OutRun.expected
    rw [ht, List.replicate_zero, List.append_nil]
  constructor
  · intro hd
    obtain ⟨acts, t, hacts, hrun, hout⟩ := exists_drain s h
    obtain ⟨hexp, hpub⟩ := expected_run_of_task h hacts hrun
    rw [← hexp, ← hpub, hread t hout]
    exact hd acts t hacts hrun hout
  · intro heq acts t hacts hrun hout
    obtain ⟨hexp, hpub⟩ := expected_run_of_task h hacts hrun
    rw [← hread t hout, hexp, hpub, heq]

/-! ## Publications -/

/-- What a publication makes of a state. -/
theorem outStep_publish_cases (s : OutRun) (p : Publisher) (msg : TsMsgLoraOutgoing) :
    ∃ s', outStep s (.publish p msg) = some s' ∧ s'.read = s.read ∧ s'.bus.chan.msg = msg
      ∧ ((s'.published = s.published ++ [msg]
          ∧ s'.bus.outstanding = s.bus.outstanding + 1)
        ∨ (2 ≤ s.bus.outstanding ∧ s'.published = s.published
          ∧ s'.bus.outstanding = s.bus.outstanding)) := by
  refine ⟨_, outStep_publish s p msg, rfl, ?_⟩
  rcases s.bus.publish_cases msg with ⟨-, heq⟩ | ⟨hfull, heq⟩
  · rw [heq]
    refine ⟨rfl, Or.inl ⟨rfl, ?_⟩⟩
    unfold OutBus.outstanding
    rw [List.length_append, List.length_singleton, Nat.add_right_comm]
  · rw [heq]
    exact ⟨rfl, Or.inr ⟨le_trans hfull (Nat.le_add_right _ _), rfl, rfl⟩⟩

/-- **A publication that is alone keeps the order**, and one that is not
breaks it: whatever was outstanding will now read the new message. -/
theorem expected_publish_iff {s s' : OutRun} {p : Publisher} {msg : TsMsgLoraOutgoing}
    (heq : s.expected = s.published) (hs' : outStep s (.publish p msg) = some s') :
    s'.expected = s'.published ↔ PublishesAlone s (.publish p msg) := by
  obtain ⟨s₁, hs₁, hread, hmsg, hcases⟩ := outStep_publish_cases s p msg
  obtain rfl : s₁ = s' := Option.some.inj (hs₁.symm.trans hs')
  unfold OutRun.expected at heq ⊢
  unfold PublishesAlone
  rw [hread, hmsg]
  rcases hcases with ⟨hpub, hout⟩ | ⟨-, hpub, hout⟩
  · rw [hpub, hout, ← heq, List.replicate_succ', ← List.append_assoc, List.append_left_inj,
      List.append_right_inj, List.replicate_inj]
    simp only [true_and]
  · rw [hpub, hout, ← heq, List.append_right_inj, List.replicate_inj]
    simp only [true_and]

/-! ## Whole runs -/

/-- **Which runs lose and repeat nothing.** In every state of a run of
publishers and transmit task, the task left alone ends up having read what
was published, each message once and in order, if and only if every
`zbus_chan_pub` of the run is called with no notification outstanding, or
with the very message that the channel stores. -/
theorem allStates_drainsInOrder_iff (acts : List OutAct) :
    AllStates outStep DrainsInOrder outBoot acts
      ↔ AllSteps outStep PublishesAlone outBoot acts := by
  have hboot : (outBoot).bus.OneChannel := OutBus.oneChannel_boot
  refine allStates_iff_allSteps (I := fun s => s.bus.OneChannel)
    (fun s a s' h _ hs' => oneChannel_outStep h hs') ?_ ?_ acts hboot
    ((drainsInOrder_iff hboot).mpr rfl)
  · intro s a s' h hd ha hs'
    rw [drainsInOrder_iff h] at hd
    rw [drainsInOrder_iff (oneChannel_outStep h hs')]
    cases a with
    | publish p msg => exact (expected_publish_iff hd hs').mpr ha
    | _ =>
      obtain ⟨hexp, hpub⟩ := expected_outStep_of_task h rfl hs'
      rw [hexp, hpub, hd]
  · intro s a h hd ha
    rw [drainsInOrder_iff h] at hd
    cases a with
    | publish p msg =>
      obtain ⟨s', hs', -⟩ := outStep_publish_cases s p msg
      refine ⟨s', hs', fun hd' => ha ?_⟩
      rw [drainsInOrder_iff (oneChannel_outStep h hs')] at hd'
      exact (expected_publish_iff hd hs').mp hd'
    | _ => exact absurd trivial ha

/-- A heartbeat and a sensor reading published back to back, then two passes
of the transmit task. -/
def heartbeatAndReading : List OutAct :=
  [.publish .heartbeat (heartbeatMsg ⟨1, 0xFFFF, 0, 5, 0⟩ 7),
    .publish .sensor (sensorMsg ⟨1, 0xFFFF, 1, 5, 0⟩ 7 2150 4300 10132),
    .wait, .read, .send, .wait, .read, .send]

/-- **The heartbeat is lost there and the reading is sent twice**, although
both publications returned `0`. -/
theorem heartbeatAndReading_lost : ∃ s, run outStep outBoot heartbeatAndReading = some s
    ∧ s.bus.outstanding = 0
    ∧ s.published = [heartbeatMsg ⟨1, 0xFFFF, 0, 5, 0⟩ 7,
        sensorMsg ⟨1, 0xFFFF, 1, 5, 0⟩ 7 2150 4300 10132]
    ∧ s.read = [sensorMsg ⟨1, 0xFFFF, 1, 5, 0⟩ 7 2150 4300 10132,
        sensorMsg ⟨1, 0xFFFF, 1, 5, 0⟩ 7 2150 4300 10132]
    ∧ s.read ≠ s.published :=
  ⟨_, rfl, rfl, rfl, rfl, by decide⟩

end Terrascope
