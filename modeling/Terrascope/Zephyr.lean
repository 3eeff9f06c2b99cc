import Mathlib.Data.List.AList

/-!
# The kernel services the firmware runs on

Three services of the operating system, as its documentation describes
them: delayable work items, a message-bus channel with one subscriber, and
the settings store. Nothing here knows what the services are used for: a
work item is generic in the local state of its handler, a channel in the
identity of channels and in the message it carries.

A handler run is not atomic – it starts, takes locks, blocks and returns at
separate moments – so a work item that is running holds the local state of
the run, and whoever uses it moves that state along.
-/

namespace Zephyr

/-! ## Delayable work items -/

/-- **A delayable work item.** `running` holds the local state of the handler
run in progress, when there is one; the other three are the kernel's own
flags. -/
structure WorkDelayable (ρ : Type) where
  /-- The delay timer is running. -/
  delayed : Bool
  /-- The item waits in the work queue. -/
  queued : Bool
  /-- A cancellation waits for the handler run in progress. -/
  cancelling : Bool
  /-- The handler run in progress. -/
  running : Option ρ
deriving DecidableEq, Repr

section Work

variable {ρ : Type}

/-- `k_work_init_delayable`: an idle item. -/
def kWorkInitDelayable : WorkDelayable ρ := ⟨false, false, false, none⟩

/-- `k_work_cancel_delayable`: the timer and the queue entry are removed at
once. A handler run in progress is not waited for: the item is marked
cancelling until it returns. -/
def kWorkCancelDelayable (w : WorkDelayable ρ) : WorkDelayable ρ :=
  { w with
    delayed := false
    queued := false
    cancelling := w.cancelling || w.running.isSome }

/-- `k_work_schedule`: starts the delay of an item that is idle or only
running, and puts it in the queue directly when there is no delay. It does
nothing, and returns `0`, while the item is delayed, queued or
cancelling. -/
def kWorkSchedule (w : WorkDelayable ρ) (delay : UInt32) : WorkDelayable ρ × Int32 :=
  if w.delayed || w.queued || w.cancelling then (w, 0)
  else if delay = 0 then
    ({ w with queued := true }, if w.running.isSome then 2 else 1)
  else ({ w with delayed := true }, 1)

/-- The delay has passed: the item moves to the queue. -/
def WorkDelayable.expire (w : WorkDelayable ρ) : Option (WorkDelayable ρ) :=
  if w.delayed then some { w with delayed := false, queued := true } else none

/-- The queue thread takes the item and enters its handler, which is never
entered twice at a time. -/
def WorkDelayable.start (w : WorkDelayable ρ) (entry : ρ) : Option (WorkDelayable ρ) :=
  if w.queued && w.running.isNone then
    some { w with queued := false, running := some entry }
  else none

/-- The handler run moves on to another local state. -/
def WorkDelayable.resume (w : WorkDelayable ρ) (r : ρ) : WorkDelayable ρ :=
  { w with running := some r }

/-- The handler returns, which also completes a cancellation that waited
for it. -/
def WorkDelayable.complete (w : WorkDelayable ρ) : WorkDelayable ρ :=
  { w with running := none, cancelling := false }

/-- Something will still bring the item to its handler. -/
def WorkDelayable.pending (w : WorkDelayable ρ) : Bool := w.delayed || w.queued

@[simp] theorem pending_init : (kWorkInitDelayable : WorkDelayable ρ).pending = false := rfl

@[simp] theorem pending_cancel (w : WorkDelayable ρ) :
    (kWorkCancelDelayable w).pending = false := rfl

@[simp] theorem running_cancel (w : WorkDelayable ρ) :
    (kWorkCancelDelayable w).running = w.running := rfl

@[simp] theorem pending_resume (w : WorkDelayable ρ) (r : ρ) :
    (w.resume r).pending = w.pending := rfl

@[simp] theorem running_resume (w : WorkDelayable ρ) (r : ρ) :
    (w.resume r).running = some r := rfl

@[simp] theorem cancelling_resume (w : WorkDelayable ρ) (r : ρ) :
    (w.resume r).cancelling = w.cancelling := rfl

@[simp] theorem pending_complete (w : WorkDelayable ρ) : w.complete.pending = w.pending := rfl

@[simp] theorem running_complete (w : WorkDelayable ρ) : w.complete.running = none := rfl

@[simp] theorem cancelling_complete (w : WorkDelayable ρ) : w.complete.cancelling = false := rfl

/-- Scheduling never touches the handler run in progress. -/
@[simp] theorem running_schedule (w : WorkDelayable ρ) (delay : UInt32) :
    (kWorkSchedule w delay).1.running = w.running := by
  unfold kWorkSchedule
  split
  · rfl
  · split <;> rfl

@[simp] theorem cancelling_schedule (w : WorkDelayable ρ) (delay : UInt32) :
    (kWorkSchedule w delay).1.cancelling = w.cancelling := by
  unfold kWorkSchedule
  split
  · rfl
  · split <;> rfl

/-- **When scheduling has an effect**: an item with nothing pending gets
something pending exactly if no cancellation waits. -/
theorem pending_schedule_of_not_pending {w : WorkDelayable ρ} (delay : UInt32)
    (h : w.pending = false) :
    (kWorkSchedule w delay).1.pending = !w.cancelling := by
  have hd : w.delayed = false := (Bool.or_eq_false_iff.mp h).1
  have hq : w.queued = false := (Bool.or_eq_false_iff.mp h).2
  unfold kWorkSchedule WorkDelayable.pending
  rw [hd, hq]
  cases hc : w.cancelling with
  | true => simp [hd, hq]
  | false =>
    simp only [Bool.or_self, Bool.false_eq_true, ite_false]
    split <;> simp

/-- … which is what its result says. -/
theorem result_schedule_eq_zero_iff {w : WorkDelayable ρ} (delay : UInt32)
    (h : w.pending = false) : (kWorkSchedule w delay).2 = 0 ↔ w.cancelling = true := by
  have hd : w.delayed = false := (Bool.or_eq_false_iff.mp h).1
  have hq : w.queued = false := (Bool.or_eq_false_iff.mp h).2
  unfold kWorkSchedule
  rw [hd, hq]
  cases hc : w.cancelling with
  | true => simp
  | false =>
    have hone : (1 : Int32) ≠ 0 := by decide
    have htwo : (2 : Int32) ≠ 0 := by decide
    simp only [Bool.or_self, Bool.false_eq_true, ite_false, iff_false]
    split
    · split
      · exact htwo
      · exact hone
    · exact hone

/-- Scheduling an item with nothing pending leaves it delayed or queued, not
both. -/
theorem delayed_schedule_of_queued {w : WorkDelayable ρ} {delay : UInt32}
    (h : w.pending = false) (hq : (kWorkSchedule w delay).1.queued = true) :
    (kWorkSchedule w delay).1.delayed = false := by
  have hd : w.delayed = false := (Bool.or_eq_false_iff.mp h).1
  have hq' : w.queued = false := (Bool.or_eq_false_iff.mp h).2
  unfold kWorkSchedule at hq ⊢
  split at hq
  · rw [hq'] at hq
    cases hq
  · split at hq
    · next hnot hzero =>
      rw [if_neg hnot, if_pos hzero]
      exact hd
    · rw [hq'] at hq
      cases hq

theorem pending_of_delayed {w : WorkDelayable ρ} (h : w.delayed = true) : w.pending = true := by
  unfold WorkDelayable.pending
  rw [h, Bool.true_or]

theorem pending_of_queued {w : WorkDelayable ρ} (h : w.queued = true) : w.pending = true := by
  unfold WorkDelayable.pending
  rw [h, Bool.or_true]

/-- An expiry moves a delayed item to the queue. -/
theorem expire_eq_some {w w' : WorkDelayable ρ} (h : w.expire = some w') :
    w.delayed = true ∧ w' = { w with delayed := false, queued := true } := by
  unfold WorkDelayable.expire at h
  split at h
  · next hd =>
    cases h
    exact ⟨hd, rfl⟩
  · cases h

/-- A start takes a queued item that is not running. -/
theorem start_eq_some {w w' : WorkDelayable ρ} {r : ρ} (h : w.start r = some w') :
    w.queued = true ∧ w.running = none
      ∧ w' = { w with queued := false, running := some r } := by
  unfold WorkDelayable.start at h
  split at h
  · next hq =>
    cases h
    rw [Bool.and_eq_true, Option.isNone_iff_eq_none] at hq
    exact ⟨hq.1, hq.2, rfl⟩
  · cases h

end Work

/-! ## A message-bus channel with one subscriber -/

/-- **A channel and the notification queue of its subscriber.** The channel
stores one message; the queue stores the identities of channels that were
published, never messages. `pubs` counts the publications and is not read
by the service: it names the publication whose message is stored. -/
structure Channel (κ μ : Type) where
  /-- The stored message. -/
  msg : μ
  /-- The subscriber's notifications, oldest first. -/
  queue : List κ
  /-- How many publications there have been. -/
  pubs : ℕ
deriving DecidableEq, Repr

section Bus

variable {κ μ : Type}

/-- `zbus_chan_pub` on the channel `self`: overwrite the stored message, then
queue the channel's identity to the subscriber, whose queue holds `depth`
notifications. The second component says whether it returned `0`. -/
def zbusChanPub (depth : ℕ) (self : κ) (c : Channel κ μ) (m : μ) : Channel κ μ × Bool :=
  if c.queue.length < depth then
    ({ msg := m, queue := c.queue ++ [self], pubs := c.pubs + 1 }, true)
  else ({ c with msg := m, pubs := c.pubs + 1 }, false)

/-- `zbus_sub_wait`: take the oldest notification, blocking while there is
none. -/
def zbusSubWait (c : Channel κ μ) : Option (κ × Channel κ μ) :=
  match c.queue with
  | [] => none
  | k :: q => some (k, { c with queue := q })

/-- `zbus_chan_read`: copy the stored message. -/
def zbusChanRead (c : Channel κ μ) : μ := c.msg

/-- Every publication is counted, announced or not. -/
@[simp] theorem pubs_zbusChanPub (depth : ℕ) (self : κ) (c : Channel κ μ) (m : μ) :
    (zbusChanPub depth self c m).1.pubs = c.pubs + 1 := by
  unfold zbusChanPub
  split <;> rfl

end Bus

/-! ## The settings store -/

/-- **The settings store**: a finite map from full names to bytes, with
`settings_save_one` its insertion and `settings_delete` its erasure. The
order of its entries is not part of what it is. -/
abbrev SettingsStore : Type := AList (fun _ : List UInt8 => List UInt8)

/-- What `settings_load` goes through: the stored names with their values,
in an order of the service's own choosing. -/
structure SettingsLoad (store : SettingsStore) where
  /-- The entries, in the order they are handed to the callback. -/
  order : List (Sigma fun _ : List UInt8 => List UInt8)
  /-- Every stored name comes once. -/
  perm : order.Perm store.entries

end Zephyr
