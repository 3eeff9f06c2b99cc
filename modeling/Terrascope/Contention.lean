import Mathlib.Tactic.Common
import Terrascope.Config
import Terrascope.SlotArray

/-!
# The contention pool

`contention.c`: 32 slots, each with a delayable work item, a message and
the `(src, msg_id)` it is cancelled by. `ts_contention_schedule` and
`ts_contention_cancel` run under the pool mutex on the RX thread and are one
step each. The handler is not: it takes the mutex only to claim the message
(`claim`), publishes outside it (`publish`) and returns (`ret`), and an item
may be cancelled or its slot reused between any two of these.

A handler run is identified by its slot, since a work item runs its handler
once at a time. Runs of different slots are left free to overlap, which the
one thread of the system work queue never does: whatever holds for these
interleavings holds for the fewer real ones.
-/

namespace Terrascope

open Zephyr SlotArray

/-! ## Slots -/

/-- `TS_CONTENTION_POOL_SIZE`. -/
abbrev TS_CONTENTION_POOL_SIZE : ℕ := 32

/-- **Where a run of `ts_contention_work_handler` is**: before its locked
section, on its way to `zbus_chan_pub` with what it copied there, or about
to return. -/
inductive HandlerPc (τ : Type) where
  | entered
  | publishing (copy : Copy τ)
  | done
deriving DecidableEq

/-- `struct ts_contention_slot`. -/
structure ContentionSlot (τ : Type) where
  work : WorkDelayable (HandlerPc τ)
  copy : Copy τ
  src : UInt16
  msgId : UInt32
  occupied : Bool
deriving DecidableEq

/-- `pool`. -/
abbrev Pool (τ : Type) : Type := Fin TS_CONTENTION_POOL_SIZE → ContentionSlot τ

variable {τ : Type}

/-- What a slot is looked up by. -/
def ContentionSlot.key (slot : ContentionSlot τ) : UInt16 × UInt32 := (slot.src, slot.msgId)

/-- `pool` before `main`: zeros. -/
def staticPool [Inhabited τ] : Pool τ := fun _ =>
  { work := kWorkInitDelayable, copy := ⟨default, default⟩, src := 0, msgId := 0,
    occupied := false }

/-- `ts_contention_init`: every item idle, every slot free. -/
def tsContentionInit (pool : Pool τ) : Pool τ := fun i =>
  { pool i with work := kWorkInitDelayable, occupied := false }

/-- `find_free_slot`. -/
def findFreeSlot (pool : Pool τ) : Option (Fin TS_CONTENTION_POOL_SIZE) :=
  findSlot (fun i => !(pool i).occupied)

/-- `find_slot_by_msg`. -/
def findSlotByMsg (pool : Pool τ) (src : UInt16) (msgId : UInt32) :
    Option (Fin TS_CONTENTION_POOL_SIZE) :=
  findSlot (fun i => (pool i).occupied && (pool i).src == src && (pool i).msgId == msgId)

/-! ## Scheduling and cancelling -/

/-- `ts_contention_rssi_to_delay_ms`: the product is taken in `uint32_t`,
because one of its operands is unsigned, and so is the quotient. -/
def tsContentionRssiToDelayMs (cfg : TsConfig) (rssi : Int16) : UInt32 :=
  if rssi ≤ cfg.contentionRssiWeak then cfg.contentionDelayMinMs
  else if rssi ≥ cfg.contentionRssiStrong then cfg.contentionDelayMaxMs
  else
    let offset : Int32 := rssi.toInt32 - cfg.contentionRssiWeak.toInt32
    let range : Int32 := cfg.contentionRssiStrong.toInt32 - cfg.contentionRssiWeak.toInt32
    if range = 0 then cfg.contentionDelayMinMs
    else (offset.toUInt32 * cfg.contentionDelayMaxMs) / range.toUInt32

/-- `ts_contention_schedule`. The result of `k_work_schedule` is not looked
at. -/
def tsContentionSchedule (cfg : TsConfig) (pool : Pool τ) (c : Copy τ) (rssi : Int16) :
    Pool τ × Int32 :=
  match findFreeSlot pool with
  | none => (pool, -Errno.ENOMEM)
  | some i =>
    let slot : ContentionSlot τ :=
      { work := (kWorkSchedule (pool i).work (tsContentionRssiToDelayMs cfg rssi)).1
        copy := c
        src := c.msg.route.src
        msgId := c.msg.route.msgId
        occupied := true }
    (Function.update pool i slot, 0)

/-- `ts_contention_cancel`. -/
def tsContentionCancel (pool : Pool τ) (src : UInt16) (msgId : UInt32) : Pool τ × Int32 :=
  match findSlotByMsg pool src msgId with
  | none => (pool, -Errno.ENOENT)
  | some i =>
    let slot : ContentionSlot τ :=
      { pool i with work := kWorkCancelDelayable (pool i).work, occupied := false }
    (Function.update pool i slot, 0)

theorem neg_enomem_ne_zero : -Errno.ENOMEM ≠ 0 := by decide

/-- **What scheduling does**: it is refused, with nothing changed, by a full
pool, and takes a free slot otherwise. -/
theorem tsContentionSchedule_cases (cfg : TsConfig) (pool : Pool τ) (c : Copy τ)
    (rssi : Int16) :
    (findFreeSlot pool = none ∧ (∀ i, (pool i).occupied = true)
        ∧ tsContentionSchedule cfg pool c rssi = (pool, -Errno.ENOMEM))
      ∨ ∃ i, findFreeSlot pool = some i ∧ (pool i).occupied = false
        ∧ tsContentionSchedule cfg pool c rssi = (Function.update pool i
            ⟨(kWorkSchedule (pool i).work (tsContentionRssiToDelayMs cfg rssi)).1,
              c, c.msg.route.src, c.msg.route.msgId, true⟩, 0) := by
  unfold tsContentionSchedule
  cases h : findFreeSlot pool with
  | none =>
    refine Or.inl ⟨rfl, fun i => ?_, rfl⟩
    have hi := findSlot_eq_none.mp h i
    rwa [Bool.not_eq_false'] at hi
  | some i =>
    refine Or.inr ⟨i, rfl, ?_, rfl⟩
    have hi := findSlot_spec h
    rwa [Bool.not_eq_true'] at hi

/-- **What cancelling does**: it frees the slot it finds, and changes
nothing when no occupied slot has the key. -/
theorem tsContentionCancel_cases (pool : Pool τ) (src : UInt16) (msgId : UInt32) :
    (findSlotByMsg pool src msgId = none
        ∧ (∀ i, (pool i).occupied = true → (pool i).key ≠ (src, msgId))
        ∧ tsContentionCancel pool src msgId = (pool, -Errno.ENOENT))
      ∨ ∃ i, findSlotByMsg pool src msgId = some i ∧ (pool i).occupied = true
        ∧ (pool i).key = (src, msgId)
        ∧ tsContentionCancel pool src msgId = (Function.update pool i
            { pool i with work := kWorkCancelDelayable (pool i).work, occupied := false },
            0) := by
  unfold tsContentionCancel
  cases h : findSlotByMsg pool src msgId with
  | none =>
    refine Or.inl ⟨rfl, fun i hocc hkey => ?_, rfl⟩
    have hi := findSlot_eq_none.mp h i
    obtain ⟨hsrc, hid⟩ := Prod.mk.injEq _ _ _ _ ▸ hkey
    simp [hocc, hsrc, hid] at hi
  | some i =>
    have hi := findSlot_spec h
    simp only [Bool.and_eq_true, beq_iff_eq] at hi
    exact Or.inr ⟨i, rfl, hi.1.1, Prod.ext hi.1.2 hi.2, rfl⟩

/-! ## The timer and the handler -/

/-- **What happens to a slot on its own**: its delay expires, the work queue
enters the handler, and the handler takes its three steps. -/
inductive HandlerAct where
  | expire
  | start
  | claim
  | publish
  | ret
deriving DecidableEq, Repr

/-- `ts_contention_work_handler`, one step at a time. -/
def ContentionSlot.handle (slot : ContentionSlot τ) : HandlerAct → Option (ContentionSlot τ)
  | .expire => slot.work.expire.map (fun w => { slot with work := w })
  | .start => (slot.work.start .entered).map (fun w => { slot with work := w })
  | .claim =>
    match slot.work.running with
    | some .entered =>
      if slot.occupied then
        some { slot with work := slot.work.resume (.publishing slot.copy), occupied := false }
      else some { slot with work := slot.work.resume .done }
    | _ => none
  | .publish =>
    match slot.work.running with
    | some (.publishing _) => some { slot with work := slot.work.resume .done }
    | _ => none
  | .ret =>
    match slot.work.running with
    | some .done => some { slot with work := slot.work.complete }
    | _ => none

/-- What a step of the handler passes to `zbus_chan_pub`. -/
def ContentionSlot.publishes (slot : ContentionSlot τ) : HandlerAct → Option (Copy τ)
  | .publish =>
    match slot.work.running with
    | some (.publishing c) => some c
    | _ => none
  | _ => none

/-- Only the publish step passes something on. -/
theorem ContentionSlot.publishes_eq_some {slot : ContentionSlot τ} {a : HandlerAct}
    {c : Copy τ} : slot.publishes a = some c
      ↔ a = .publish ∧ slot.work.running = some (.publishing c) := by
  unfold publishes
  constructor
  · intro h
    split at h
    · split at h
      · next hrun => exact ⟨rfl, by rw [hrun, Option.some.inj h]⟩
      · cases h
    · cases h
  · rintro ⟨rfl, hrun⟩
    simp only [hrun]

/-- A step of one slot, in the pool. -/
def Pool.handle (pool : Pool τ) (i : Fin TS_CONTENTION_POOL_SIZE) (a : HandlerAct) :
    Option (Pool τ) :=
  ((pool i).handle a).map (Function.update pool i)

/-- **What the steps of a slot do**, guards included. -/
theorem ContentionSlot.handle_cases {slot slot' : ContentionSlot τ} {a : HandlerAct}
    (h : slot.handle a = some slot') :
    (∃ w, a = .expire ∧ slot.work.expire = some w ∧ slot' = { slot with work := w })
      ∨ (∃ w, a = .start ∧ slot.work.start .entered = some w ∧ slot' = { slot with work := w })
      ∨ (a = .claim ∧ slot.work.running = some .entered ∧ slot.occupied = true
        ∧ slot' = { slot with
            work := slot.work.resume (.publishing slot.copy), occupied := false })
      ∨ (a = .claim ∧ slot.work.running = some .entered ∧ slot.occupied = false
        ∧ slot' = { slot with work := slot.work.resume .done })
      ∨ (∃ c, a = .publish ∧ slot.work.running = some (.publishing c)
        ∧ slot' = { slot with work := slot.work.resume .done })
      ∨ (a = .ret ∧ slot.work.running = some .done
        ∧ slot' = { slot with work := slot.work.complete }) := by
  cases a with
  | expire =>
    obtain ⟨w, hw, rfl⟩ := Option.map_eq_some_iff.mp h
    exact Or.inl ⟨w, rfl, hw, rfl⟩
  | start =>
    obtain ⟨w, hw, rfl⟩ := Option.map_eq_some_iff.mp h
    exact Or.inr (Or.inl ⟨w, rfl, hw, rfl⟩)
  | claim =>
    simp only [handle] at h
    split at h
    · next hrun =>
      split at h
      · next hocc =>
        exact Or.inr (Or.inr (Or.inl ⟨rfl, hrun, hocc, (Option.some.inj h).symm⟩))
      · next hocc =>
        exact Or.inr (Or.inr (Or.inr (Or.inl
          ⟨rfl, hrun, Bool.eq_false_iff.mpr hocc, (Option.some.inj h).symm⟩)))
    · cases h
  | publish =>
    simp only [handle] at h
    split at h
    · next c hrun =>
      exact Or.inr (Or.inr (Or.inr (Or.inr (Or.inl
        ⟨c, rfl, hrun, (Option.some.inj h).symm⟩))))
    · cases h
  | ret =>
    simp only [handle] at h
    split at h
    · next hrun =>
      exact Or.inr (Or.inr (Or.inr (Or.inr (Or.inr ⟨rfl, hrun, (Option.some.inj h).symm⟩))))
    · cases h

/-- **What they leave alone**: the message, the key, and a slot that is free. -/
theorem ContentionSlot.handle_frame {slot slot' : ContentionSlot τ} {a : HandlerAct}
    (h : slot.handle a = some slot') : slot'.copy = slot.copy ∧ slot'.key = slot.key
      ∧ (slot'.occupied = true → slot.occupied = true) := by
  rcases ContentionSlot.handle_cases h with ⟨w, -, -, rfl⟩ | ⟨w, -, -, rfl⟩ |
    ⟨-, -, hocc, rfl⟩ | ⟨-, -, -, rfl⟩ | ⟨c, -, -, rfl⟩ | ⟨-, -, rfl⟩
  · exact ⟨rfl, rfl, id⟩
  · exact ⟨rfl, rfl, id⟩
  · exact ⟨rfl, rfl, fun _ => hocc⟩
  · exact ⟨rfl, rfl, id⟩
  · exact ⟨rfl, rfl, id⟩
  · exact ⟨rfl, rfl, id⟩

/-- A step of the pool is a step of one slot. -/
theorem Pool.handle_eq_some {pool pool' : Pool τ} {i : Fin TS_CONTENTION_POOL_SIZE}
    {a : HandlerAct} :
    pool.handle i a = some pool'
      ↔ ∃ slot', (pool i).handle a = some slot' ∧ pool' = Function.update pool i slot' := by
  unfold Pool.handle
  rw [Option.map_eq_some_iff]
  exact ⟨fun ⟨s, hs, h⟩ => ⟨s, hs, h.symm⟩, fun ⟨s, hs, h⟩ => ⟨s, hs, h.symm⟩⟩

/-! ## The copies in a slot -/

section Copies

variable [DecidableEq τ]

/-- The slot is occupied by a copy with tag `k`. -/
def holds (k : τ) (slot : ContentionSlot τ) : ℕ :=
  if slot.occupied ∧ slot.copy.tag = k then 1 else 0

/-- The slot's handler run is about to publish a copy with tag `k`. -/
def carries (k : τ) (slot : ContentionSlot τ) : ℕ :=
  match slot.work.running with
  | some (.publishing c) => if c.tag = k then 1 else 0
  | _ => 0

theorem holds_of_free {slot : ContentionSlot τ} (h : slot.occupied = false) (k : τ) :
    holds k slot = 0 := by
  unfold holds
  rw [if_neg]
  rintro ⟨hocc, -⟩
  rw [h] at hocc
  cases hocc

theorem holds_of_occupied {slot : ContentionSlot τ} (h : slot.occupied = true) (k : τ) :
    holds k slot = if slot.copy.tag = k then 1 else 0 := by
  unfold holds
  rw [h]
  simp only [true_and]

/-- Only the handler run matters for what a slot carries. -/
theorem carries_congr {slot slot' : ContentionSlot τ}
    (h : slot'.work.running = slot.work.running) (k : τ) :
    carries k slot' = carries k slot := by
  unfold carries
  rw [h]

end Copies

/-! ## The pool on its own -/

/-- A step of the RX thread or of the work queue, as far as the pool is
concerned. -/
inductive PoolAct where
  | schedule (cfg : TsConfig) (msg : TsMsgLoraOutgoing) (rssi : Int16)
  | cancel (src : UInt16) (msgId : UInt32)
  | handler (slot : Fin TS_CONTENTION_POOL_SIZE) (act : HandlerAct)

/-- **The pool and the number of copies it has accepted**, which numbers the
copies: copy `k` is the one the `k`-th successful call stored. -/
structure PoolRun where
  pool : Pool ℕ
  scheduled : ℕ

/-- After `ts_contention_init`. -/
def poolBoot : PoolRun := ⟨tsContentionInit staticPool, 0⟩

/-- One step. -/
def poolStep (s : PoolRun) : PoolAct → Option PoolRun
  | .schedule cfg msg rssi =>
    let (pool, ret) := tsContentionSchedule cfg s.pool ⟨msg, s.scheduled⟩ rssi
    some ⟨pool, if ret = 0 then s.scheduled + 1 else s.scheduled⟩
  | .cancel src msgId => some ⟨(tsContentionCancel s.pool src msgId).1, s.scheduled⟩
  | .handler i a => (s.pool.handle i a).map (fun pool => ⟨pool, s.scheduled⟩)

/-- A call of `ts_contention_schedule`, its two results apart. -/
theorem poolStep_schedule (s : PoolRun) (cfg : TsConfig) (msg : TsMsgLoraOutgoing)
    (rssi : Int16) :
    poolStep s (.schedule cfg msg rssi)
      = some ⟨(tsContentionSchedule cfg s.pool ⟨msg, s.scheduled⟩ rssi).1,
          if (tsContentionSchedule cfg s.pool ⟨msg, s.scheduled⟩ rssi).2 = 0
          then s.scheduled + 1 else s.scheduled⟩ := rfl

/-- **What a step does to the pool**: it replaces one slot, or none. -/
inductive PoolStep (s : PoolRun) : PoolAct → PoolRun → Prop
  | full {cfg : TsConfig} {msg : TsMsgLoraOutgoing} {rssi : Int16}
      (hnone : findFreeSlot s.pool = none) : PoolStep s (.schedule cfg msg rssi) s
  | taken {cfg : TsConfig} {msg : TsMsgLoraOutgoing} {rssi : Int16}
      {i : Fin TS_CONTENTION_POOL_SIZE} (hfind : findFreeSlot s.pool = some i)
      (hfree : (s.pool i).occupied = false) :
      PoolStep s (.schedule cfg msg rssi)
        ⟨Function.update s.pool i
          ⟨(kWorkSchedule (s.pool i).work (tsContentionRssiToDelayMs cfg rssi)).1,
            ⟨msg, s.scheduled⟩, msg.route.src, msg.route.msgId, true⟩, s.scheduled + 1⟩
  | notFound {src : UInt16} {msgId : UInt32} (hnone : findSlotByMsg s.pool src msgId = none) :
      PoolStep s (.cancel src msgId) s
  | cancelled {src : UInt16} {msgId : UInt32} {i : Fin TS_CONTENTION_POOL_SIZE}
      (hfind : findSlotByMsg s.pool src msgId = some i) :
      PoolStep s (.cancel src msgId)
        ⟨Function.update s.pool i
          { s.pool i with work := kWorkCancelDelayable (s.pool i).work, occupied := false },
          s.scheduled⟩
  | handled {i : Fin TS_CONTENTION_POOL_SIZE} {a : HandlerAct} {slot : ContentionSlot ℕ}
      (hslot : (s.pool i).handle a = some slot) :
      PoolStep s (.handler i a) ⟨Function.update s.pool i slot, s.scheduled⟩

theorem PoolStep.of_poolStep {s s' : PoolRun} {a : PoolAct} (h : poolStep s a = some s') :
    PoolStep s a s' := by
  cases a with
  | schedule cfg msg rssi =>
    rw [poolStep_schedule] at h
    rw [← Option.some.inj h]
    rcases tsContentionSchedule_cases cfg s.pool ⟨msg, s.scheduled⟩ rssi with
      ⟨hnone, -, heq⟩ | ⟨i, hfind, hfree, heq⟩
    · rw [heq, if_neg neg_enomem_ne_zero]
      exact .full hnone
    · rw [heq, if_pos rfl]
      exact .taken hfind hfree
  | cancel src msgId =>
    simp only [poolStep] at h
    rw [← Option.some.inj h]
    rcases tsContentionCancel_cases s.pool src msgId with
      ⟨hnone, -, heq⟩ | ⟨i, hfind, -, -, heq⟩
    · rw [heq]
      exact .notFound hnone
    · rw [heq]
      exact .cancelled hfind
  | handler i a =>
    obtain ⟨pool, hpool, rfl⟩ := Option.map_eq_some_iff.mp h
    obtain ⟨slot, hslot, rfl⟩ := Pool.handle_eq_some.mp hpool
    exact .handled hslot

/-- What becomes of copies. -/
inductive PoolEvent where
  /-- `ts_contention_schedule` stored the copy and returned `0`. -/
  | scheduled (copy : Copy ℕ)
  /-- `ts_contention_cancel` freed the copy's slot and returned `0`. -/
  | cancelled (copy : Copy ℕ)
  /-- A handler run took the copy out of its slot. -/
  | claimed (slot : Fin TS_CONTENTION_POOL_SIZE) (copy : Copy ℕ)
  /-- A handler run passed the copy to `zbus_chan_pub`. -/
  | published (copy : Copy ℕ)
deriving DecidableEq

/-- What a step does to copies. -/
def poolEvents (s : PoolRun) : PoolAct → List PoolEvent
  | .schedule cfg msg rssi =>
    if (tsContentionSchedule cfg s.pool ⟨msg, s.scheduled⟩ rssi).2 = 0 then
      [.scheduled ⟨msg, s.scheduled⟩]
    else []
  | .cancel src msgId =>
    ((findSlotByMsg s.pool src msgId).map (fun i => .cancelled (s.pool i).copy)).toList
  | .handler i .claim =>
    if (s.pool i).occupied then [.claimed i (s.pool i).copy] else []
  | .handler i a => (((s.pool i).publishes a).map .published).toList

end Terrascope
