import Terrascope.Contention
import Terrascope.Transition

/-!
# Initialising the pool again

A call of `ts_contention_init` after the first one cancels every work item
and waits for its handler before it clears the slot, and it holds the pool
mutex all the while. The handler takes that mutex. So the call may wait for a
handler that cannot go on before the call has ended.

The mutex, which the other modules take for granted, is a part of the state
here, and so is the place of the call. With nobody at the mutex the pool is
the one of the other modules (`run_poolStep`), and a call that comes to its
end has done what `tsContentionInit` does. `not_deadlocked_iff` says which
interleavings are good: those in which no item is cancelled while its handler
run has been entered and has not locked the mutex yet. The others never get
out of the deadlock (`Deadlocked.run`).
-/

namespace Terrascope

open Zephyr Transition

theorem tsContentionPoolSize_pos : 0 < TS_CONTENTION_POOL_SIZE := by decide

/-- **Where a call of `ts_contention_init` is.** -/
inductive InitPc where
  /-- There is none. -/
  | idle
  /-- At `k_mutex_lock`. -/
  | locking
  /-- About to call `k_work_cancel_delayable_sync` for a slot's item. -/
  | cancelling (slot : Fin TS_CONTENTION_POOL_SIZE)
  /-- In it, until no handler run of the item is in progress. -/
  | waiting (slot : Fin TS_CONTENTION_POOL_SIZE)
  /-- Past it, with the slot still to be cleared. -/
  | resetting (slot : Fin TS_CONTENTION_POOL_SIZE)
  /-- Past the loop. -/
  | unlocking
deriving DecidableEq

namespace InitPc

/-- The first pass of the loop. -/
def first : InitPc := .cancelling ⟨0, tsContentionPoolSize_pos⟩

/-- The next pass of the loop, or its end. -/
def after (i : Fin TS_CONTENTION_POOL_SIZE) : InitPc :=
  if h : i.val + 1 < TS_CONTENTION_POOL_SIZE then .cancelling ⟨i.val + 1, h⟩ else .unlocking

/-- It is between its lock and its unlock. -/
def Holds : InitPc → Prop
  | .idle | .locking => False
  | _ => True

/-- It has cleared the slot. -/
def Done (j : Fin TS_CONTENTION_POOL_SIZE) : InitPc → Prop
  | .cancelling i | .waiting i | .resetting i => j < i
  | .unlocking => True
  | _ => False

theorem after_ne_waiting (i j : Fin TS_CONTENTION_POOL_SIZE) : after i ≠ .waiting j := by
  unfold after
  split <;> exact InitPc.noConfusion

theorem done_after {i j : Fin TS_CONTENTION_POOL_SIZE} (h : (after i).Done j) : j ≤ i := by
  unfold after at h
  split at h
  · exact Nat.lt_succ_iff.mp h
  · next hlast =>
    have hj := j.isLt
    exact Fin.le_def.mpr (by omega)

end InitPc

/-- **Who holds `pool_mutex`**, besides the RX thread, whose two calls are one
step each. -/
inductive MutexHolder where
  | init
  | handler (slot : Fin TS_CONTENTION_POOL_SIZE)
deriving DecidableEq

/-- **The pool, its mutex and a call of `ts_contention_init`.** -/
structure Reinit where
  run : PoolRun
  mutex : Option MutexHolder
  pc : InitPc

/-- A step of one of the threads. -/
inductive ReinitAct where
  /-- The RX thread, a timer, the work queue or a handler run. -/
  | pool (act : PoolAct)
  /-- A handler run locks the mutex. -/
  | lock (slot : Fin TS_CONTENTION_POOL_SIZE)
  /-- A handler run unlocks it. -/
  | unlock (slot : Fin TS_CONTENTION_POOL_SIZE)
  /-- `ts_contention_init` is called, or goes on. -/
  | init

/-- One slot replaced. -/
def PoolRun.write (r : PoolRun) (i : Fin TS_CONTENTION_POOL_SIZE) (slot : ContentionSlot ℕ) :
    PoolRun :=
  { r with pool := Function.update r.pool i slot }

namespace Reinit

/-- The pool, with nobody at the mutex. -/
def quiet (r : PoolRun) : Reinit := ⟨r, none, .idle⟩

/-- After the first call of `ts_contention_init`, which has set
`pool_initialized`. -/
def boot : Reinit := quiet poolBoot

/-- **What the mutex allows**: the RX thread locks it for the whole of a call,
a handler run for its claim only. -/
def permits (mutex : Option MutexHolder) : PoolAct → Bool
  | .schedule _ _ _ => mutex = none
  | .cancel _ _ => mutex = none
  | .handler i .claim => mutex = some (.handler i)
  | .handler i .publish => mutex ≠ some (.handler i)
  | .handler i .ret => mutex ≠ some (.handler i)
  | .handler _ .expire => true
  | .handler _ .start => true

/-- **`ts_contention_init`, one step at a time.** -/
def initStep (s : Reinit) : Option Reinit :=
  match s.pc with
  | .idle => some { s with pc := .locking }
  | .locking =>
    if s.mutex = none then some { s with mutex := some .init, pc := .first } else none
  | .cancelling i =>
    let slot := s.run.pool i
    some { s with
      run := s.run.write i { slot with work := kWorkCancelDelayable slot.work }
      pc := .waiting i }
  | .waiting i =>
    if (s.run.pool i).work.running = none then some { s with pc := .resetting i } else none
  | .resetting i =>
    let slot := s.run.pool i
    some { s with
      run := s.run.write i { slot with work := kWorkInitDelayable, occupied := false }
      pc := .after i }
  | .unlocking => some { s with mutex := none, pc := .idle }

/-- **One step.** -/
def step (s : Reinit) : ReinitAct → Option Reinit
  | .pool act =>
    if permits s.mutex act then (poolStep s.run act).map (fun run => { s with run := run })
    else none
  | .lock i =>
    if (s.run.pool i).work.running = some .entered ∧ s.mutex = none then
      some { s with mutex := some (.handler i) }
    else none
  | .unlock i =>
    if s.mutex = some (.handler i) ∧ (s.run.pool i).work.running ≠ some .entered then
      some { s with mutex := none }
    else none
  | .init => s.initStep

/-- **A handler run waits for the mutex**: it has been entered, and the mutex
is another's. -/
def HandlerWaits (s : Reinit) (i : Fin TS_CONTENTION_POOL_SIZE) : Prop :=
  (s.run.pool i).work.running = some .entered ∧ s.mutex ≠ none ∧ s.mutex ≠ some (.handler i)

/-- **The deadlock**: the call waits for a handler run that waits for the
mutex. -/
def Deadlocked (s : Reinit) : Prop := ∃ i, s.pc = .waiting i ∧ s.HandlerWaits i

/-- **The condition on a step.** An item is not cancelled by the call while
its handler run has been entered and has not locked the mutex. -/
def CancelsInTime (s : Reinit) : ReinitAct → Prop
  | .init => ∀ i, s.pc = .cancelling i → (s.run.pool i).work.running ≠ some .entered
  | _ => True

/-- **What holds during a call.** -/
structure Inv (s : Reinit) : Prop where
  mutex : s.pc.Holds → s.mutex = some .init
  /-- The item waited for will not enter its handler again. -/
  idle : ∀ i, s.pc = .waiting i → (s.run.pool i).work.pending = false
  reset : ∀ j, s.pc.Done j →
    (s.run.pool j).work = kWorkInitDelayable ∧ (s.run.pool j).occupied = false

end Reinit

/-! ## Handler runs during a call -/

/-- An item with nothing pending enters its handler no more. -/
theorem ContentionSlot.handle_idle {slot slot' : ContentionSlot ℕ} {a : HandlerAct}
    (h : slot.handle a = some slot') (hidle : slot.work.pending = false) :
    slot'.work.pending = false
      ∧ (slot'.work.running = some .entered → slot.work.running = some .entered) := by
  rcases ContentionSlot.handle_cases h with ⟨w, -, hw, rfl⟩ | ⟨w, -, hw, rfl⟩ |
    ⟨-, -, -, rfl⟩ | ⟨-, -, -, rfl⟩ | ⟨c, -, -, rfl⟩ | ⟨-, -, rfl⟩
  · obtain ⟨hd, -⟩ := expire_eq_some hw
    cases hidle.symm.trans (pending_of_delayed hd)
  · obtain ⟨hq, -, -⟩ := start_eq_some hw
    cases hidle.symm.trans (pending_of_queued hq)
  all_goals exact ⟨hidle, fun hrun => by cases hrun⟩

/-- An item that is idle takes no step. -/
theorem ContentionSlot.handle_init {slot : ContentionSlot ℕ} (h : slot.work = kWorkInitDelayable)
    (a : HandlerAct) : slot.handle a = none := by
  unfold ContentionSlot.handle
  rw [h]
  cases a <;> rfl

/-- A handler run that has been entered can only claim. -/
theorem ContentionSlot.handle_entered {slot : ContentionSlot ℕ}
    (h : slot.work.running = some .entered) (hidle : slot.work.pending = false) {a : HandlerAct}
    (ha : a ≠ .claim) : slot.handle a = none := by
  refine Option.eq_none_iff_forall_ne_some.mpr (fun slot' hs => ?_)
  rcases ContentionSlot.handle_cases hs with ⟨w, -, hw, -⟩ | ⟨w, -, hw, -⟩ |
    ⟨hclaim, -⟩ | ⟨hclaim, -⟩ | ⟨c, -, hrun, -⟩ | ⟨-, hrun, -⟩
  · cases hidle.symm.trans (pending_of_delayed (expire_eq_some hw).1)
  · cases h.symm.trans (start_eq_some hw).2.1
  · exact ha hclaim
  · exact ha hclaim
  · cases h.symm.trans hrun
  · cases h.symm.trans hrun

namespace Reinit

variable {s s' : Reinit}

/-- **The steps, case by case**, with what each has checked. -/
inductive Step (s : Reinit) : ReinitAct → Reinit → Prop
  | pool {act : PoolAct} {run : PoolRun} (hpermits : permits s.mutex act = true)
      (hrun : poolStep s.run act = some run) : Step s (.pool act) { s with run := run }
  | lock {i : Fin TS_CONTENTION_POOL_SIZE} (hrun : (s.run.pool i).work.running = some .entered)
      (hfree : s.mutex = none) : Step s (.lock i) { s with mutex := some (.handler i) }
  | unlock {i : Fin TS_CONTENTION_POOL_SIZE} (hheld : s.mutex = some (.handler i))
      (hrun : (s.run.pool i).work.running ≠ some .entered) :
      Step s (.unlock i) { s with mutex := none }
  | called (hpc : s.pc = .idle) : Step s .init { s with pc := .locking }
  | locked (hpc : s.pc = .locking) (hfree : s.mutex = none) :
      Step s .init { s with mutex := some .init, pc := .first }
  | cancelled {i : Fin TS_CONTENTION_POOL_SIZE} (hpc : s.pc = .cancelling i) :
      Step s .init { s with
        run := s.run.write i
          { s.run.pool i with work := kWorkCancelDelayable (s.run.pool i).work }
        pc := .waiting i }
  | returned {i : Fin TS_CONTENTION_POOL_SIZE} (hpc : s.pc = .waiting i)
      (hrun : (s.run.pool i).work.running = none) : Step s .init { s with pc := .resetting i }
  | cleared {i : Fin TS_CONTENTION_POOL_SIZE} (hpc : s.pc = .resetting i) :
      Step s .init { s with
        run := s.run.write i { s.run.pool i with work := kWorkInitDelayable, occupied := false }
        pc := .after i }
  | unlocked (hpc : s.pc = .unlocking) : Step s .init { s with mutex := none, pc := .idle }

theorem Step.of_step {a : ReinitAct} (h : s.step a = some s') : Step s a s' := by
  cases a with
  | pool act =>
    simp only [step] at h
    split at h
    · next hpermits =>
      obtain ⟨run, hrun, rfl⟩ := Option.map_eq_some_iff.mp h
      exact .pool hpermits hrun
    · cases h
  | lock i =>
    simp only [step] at h
    split at h
    · next hguard =>
      cases h
      exact .lock hguard.1 hguard.2
    · cases h
  | unlock i =>
    simp only [step] at h
    split at h
    · next hguard =>
      cases h
      exact .unlock hguard.1 hguard.2
    · cases h
  | init =>
    simp only [step, initStep] at h
    split at h
    · next hpc =>
      cases h
      exact .called hpc
    · next hpc =>
      split at h
      · next hfree =>
        cases h
        exact .locked hpc hfree
      · cases h
    · next hpc =>
      cases h
      exact .cancelled hpc
    · next hpc =>
      split at h
      · next hrun =>
        cases h
        exact .returned hpc hrun
      · cases h
    · next hpc =>
      cases h
      exact .cleared hpc
    · next hpc =>
      cases h
      exact .unlocked hpc

/-- **While the call holds the mutex**, the pool moves by the steps of
handler runs and timers alone. -/
theorem handled_of_permits {act : PoolAct} {run : PoolRun} (hm : s.mutex = some .init)
    (hpermits : permits s.mutex act = true) (hrun : poolStep s.run act = some run) :
    ∃ i a slot, a ≠ .claim ∧ (s.run.pool i).handle a = some slot
      ∧ run = s.run.write i slot := by
  rw [hm] at hpermits
  cases PoolStep.of_poolStep hrun with
  | full | taken | notFound | cancelled => cases hpermits
  | handled hslot => exact ⟨_, _, _, fun hclaim => (by cases hclaim; cases hpermits), hslot, rfl⟩

theorem inv_quiet (r : PoolRun) : (quiet r).Inv where
  mutex := fun h => absurd h id
  idle := fun _ h => by cases h
  reset := fun _ h => absurd h id

/-- Outside the lock there is nothing to hold. -/
theorem inv_of_not_holds (h : ¬ s.pc.Holds) : s.Inv where
  mutex := fun hh => absurd hh h
  idle := fun i hi => absurd (hi ▸ trivial) h
  reset := fun j hj => by
    cases hpc : s.pc <;> rw [hpc] at h hj <;> first | exact absurd trivial h | exact absurd hj id

/-- **Every step keeps the invariant.** -/
theorem Inv.step (h : s.Inv) {a : ReinitAct} (hs : s.step a = some s') : s'.Inv := by
  cases Step.of_step hs with
  | pool hpermits hrun =>
    by_cases hholds : s.pc.Holds
    · obtain ⟨i, a, slot, -, hslot, rfl⟩ := handled_of_permits (h.mutex hholds) hpermits hrun
      refine ⟨h.mutex, fun j hj => ?_, fun j hj => ?_⟩
      · show (Function.update s.run.pool i slot j).work.pending = false
        by_cases hji : j = i
        · subst hji
          rw [Function.update_self]
          exact (ContentionSlot.handle_idle hslot (h.idle j hj)).1
        · rw [Function.update_of_ne hji]
          exact h.idle j hj
      · show (Function.update s.run.pool i slot j).work = kWorkInitDelayable
          ∧ (Function.update s.run.pool i slot j).occupied = false
        by_cases hji : j = i
        · subst hji
          cases hslot.symm.trans (ContentionSlot.handle_init (h.reset j hj).1 a)
        · rw [Function.update_of_ne hji]
          exact h.reset j hj
    · exact inv_of_not_holds hholds
  | lock hrun hfree =>
    refine inv_of_not_holds (fun hholds => ?_)
    cases hfree.symm.trans (h.mutex hholds)
  | unlock hheld hrun =>
    refine inv_of_not_holds (fun hholds => ?_)
    cases hheld.symm.trans (h.mutex hholds)
  | called hpc => exact inv_of_not_holds id
  | locked hpc hfree =>
    exact ⟨fun _ => rfl, (fun _ hi => by cases hi), fun j hj => absurd hj (Nat.not_lt_zero _)⟩
  | @cancelled i hpc =>
    refine ⟨fun _ => h.mutex (hpc ▸ trivial), fun j hj => ?_, fun j hj => ?_⟩
    · cases hj
      show (Function.update s.run.pool i _ i).work.pending = false
      rw [Function.update_self]
      exact pending_cancel _
    · show (Function.update s.run.pool i _ j).work = kWorkInitDelayable
        ∧ (Function.update s.run.pool i _ j).occupied = false
      rw [Function.update_of_ne (ne_of_lt hj)]
      exact h.reset j (hpc ▸ hj)
  | returned hpc hrun =>
    exact ⟨fun _ => h.mutex (hpc ▸ trivial), (fun _ hj => by cases hj),
      fun j hj => h.reset j (hpc ▸ hj)⟩
  | @cleared i hpc =>
    refine ⟨fun _ => h.mutex (hpc ▸ trivial), fun j hj => ?_, fun j hj => ?_⟩
    · exact absurd hj (InitPc.after_ne_waiting i j)
    · show (Function.update s.run.pool i _ j).work = kWorkInitDelayable
        ∧ (Function.update s.run.pool i _ j).occupied = false
      by_cases hji : j = i
      · rw [hji, Function.update_self]
        exact ⟨rfl, rfl⟩
      · rw [Function.update_of_ne hji]
        have hlt : j < i := lt_of_le_of_ne (InitPc.done_after hj) hji
        exact h.reset j (hpc ▸ hlt)
  | unlocked hpc => exact inv_of_not_holds id

/-! ## The pool as it is elsewhere -/

/-- A step of the pool, with the locked section of a handler run taken
apart. -/
def inFull : PoolAct → List ReinitAct
  | .handler i .claim => [.lock i, .pool (.handler i .claim), .unlock i]
  | a => [.pool a]

/-- A claim is past the mutex. -/
theorem running_of_claim {slot slot' : ContentionSlot ℕ} (h : slot.handle .claim = some slot') :
    slot.work.running = some .entered ∧ slot'.work.running ≠ some .entered := by
  rcases ContentionSlot.handle_cases h with ⟨w, ha, -⟩ | ⟨w, ha, -⟩ | ⟨-, hrun, -, rfl⟩ |
    ⟨-, hrun, -, rfl⟩ | ⟨c, ha, -⟩ | ⟨ha, -⟩
  · cases ha
  · cases ha
  · exact ⟨hrun, fun heq => by cases heq⟩
  · exact ⟨hrun, fun heq => by cases heq⟩
  · cases ha
  · cases ha

/-- **A step of the pool is a step here**, with nobody at the mutex before and
after. -/
theorem run_inFull {r r' : PoolRun} {a : PoolAct} (h : poolStep r a = some r') :
    Transition.run step (quiet r) (inFull a) = some (quiet r') := by
  have hone : permits none a = true →
      Transition.run step (quiet r) [.pool a] = some (quiet r') := by
    intro hpermits
    refine run_cons_eq_some.mpr ⟨quiet r', ?_, rfl⟩
    simp only [step, quiet, hpermits, if_true, h, Option.map_some]
  cases a with
  | schedule cfg msg rssi => exact hone rfl
  | cancel src msgId => exact hone rfl
  | handler i a =>
    cases a with
    | expire | start | publish | ret => exact hone rfl
    | claim =>
      obtain ⟨slot, hslot, hr'⟩ : ∃ slot, (r.pool i).handle .claim = some slot
          ∧ r'.pool i = slot := by
        cases PoolStep.of_poolStep h with
        | handled hslot => exact ⟨_, hslot, Function.update_self _ _ _⟩
      obtain ⟨hbefore, hafter⟩ := running_of_claim hslot
      have hclaim : step ⟨r, some (.handler i), .idle⟩ (.pool (.handler i .claim))
          = some ⟨r', some (.handler i), .idle⟩ := by
        simp only [step, permits, decide_true, if_true, h, Option.map_some]
      have hunlock : step ⟨r', some (.handler i), .idle⟩ (.unlock i) = some (quiet r') :=
        if_pos ⟨rfl, hr' ▸ hafter⟩
      exact run_cons_eq_some.mpr ⟨_, if_pos ⟨hbefore, rfl⟩,
        run_cons_eq_some.mpr ⟨_, hclaim, run_cons_eq_some.mpr ⟨_, hunlock, rfl⟩⟩⟩

/-- **Every run of the pool is one here.** -/
theorem run_poolStep {r r' : PoolRun} {acts : List PoolAct}
    (h : Transition.run poolStep r acts = some r') :
    Transition.run step (quiet r) (acts.flatMap inFull) = some (quiet r') := by
  induction acts generalizing r with
  | nil =>
    cases h
    rfl
  | cons a acts ih =>
    obtain ⟨r₁, hr₁, hrest⟩ := run_cons_eq_some.mp h
    rw [List.flatMap_cons]
    exact run_append_eq_some.mpr ⟨quiet r₁, run_inFull hr₁, ih hrest⟩

/-- **At its end a call has done what `ts_contention_init` does**: all items
are idle and all slots free. -/
theorem Inv.tsContentionInit_eq (h : s.Inv) (hpc : s.pc = .unlocking) :
    tsContentionInit s.run.pool = s.run.pool := by
  funext i
  obtain ⟨hwork, hfree⟩ := h.reset i (hpc ▸ trivial)
  unfold tsContentionInit
  rw [← hwork, ← hfree]

/-! ## The deadlock -/

/-- **A step that cancels in time deadlocks nothing.** -/
theorem not_deadlocked_step (h : s.Inv) (hn : ¬ s.Deadlocked) {a : ReinitAct}
    (ha : s.CancelsInTime a) (hs : s.step a = some s') : ¬ s'.Deadlocked := by
  rintro ⟨i, hpc', hrun', hheld', hother'⟩
  cases Step.of_step hs with
  | pool hpermits hrun =>
    have hpc : s.pc = .waiting i := hpc'
    have hm := h.mutex (hpc ▸ trivial)
    obtain ⟨j, a, slot, -, hslot, rfl⟩ := handled_of_permits hm hpermits hrun
    refine hn ⟨i, hpc, ?_, hheld', hother'⟩
    change (Function.update s.run.pool j slot i).work.running = _ at hrun'
    by_cases hij : i = j
    · subst hij
      rw [Function.update_self] at hrun'
      exact (ContentionSlot.handle_idle hslot (h.idle i hpc)).2 hrun'
    · rwa [Function.update_of_ne hij] at hrun'
  | lock hrun hfree =>
    have hpc : s.pc = .waiting i := hpc'
    cases hfree.symm.trans (h.mutex (hpc ▸ trivial))
  | unlock | unlocked => exact hheld' rfl
  | called | locked | returned => cases hpc'
  | @cancelled j hpc =>
    cases hpc'
    change (Function.update s.run.pool i _ i).work.running = _ at hrun'
    rw [Function.update_self] at hrun'
    exact ha i hpc hrun'
  | cleared => exact InitPc.after_ne_waiting _ _ hpc'

/-- **One that does not deadlocks at once.** -/
theorem deadlocked_of_not_cancelsInTime (h : s.Inv) {a : ReinitAct} (ha : ¬ s.CancelsInTime a) :
    ∃ s', s.step a = some s' ∧ s'.Deadlocked := by
  cases a with
  | pool act => exact absurd trivial ha
  | lock i => exact absurd trivial ha
  | unlock i => exact absurd trivial ha
  | init =>
    simp only [CancelsInTime, not_forall, ne_eq, not_not] at ha
    obtain ⟨i, hpc, hrun⟩ := ha
    have hm := h.mutex (hpc ▸ trivial)
    refine ⟨_, by simp only [step, initStep, hpc]; rfl, i, rfl, ?_, ?_, ?_⟩
    · show (Function.update s.run.pool i _ i).work.running = _
      rw [Function.update_self]
      exact hrun
    · rw [hm]
      exact Option.some_ne_none _
    · rw [hm]
      exact fun heq => by cases heq

/-- **No call deadlocks exactly when every item is cancelled in time.** In
every interleaving of calls of `ts_contention_init` with schedules,
cancellations, expiries and the steps of handler runs, no state has the call
waiting for a handler run that waits for the mutex, if and only if no item is
cancelled by the call while its handler run has been entered and has not
locked the mutex. -/
theorem not_deadlocked_iff (acts : List ReinitAct) :
    AllStates step (fun s => ¬ s.Deadlocked) boot acts ↔ AllSteps step CancelsInTime boot acts :=
  allStates_iff_allSteps (I := Inv) (fun _ _ _ h _ hs => h.step hs)
    (fun _ _ _ h hn ha hs => not_deadlocked_step h hn ha hs)
    (fun _ _ h _ ha =>
      let ⟨s', hs, hd⟩ := deadlocked_of_not_cancelsInTime h ha
      ⟨s', hs, not_not_intro hd⟩)
    acts (inv_quiet poolBoot) (fun ⟨_, hpc, _⟩ => by cases hpc)

/-- **A deadlock stays**, whatever the other threads do. -/
theorem Deadlocked.step (hd : s.Deadlocked) (h : s.Inv) {a : ReinitAct}
    (hs : s.step a = some s') : s'.Deadlocked := by
  obtain ⟨i, hpc, hrunning, hheld, hother⟩ := hd
  have hm := h.mutex (hpc ▸ trivial)
  cases Step.of_step hs with
  | pool hpermits hrun =>
    obtain ⟨j, a, slot, hclaim, hslot, rfl⟩ := handled_of_permits hm hpermits hrun
    refine ⟨i, hpc, ?_, hheld, hother⟩
    show (Function.update s.run.pool j slot i).work.running = some .entered
    by_cases hij : i = j
    · subst hij
      cases hslot.symm.trans (ContentionSlot.handle_entered hrunning (h.idle i hpc) hclaim)
    · rwa [Function.update_of_ne hij]
  | lock hrun hfree => cases hfree.symm.trans hm
  | unlock hheld' hrun => cases hheld'.symm.trans hm
  | returned hpc' hrun =>
    cases hpc.symm.trans hpc'
    cases hrunning.symm.trans hrun
  | called hpc' | locked hpc' | cancelled hpc' | cleared hpc' | unlocked hpc' =>
    cases hpc.symm.trans hpc'

/-- **Nobody ever gets out of a deadlock.** -/
theorem Deadlocked.run (hd : s.Deadlocked) (h : s.Inv) {acts : List ReinitAct}
    (hrun : Transition.run Reinit.step s acts = some s') : s'.Deadlocked :=
  (run_invariant (I := fun s => s.Inv ∧ s.Deadlocked)
    (fun _ _ _ hI hs => ⟨hI.1.step hs, hI.2.step hI.1 hs⟩) ⟨h, hd⟩ hrun).2

/-- A delay that expires while the pool is being initialised again, before the
call has come to its slot. -/
def expiryDuringInit (i : Fin TS_CONTENTION_POOL_SIZE) : List ReinitAct :=
  [.pool (.schedule (tsConfigGet tsConfigDefaults) (heardStatus 2 7) (-40)), .init, .init,
    .pool (.handler i .expire), .pool (.handler i .start), .init]

/-- **The call waits for the handler it keeps from the mutex**, and whatever
happens then, it still does. -/
theorem expiryDuringInit_deadlocked :
    ¬ AllStates step (fun s => ¬ s.Deadlocked) boot (expiryDuringInit 0)
      ∧ ∀ acts s, Transition.run step boot (expiryDuringInit 0 ++ acts) = some s →
        s.Deadlocked := by
  have hfacts : (Transition.run step boot (expiryDuringInit 0)).map (fun s =>
      (s.pc, (s.run.pool 0).work.running, s.mutex))
      = some (.waiting 0, some .entered, some .init) := by decide
  obtain ⟨t, hrun, ht⟩ := Option.map_eq_some_iff.mp hfacts
  simp only [Prod.mk.injEq] at ht
  obtain ⟨hpc, hrunning, hm⟩ := ht
  have hdead : t.Deadlocked :=
    ⟨0, hpc, hrunning, by rw [hm]; exact Option.some_ne_none _, by rw [hm]; exact fun h => by cases h⟩
  have hinv : t.Inv := run_invariant (fun _ _ _ h hs => h.step hs) (inv_quiet poolBoot) hrun
  refine ⟨fun hall => hall.last hrun hdead, fun acts s hs => ?_⟩
  obtain ⟨t', ht', hrest⟩ := run_append_eq_some.mp hs
  cases hrun.symm.trans ht'
  exact hdead.run hinv hrest

end Reinit

end Terrascope
