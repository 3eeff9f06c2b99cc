import Terrascope.ContentionStranding

/-!
# Whose delay has expired

A handler run knows its slot and nothing else, so between its start and its
claim section the slot may be cancelled and filled with another message. To
say whose delay brought a run about, `TimedRun` keeps two numbers beside each
slot: the call of `ts_contention_schedule` whose delay is running or whose
item is queued, and the call whose expiry started the handler run in progress.
No step of the pool reads them (`map_run_step`).

A run that claims a refilled slot publishes a message before its time. It is
recognised by the item's cancelling flag: `claimsOwn_iff`.
-/

namespace Terrascope

open Zephyr SlotArray Transition

/-! ## Calls and expiries -/

/-- **Which calls a slot's timer and handler run go back to**, by their
numbers. -/
structure Expiry where
  /-- The call whose delay is running, or has expired with the item still in
  the queue. -/
  timer : Option ℕ
  /-- The call whose expiry started the handler run in progress. -/
  fired : Option ℕ
deriving DecidableEq

/-- `k_work_schedule` for call `n`, by what it returned. -/
def Expiry.schedule (e : Expiry) (ret : Int32) (n : ℕ) : Expiry :=
  if ret = 0 then e else { e with timer := some n }

/-- `k_work_cancel_delayable`. -/
def Expiry.cancel (e : Expiry) : Expiry := { e with timer := none }

/-- What the steps of a slot mean for its numbers. -/
def Expiry.handle (e : Expiry) : HandlerAct → Expiry
  | .start => ⟨none, e.timer⟩
  | .ret => { e with fired := none }
  | _ => e

/-- **The pool with its expiries.** -/
structure TimedRun where
  run : PoolRun
  expiry : Fin TS_CONTENTION_POOL_SIZE → Expiry

namespace TimedRun

/-- After `ts_contention_init`. -/
def boot : TimedRun := ⟨poolBoot, fun _ => ⟨none, none⟩⟩

/-- The numbers after a step. -/
def expiryAfter (s : TimedRun) : PoolAct → Fin TS_CONTENTION_POOL_SIZE → Expiry
  | .schedule cfg _ rssi =>
    match findFreeSlot s.run.pool with
    | none => s.expiry
    | some i =>
      let ret := (kWorkSchedule (s.run.pool i).work (tsContentionRssiToDelayMs cfg rssi)).2
      Function.update s.expiry i ((s.expiry i).schedule ret s.run.scheduled)
  | .cancel src msgId =>
    match findSlotByMsg s.run.pool src msgId with
    | none => s.expiry
    | some i => Function.update s.expiry i (s.expiry i).cancel
  | .handler i a => Function.update s.expiry i ((s.expiry i).handle a)

/-- **One step of the pool**, with the numbers. -/
def step (s : TimedRun) (a : PoolAct) : Option TimedRun :=
  (poolStep s.run a).map (fun r => ⟨r, s.expiryAfter a⟩)

/-- **The numbers change no run.** -/
theorem map_run_step (s : TimedRun) (acts : List PoolAct) :
    (Transition.run step s acts).map TimedRun.run = Transition.run poolStep s.run acts := by
  induction acts generalizing s with
  | nil => rfl
  | cons a acts ih =>
    rw [Transition.run, Transition.run, step]
    cases poolStep s.run a with
    | none => rfl
    | some r => exact ih ⟨r, s.expiryAfter a⟩

/-- **A claim is of a handler run's own message**: the expiry that started the
run is that of the delay asked for by the call that stored the copy. -/
def ClaimsOwn (s : TimedRun) : PoolAct → Prop
  | .handler i .claim => (s.run.pool i).work.running = some .entered →
      (s.run.pool i).occupied = true →
      (s.expiry i).fired = some (s.run.pool i).copy.tag
  | _ => True

/-- **No handler run claims from a slot that was refilled** after a
cancellation had found the run in progress. -/
def NotRefilled (s : TimedRun) : PoolAct → Prop
  | .handler i .claim => (s.run.pool i).work.running = some .entered →
      (s.run.pool i).occupied = true → (s.run.pool i).work.cancelling = false
  | _ => True

end TimedRun

/-! ## What holds of every slot -/

/-- **A slot and its numbers**, after `n` calls. -/
structure ExpiryInv (slot : ContentionSlot ℕ) (e : Expiry) (n : ℕ) : Prop where
  work : WorkSlotInv slot
  timer_lt : ∀ k, e.timer = some k → k < n
  fired_lt : ∀ k, e.fired = some k → k < n
  /-- What is pending for an occupied slot is its copy's delay. -/
  timer_eq : slot.occupied = true → slot.work.pending = true → e.timer = some slot.copy.tag
  /-- A run that has yet to claim was started by the copy's delay, … -/
  fired_eq : slot.occupied = true → slot.work.running = some .entered →
    slot.work.cancelling = false → e.fired = some slot.copy.tag
  /-- … unless a cancellation came in between. -/
  fired_ne : slot.occupied = true → slot.work.running = some .entered →
    slot.work.cancelling = true → e.fired ≠ some slot.copy.tag

section Slot

variable {slot : ContentionSlot ℕ} {e : Expiry} {n : ℕ} (h : ExpiryInv slot e n)

include h

/-- Later calls have larger numbers. -/
theorem ExpiryInv.mono {n' : ℕ} (hn : n ≤ n') : ExpiryInv slot e n' where
  work := h.work
  timer_lt := fun k hk => lt_of_lt_of_le (h.timer_lt k hk) hn
  fired_lt := fun k hk => lt_of_lt_of_le (h.fired_lt k hk) hn
  timer_eq := h.timer_eq
  fired_eq := h.fired_eq
  fired_ne := h.fired_ne

/-- Taking a free slot. -/
theorem ExpiryInv.schedule (hfree : slot.occupied = false) (delay : UInt32) (c : Copy ℕ)
    (hc : c.tag = n) (src : UInt16) (msgId : UInt32) :
    ExpiryInv ⟨(kWorkSchedule slot.work delay).1, c, src, msgId, true⟩
      (e.schedule (kWorkSchedule slot.work delay).2 n) (n + 1) := by
  have hidle := h.work.idle_of_free hfree
  have hpending := pending_schedule_of_not_pending delay hidle
  have hresult := result_schedule_eq_zero_iff delay hidle
  have hrunning := running_schedule slot.work delay
  have hcancelling := cancelling_schedule slot.work delay
  have hfired : (e.schedule (kWorkSchedule slot.work delay).2 n).fired = e.fired := by
    unfold Expiry.schedule
    split <;> rfl
  refine ⟨h.work.schedule hfree _ _ _ _, fun k hk => ?_, fun k hk => ?_, fun _ hp => ?_,
    fun _ hr hc' => ?_, fun _ _ _ hf => ?_⟩
  · unfold Expiry.schedule at hk
    split at hk
    · exact Nat.lt_succ_of_lt (h.timer_lt k hk)
    · cases hk
      exact Nat.lt_succ_self _
  · rw [hfired] at hk
    exact Nat.lt_succ_of_lt (h.fired_lt k hk)
  · -- something is pending because the call had an effect
    rw [hpending, Bool.not_eq_true'] at hp
    have hne : (kWorkSchedule slot.work delay).2 ≠ 0 := by
      rw [Ne, hresult, hp]
      exact Bool.false_ne_true
    rw [Expiry.schedule, if_neg hne, hc]
  · -- a run that has yet to claim a free slot is being cancelled
    rw [hrunning] at hr
    rw [hcancelling, h.work.cancelling_of_entered hr hfree] at hc'
    cases hc'
  · rw [hfired, hc] at hf
    exact absurd (h.fired_lt n hf) (Nat.lt_irrefl n)

/-- Cancelling an occupied one. -/
theorem ExpiryInv.cancel :
    ExpiryInv { slot with work := kWorkCancelDelayable slot.work, occupied := false }
      e.cancel n where
  work := h.work.cancel
  timer_lt := nofun
  fired_lt := h.fired_lt
  timer_eq := nofun
  fired_eq := nofun
  fired_ne := nofun

/-- **The timer and the handler keep the numbers right.** -/
theorem ExpiryInv.handle {slot' : ContentionSlot ℕ} {a : HandlerAct}
    (hs' : slot.handle a = some slot') : ExpiryInv slot' (e.handle a) n := by
  have hwork := h.work.handle hs'
  rcases ContentionSlot.handle_cases hs' with ⟨w, rfl, hw, rfl⟩ | ⟨w, rfl, hw, rfl⟩ |
    ⟨rfl, hrun, hocc, rfl⟩ | ⟨rfl, hrun, hocc, rfl⟩ | ⟨c, rfl, hrun, rfl⟩ | ⟨rfl, hrun, rfl⟩
  · -- the expired delay is the one that was pending, and no run has yet to claim
    obtain ⟨hd, rfl⟩ := expire_eq_some hw
    obtain ⟨-, -, hr⟩ := h.work.of_pending (pending_of_delayed hd)
    exact ⟨hwork, h.timer_lt, h.fired_lt, fun hocc _ => h.timer_eq hocc (pending_of_delayed hd),
      fun _ hr' => absurd hr' hr, fun _ hr' => absurd hr' hr⟩
  · -- the run that starts goes back to the call that was pending
    obtain ⟨hq, -, rfl⟩ := start_eq_some hw
    obtain ⟨hc, -, -⟩ := h.work.of_pending (pending_of_queued hq)
    have hidle := hwork.idle_of_entered rfl
    refine ⟨hwork, nofun, h.timer_lt, fun _ hp => ?_,
      fun hocc _ _ => h.timer_eq hocc (pending_of_queued hq), fun _ _ hc' => ?_⟩
    · exact absurd (hidle.symm.trans hp) Bool.false_ne_true
    · exact absurd (hc.symm.trans hc') Bool.false_ne_true
  · exact ⟨hwork, h.timer_lt, h.fired_lt, fun hocc' => Bool.noConfusion hocc',
      fun hocc' => Bool.noConfusion hocc', fun hocc' => Bool.noConfusion hocc'⟩
  · exact ⟨hwork, h.timer_lt, h.fired_lt, h.timer_eq,
      (fun _ hr => by cases hr), (fun _ hr => by cases hr)⟩
  · exact ⟨hwork, h.timer_lt, h.fired_lt, h.timer_eq,
      (fun _ hr => by cases hr), (fun _ hr => by cases hr)⟩
  · exact ⟨hwork, h.timer_lt, (fun _ hk => by cases hk), h.timer_eq,
      (fun _ hr => by cases hr), (fun _ hr => by cases hr)⟩

end Slot

/-! ## What holds of the pool -/

namespace TimedRun

/-- Every slot's numbers are right. -/
def Inv (s : TimedRun) : Prop := ∀ i, ExpiryInv (s.run.pool i) (s.expiry i) s.run.scheduled

theorem inv_boot : Inv boot := fun _ =>
  ⟨workSlotInv_init _ _ _, nofun, nofun, fun h => Bool.noConfusion h,
    fun h => Bool.noConfusion h, fun h => Bool.noConfusion h⟩

/-- **One slot replaced**, with its numbers. -/
theorem Inv.update {s : TimedRun} (h : Inv s) (i : Fin TS_CONTENTION_POOL_SIZE)
    {slot : ContentionSlot ℕ} {e : Expiry} {n : ℕ} (hn : s.run.scheduled ≤ n)
    (hslot : ExpiryInv slot e n) :
    Inv ⟨⟨Function.update s.run.pool i slot, n⟩, Function.update s.expiry i e⟩ := by
  intro j
  show ExpiryInv (Function.update s.run.pool i slot j) (Function.update s.expiry i e j) n
  by_cases hij : j = i
  · subst hij
    rwa [Function.update_self, Function.update_self]
  · rw [Function.update_of_ne hij, Function.update_of_ne hij]
    exact (h j).mono hn

/-- **Every step keeps the numbers right.** -/
theorem Inv.step {s s' : TimedRun} {a : PoolAct} (h : Inv s) (hs' : s.step a = some s') :
    Inv s' := by
  obtain ⟨r, hr, rfl⟩ := Option.map_eq_some_iff.mp hs'
  cases PoolStep.of_poolStep hr with
  | full hnone =>
    simp only [expiryAfter, hnone]
    exact h
  | taken hfind hfree =>
    simp only [expiryAfter, hfind]
    exact h.update _ (Nat.le_succ _) ((h _).schedule hfree _ _ rfl _ _)
  | notFound hnone =>
    simp only [expiryAfter, hnone]
    exact h
  | cancelled hfind =>
    simp only [expiryAfter, hfind]
    exact h.update _ (le_refl _) (h _).cancel
  | handled hslot => exact h.update _ (le_refl _) ((h _).handle hslot)

/-- **One claim** is of the run's own message exactly if the slot was not
refilled. -/
theorem claimsOwn_step_iff {s : TimedRun} (h : Inv s) (a : PoolAct) :
    ClaimsOwn s a ↔ NotRefilled s a := by
  cases a with
  | schedule cfg msg rssi => exact Iff.rfl
  | cancel src msgId => exact Iff.rfl
  | handler i a =>
    cases a with
    | expire => exact Iff.rfl
    | start => exact Iff.rfl
    | publish => exact Iff.rfl
    | ret => exact Iff.rfl
    | claim =>
      refine forall_congr' fun hrun => forall_congr' fun hocc => ?_
      constructor
      · intro hfired
        exact Bool.eq_false_iff.mpr (fun hc => (h i).fired_ne hocc hrun hc hfired)
      · exact (h i).fired_eq hocc hrun

/-- **No forward is published before its own delay has expired exactly when**
no handler run claims from a slot that was cancelled and refilled since the
run started. This is over every interleaving of schedules, cancellations,
expiries and handler steps; a delay of zero counts as expired at once. -/
theorem claimsOwn_iff (acts : List PoolAct) :
    AllSteps step ClaimsOwn boot acts ↔ AllSteps step NotRefilled boot acts :=
  allSteps_iff_of_invariant (fun _ _ _ h hs' => h.step hs') (fun _ a h => claimsOwn_step_iff h a)
    acts inv_boot

/-- A message cancelled after its handler run has started, and another one in
its slot before the run takes the mutex. -/
def refillingRun (i : Fin TS_CONTENTION_POOL_SIZE) : List PoolAct :=
  [.schedule (tsConfigGet tsConfigDefaults) (heardStatus 2 7) (-40), .handler i .expire,
    .handler i .start, .cancel 2 7,
    .schedule (tsConfigGet tsConfigDefaults) (heardStatus 3 1) (-40), .handler i .claim]

/-- **The second message is claimed by the first one's run**, at once instead
of after some four seconds. -/
theorem refillingRun_claims_early :
    tsContentionRssiToDelayMs (tsConfigGet tsConfigDefaults) (-40) ≠ 0
      ∧ ¬ AllSteps step ClaimsOwn boot (refillingRun 0) := by
  refine ⟨by decide +kernel, ?_⟩
  rintro ⟨-, h⟩
  obtain ⟨-, h⟩ := h _ rfl
  obtain ⟨-, h⟩ := h _ rfl
  obtain ⟨-, h⟩ := h _ rfl
  obtain ⟨-, h⟩ := h _ rfl
  obtain ⟨h, -⟩ := h _ rfl
  exact absurd (h (by decide +kernel) (by decide +kernel)) (by decide +kernel)

end TimedRun

end Terrascope
