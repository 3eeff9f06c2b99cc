import Terrascope.Contention
import Terrascope.Transition

/-!
# Slots with nothing left to fire them

`ts_contention_schedule` relies on `k_work_schedule` having an effect, and
`k_work_schedule` has none while a cancellation waits for a handler run. A
slot can be taken in that state: its handler run has claimed a copy and is
publishing it, a second copy has taken the slot and been cancelled, and a
third finds the slot free.

`WorkSlotInv` is what holds of a slot in every state, and `NotStranded` what
should. `allStates_notStranded_iff` says which runs are good: those in which
`ts_contention_schedule` never takes a slot whose item is still cancelling
and whose handler run is past its claim.
-/

namespace Terrascope

open Zephyr SlotArray Transition

/-! ## What holds of every slot -/

/-- **A slot and its work item.** -/
structure WorkSlotInv (slot : ContentionSlot ℕ) : Prop where
  /-- A cancellation waits only for a handler run. -/
  running_of_cancelling : slot.work.cancelling = true → slot.work.running ≠ none
  /-- A queued item is not delayed as well. -/
  delayed_of_queued : slot.work.queued = true → slot.work.delayed = false
  /-- Nothing is pending while a cancellation waits. -/
  idle_of_cancelling : slot.work.cancelling = true → slot.work.pending = false
  /-- Nothing is pending for a free slot. -/
  idle_of_free : slot.occupied = false → slot.work.pending = false
  /-- Nothing is pending while a handler run has yet to claim. -/
  idle_of_entered : slot.work.running = some .entered → slot.work.pending = false
  /-- A handler run has yet to claim a free slot only after a cancellation. -/
  cancelling_of_entered : slot.work.running = some .entered → slot.occupied = false →
    slot.work.cancelling = true

/-- **The slot will be claimed**: its item is delayed or queued, or a handler
run has started and has not reached its claim section. -/
def NotStranded (slot : ContentionSlot ℕ) : Prop :=
  slot.occupied = true → slot.work.pending = true ∨ slot.work.running = some .entered

/-- **The reuse that goes wrong**: the slot's item is cancelling, and the
handler run it waits for has passed its claim section. -/
def ReusedTooEarly (slot : ContentionSlot ℕ) : Prop :=
  slot.work.cancelling = true ∧ slot.work.running ≠ some .entered

instance (slot : ContentionSlot ℕ) : Decidable (NotStranded slot) :=
  inferInstanceAs (Decidable (_ → _))

instance (slot : ContentionSlot ℕ) : Decidable (ReusedTooEarly slot) :=
  inferInstanceAs (Decidable (_ ∧ _))

theorem workSlotInv_init (c : Copy ℕ) (src : UInt16) (msgId : UInt32) :
    WorkSlotInv ⟨kWorkInitDelayable, c, src, msgId, false⟩ where
  running_of_cancelling := fun h => Bool.noConfusion h
  delayed_of_queued := fun h => Bool.noConfusion h
  idle_of_cancelling := fun _ => rfl
  idle_of_free := fun _ => rfl
  idle_of_entered := fun _ => rfl
  cancelling_of_entered := fun h => nomatch h

section Slot

variable {slot : ContentionSlot ℕ} (h : WorkSlotInv slot)

include h

/-- Taking a free slot. -/
theorem WorkSlotInv.schedule (hfree : slot.occupied = false) (delay : UInt32) (c : Copy ℕ)
    (src : UInt16) (msgId : UInt32) :
    WorkSlotInv ⟨(kWorkSchedule slot.work delay).1, c, src, msgId, true⟩ := by
  have hidle := h.idle_of_free hfree
  have hpending := pending_schedule_of_not_pending delay hidle
  have hcancelling := cancelling_schedule slot.work delay
  have hrunning := running_schedule slot.work delay
  refine ⟨fun hc => ?_, fun hq => ?_, fun hc => ?_, fun hocc => Bool.noConfusion hocc,
    fun hr => ?_, fun _ hocc => Bool.noConfusion hocc⟩
  · rw [hcancelling] at hc
    rw [hrunning]
    exact h.running_of_cancelling hc
  · exact delayed_schedule_of_queued hidle hq
  · rw [hcancelling] at hc
    rw [hpending, hc]
    rfl
  · -- a run that entered a free slot is being cancelled, so nothing was started
    rw [hrunning] at hr
    rw [hpending, h.cancelling_of_entered hr hfree]
    rfl

/-- Cancelling an occupied one. -/
theorem WorkSlotInv.cancel :
    WorkSlotInv { slot with work := kWorkCancelDelayable slot.work, occupied := false } := by
  refine ⟨fun hc => ?_, fun _ => rfl, fun _ => rfl, fun _ => rfl, fun _ => rfl, fun hr _ => ?_⟩
  · rcases (Bool.or_eq_true _ _).mp hc with hc | hr
    · exact h.running_of_cancelling hc
    · exact Option.isSome_iff_ne_none.mp hr
  · rw [running_cancel] at hr
    show (slot.work.cancelling || slot.work.running.isSome) = true
    rw [hr]
    exact Bool.or_true _

/-- An item with something pending is neither cancelling nor a free slot's. -/
theorem WorkSlotInv.of_pending (hpending : slot.work.pending = true) :
    slot.work.cancelling = false ∧ slot.occupied = true
      ∧ slot.work.running ≠ some .entered := by
  refine ⟨Bool.eq_false_iff.mpr (fun hc => ?_), Bool.eq_true_of_not_eq_false (fun hf => ?_),
    fun hr => ?_⟩
  · exact Bool.false_ne_true ((h.idle_of_cancelling hc).symm.trans hpending)
  · exact Bool.false_ne_true ((h.idle_of_free hf).symm.trans hpending)
  · exact Bool.false_ne_true ((h.idle_of_entered hr).symm.trans hpending)

/-- **The timer and the handler keep the invariant.** -/
theorem WorkSlotInv.handle {slot' : ContentionSlot ℕ} {a : HandlerAct}
    (hs' : slot.handle a = some slot') : WorkSlotInv slot' := by
  rcases ContentionSlot.handle_cases hs' with ⟨w, rfl, hw, rfl⟩ | ⟨w, rfl, hw, rfl⟩ |
    ⟨rfl, hrun, hocc, rfl⟩ | ⟨rfl, hrun, hocc, rfl⟩ | ⟨c, rfl, hrun, rfl⟩ | ⟨rfl, hrun, rfl⟩
  · -- the delay expires
    obtain ⟨hd, rfl⟩ := expire_eq_some hw
    obtain ⟨hc, hocc, hr⟩ := h.of_pending (pending_of_delayed hd)
    exact ⟨fun h' => absurd h' (by simp [hc]), fun _ => rfl, fun h' => absurd h' (by simp [hc]),
      fun h' => absurd h' (by simp [hocc]), fun h' => absurd h' hr, fun h' => absurd h' hr⟩
  · -- the handler is entered, with nothing pending behind it
    obtain ⟨hq, -, rfl⟩ := start_eq_some hw
    obtain ⟨hc, hocc, -⟩ := h.of_pending (pending_of_queued hq)
    have hd := h.delayed_of_queued hq
    exact ⟨fun h' => absurd h' (by simp [hc]), fun h' => Bool.noConfusion h',
      fun h' => absurd h' (by simp [hc]), fun h' => absurd h' (by simp [hocc]),
      fun _ => by simp [WorkDelayable.pending, hd], fun _ h' => absurd h' (by simp [hocc])⟩
  · -- the run claims, so its item has nothing pending and neither has the free slot
    have hidle := h.idle_of_entered hrun
    exact ⟨fun _ => Option.some_ne_none _, h.delayed_of_queued, fun _ => hidle, fun _ => hidle,
      nofun, nofun⟩
  · have hidle := h.idle_of_entered hrun
    exact ⟨fun _ => Option.some_ne_none _, h.delayed_of_queued, fun _ => hidle, fun _ => hidle,
      nofun, nofun⟩
  · exact ⟨fun _ => Option.some_ne_none _, h.delayed_of_queued, h.idle_of_cancelling,
      h.idle_of_free, nofun, nofun⟩
  · exact ⟨nofun, h.delayed_of_queued, nofun, h.idle_of_free, nofun, nofun⟩

/-- **A slot taken in good time is not stranded** … -/
theorem WorkSlotInv.notStranded_schedule (hfree : slot.occupied = false) (delay : UInt32)
    (c : Copy ℕ) (src : UInt16) (msgId : UInt32) :
    NotStranded ⟨(kWorkSchedule slot.work delay).1, c, src, msgId, true⟩
      ↔ ¬ ReusedTooEarly slot := by
  have hpending := pending_schedule_of_not_pending delay (h.idle_of_free hfree)
  have hrunning := running_schedule slot.work delay
  unfold NotStranded ReusedTooEarly
  simp only [hpending, hrunning, Bool.not_eq_true', forall_const, not_and, ne_eq, not_not]
  constructor
  · rintro (hc | hr) hc'
    · rw [hc] at hc'
      cases hc'
    · exact hr
  · intro himp
    cases hc : slot.work.cancelling with
    | false => exact Or.inl rfl
    | true => exact Or.inr (himp hc)

omit h in
/-- … and no step of the timer or the handler strands one. -/
theorem NotStranded.handle {slot' : ContentionSlot ℕ} {a : HandlerAct}
    (hn : NotStranded slot) (hs' : slot.handle a = some slot') : NotStranded slot' := by
  intro hocc'
  rcases ContentionSlot.handle_cases hs' with ⟨w, rfl, hw, rfl⟩ | ⟨w, rfl, hw, rfl⟩ |
    ⟨rfl, hrun, hocc, rfl⟩ | ⟨rfl, hrun, hocc, rfl⟩ | ⟨c, rfl, hrun, rfl⟩ | ⟨rfl, hrun, rfl⟩
  · obtain ⟨-, rfl⟩ := expire_eq_some hw
    exact Or.inl (pending_of_queued rfl)
  · obtain ⟨-, -, rfl⟩ := start_eq_some hw
    exact Or.inr rfl
  · cases hocc'
  · rw [hocc] at hocc'
    cases hocc'
  · -- the run that publishes is past its claim, so something else is pending
    rcases hn hocc' with hp | hr
    · exact Or.inl hp
    · rw [hrun] at hr
      cases hr
  · rcases hn hocc' with hp | hr
    · exact Or.inl hp
    · rw [hrun] at hr
      cases hr

end Slot

/-! ## What holds of the pool -/

/-- Every slot satisfies the invariant. -/
def WorkInv (s : PoolRun) : Prop := ∀ i, WorkSlotInv (s.pool i)

/-- **No slot is stranded.** -/
def NoneStranded (s : PoolRun) : Prop := ∀ i, NotStranded (s.pool i)

/-- **The condition on a step**: a call of `ts_contention_schedule` does not
take a slot whose item is still cancelling with its handler run past the
claim. -/
def ReusesInTime (s : PoolRun) : PoolAct → Prop
  | .schedule _ _ _ => ∀ i, findFreeSlot s.pool = some i → ¬ ReusedTooEarly (s.pool i)
  | _ => True

theorem workInv_boot : WorkInv poolBoot := fun _ => workSlotInv_init _ _ _

theorem noneStranded_boot : NoneStranded poolBoot := fun _ h => Bool.noConfusion h

/-- **The invariant holds at every step.** -/
theorem WorkInv.step {s s' : PoolRun} {a : PoolAct} (h : WorkInv s)
    (hs' : poolStep s a = some s') : WorkInv s' := by
  cases PoolStep.of_poolStep hs' with
  | full _ => exact h
  | taken _ hfree => exact forall_update h ((h _).schedule hfree _ _ _ _)
  | notFound _ => exact h
  | cancelled _ => exact forall_update h (h _).cancel
  | handled hslot => exact forall_update h ((h _).handle hslot)

/-- **A step that reuses slots in time strands none.** -/
theorem NoneStranded.step {s s' : PoolRun} {a : PoolAct} (h : WorkInv s)
    (hn : NoneStranded s) (ha : ReusesInTime s a) (hs' : poolStep s a = some s') :
    NoneStranded s' := by
  cases PoolStep.of_poolStep hs' with
  | full _ => exact hn
  | taken hfind hfree =>
    exact forall_update hn (((h _).notStranded_schedule hfree _ _ _ _).mpr (ha _ hfind))
  | notFound _ => exact hn
  | cancelled _ => exact forall_update hn (fun hocc => Bool.noConfusion hocc)
  | handled hslot => exact forall_update hn ((hn _).handle hslot)

/-- **A step that does not strands the slot it takes.** -/
theorem stranded_of_not_reusesInTime {s : PoolRun} {a : PoolAct} (h : WorkInv s)
    (ha : ¬ ReusesInTime s a) : ∃ s', poolStep s a = some s' ∧ ¬ NoneStranded s' := by
  cases a with
  | cancel src msgId => exact absurd trivial ha
  | handler i a => exact absurd trivial ha
  | schedule cfg msg rssi =>
    refine ⟨_, poolStep_schedule s cfg msg rssi, fun hn => ha (fun i hfind hearly => ?_)⟩
    rcases tsContentionSchedule_cases cfg s.pool ⟨msg, s.scheduled⟩ rssi with
      ⟨hnone, -, -⟩ | ⟨i', hfind', hfree, heq⟩
    · rw [hnone] at hfind
      cases hfind
    · obtain rfl : i' = i := Option.some.inj (hfind'.symm.trans hfind)
      have hi : NotStranded ((tsContentionSchedule cfg s.pool ⟨msg, s.scheduled⟩ rssi).1 i') :=
        hn i'
      rw [heq] at hi
      dsimp only at hi
      rw [Function.update_self, (h i').notStranded_schedule hfree] at hi
      exact hi hearly

/-- **No slot is stranded exactly when slots are reused in time.** In every
interleaving from `ts_contention_init` on, every occupied slot of every
state has its work item delayed or queued, or a handler run before its claim
section, if and only if no call of `ts_contention_schedule` takes a slot
whose item is still cancelling with its handler run past the claim. -/
theorem allStates_noneStranded_iff (acts : List PoolAct) :
    AllStates poolStep NoneStranded poolBoot acts
      ↔ AllSteps poolStep ReusesInTime poolBoot acts :=
  allStates_iff_allSteps (I := WorkInv) (fun _ _ _ h _ hs' => h.step hs')
    (fun _ _ _ h hn ha hs' => hn.step h ha hs')
    (fun _ _ h _ ha => stranded_of_not_reusesInTime h ha) acts workInv_boot noneStranded_boot

/-- The third message heard while the first is being published, after the
second was scheduled in its slot and cancelled. -/
def strandingRun (i : Fin TS_CONTENTION_POOL_SIZE) : List PoolAct :=
  [.schedule (tsConfigGet tsConfigDefaults) (heardStatus 2 7) (-40), .handler i .expire,
    .handler i .start, .handler i .claim,
    .schedule (tsConfigGet tsConfigDefaults) (heardStatus 3 1) (-40), .cancel 3 1,
    .schedule (tsConfigGet tsConfigDefaults) (heardStatus 4 9) (-40)]

/-- **A slot is stranded there**, and once the handler run has returned the
slot is occupied with its item idle. -/
theorem strandingRun_stranded :
    ¬ AllStates poolStep NoneStranded poolBoot (strandingRun 0)
      ∧ (run poolStep poolBoot (strandingRun 0 ++ [.handler 0 .publish, .handler 0 .ret])).map
          (fun s => ((s.pool 0).occupied, (s.pool 0).work)) = some (true, kWorkInitDelayable) := by
  refine ⟨fun hall => ?_, by decide⟩
  obtain ⟨s, hs⟩ : ∃ s, run poolStep poolBoot (strandingRun 0) = some s :=
    Option.isSome_iff_exists.mp (by decide)
  have hslot : (run poolStep poolBoot (strandingRun 0)).map
      (fun s => decide (NotStranded (s.pool 0))) = some false := by decide
  rw [hs, Option.map_some, Option.some_inj, decide_eq_false_iff_not] at hslot
  exact hslot (hall.last hs 0)

end Terrascope
