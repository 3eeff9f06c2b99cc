import Terrascope.Contention
import Terrascope.Transition

/-!
# The fate of a scheduled forward

Every copy the pool accepts is numbered, and the log of a run says what
became of each number. Three counts make up `FateInv`: a copy that was
scheduled once is held, cancelled or claimed, and once in all; a copy that
was claimed is being published or has been; and whatever sits in a slot,
in a handler run or in the log was scheduled as it is.

Each step replaces one slot, so the counts move by what `tally_update`
says, and `FateInv.update` is the only lemma that looks at the whole pool.
The theorem of the module, `contention_one_fate`, reads the invariant off at
the end of a run.
-/

namespace Terrascope

open Zephyr SlotArray Transition

/-! ## Counting -/

/-- The copy an event is about. -/
def PoolEvent.copy : PoolEvent → Copy ℕ
  | .scheduled c => c
  | .cancelled c => c
  | .claimed _ c => c
  | .published c => c

/-- The event schedules copy `k`. -/
def PoolEvent.schedules (k : ℕ) : PoolEvent → Bool
  | .scheduled c => c.tag == k
  | _ => false

/-- The event cancels copy `k`. -/
def PoolEvent.cancels (k : ℕ) : PoolEvent → Bool
  | .cancelled c => c.tag == k
  | _ => false

/-- The event claims copy `k`. -/
def PoolEvent.claims (k : ℕ) : PoolEvent → Bool
  | .claimed _ c => c.tag == k
  | _ => false

/-- The event publishes copy `k`. -/
def PoolEvent.publishes (k : ℕ) : PoolEvent → Bool
  | .published c => c.tag == k
  | _ => false

/-- The number of slots occupied by copy `k`. -/
def heldIn (pool : Pool ℕ) (k : ℕ) : ℕ := tally (holds k) pool

/-- **What a run keeps**, between the pool and the log `es` so far. -/
structure FateInv (s : PoolRun) (es : List PoolEvent) : Prop where
  /-- The copies scheduled are numbered from `0`, each once. -/
  numbered : ∀ k, es.countP (·.schedules k) = if k < s.scheduled then 1 else 0
  /-- A scheduled copy has one fate. -/
  one_fate : ∀ k, heldIn s.pool k + es.countP (·.cancels k) + es.countP (·.claims k)
    = es.countP (·.schedules k)
  /-- A claimed copy is with its handler run or has been published. -/
  in_flight : ∀ k, tally (carries k) s.pool + es.countP (·.publishes k)
    = es.countP (·.claims k)
  /-- What a slot holds was scheduled. -/
  held_known : ∀ i, (s.pool i).occupied = true → .scheduled (s.pool i).copy ∈ es
  /-- What a handler run carries was scheduled. -/
  carried_known : ∀ i c, (s.pool i).work.running = some (.publishing c) → .scheduled c ∈ es
  /-- What the log mentions was scheduled. -/
  log_known : ∀ e ∈ es, .scheduled e.copy ∈ es

/-! ## One step -/

/-- Free slots and empty log. -/
theorem fateInv_boot : FateInv poolBoot [] where
  numbered := fun k => rfl
  one_fate := fun k => by
    have hfree : heldIn poolBoot.pool k = 0 := tally_eq_zero.mpr (fun i => rfl)
    rw [hfree]
    rfl
  in_flight := fun k => by
    have hidle : tally (carries k) poolBoot.pool = 0 := tally_eq_zero.mpr (fun i => rfl)
    rw [hidle]
    rfl
  held_known := fun i h => Bool.noConfusion h
  carried_known := fun i c h => by cases h
  log_known := fun e he => absurd he List.not_mem_nil

/-- **One slot replaced, one piece of log added**: the invariant is kept when
the slot and the piece balance. -/
theorem FateInv.update {s : PoolRun} {es : List PoolEvent} (h : FateInv s es)
    (i : Fin TS_CONTENTION_POOL_SIZE) (slot : ContentionSlot ℕ) (n : ℕ)
    (ev : List PoolEvent)
    (hnum : ∀ k, (if k < s.scheduled then 1 else 0) + ev.countP (·.schedules k)
      = if k < n then 1 else 0)
    (hheld : ∀ k, holds k slot + ev.countP (·.cancels k) + ev.countP (·.claims k)
      = holds k (s.pool i) + ev.countP (·.schedules k))
    (hcarry : ∀ k, carries k slot + ev.countP (·.publishes k)
      = carries k (s.pool i) + ev.countP (·.claims k))
    (hocc : slot.occupied = true → .scheduled slot.copy ∈ es ++ ev)
    (hrun : ∀ c, slot.work.running = some (.publishing c) → .scheduled c ∈ es ++ ev)
    (hev : ∀ e ∈ ev, .scheduled e.copy ∈ es ++ ev) :
    FateInv ⟨Function.update s.pool i slot, n⟩ (es ++ ev) where
  numbered := fun k => by
    rw [List.countP_append, h.numbered k, hnum k]
  one_fate := fun k => by
    have hone := h.one_fate k
    -- only slot i changes, so the tally changes by what that slot gains or loses
    have htally := tally_update (holds k) s.pool i slot
    have hslot := hheld k
    unfold heldIn at hone ⊢
    simp only [List.countP_append]
    omega
  in_flight := fun k => by
    have hone := h.in_flight k
    have htally := tally_update (carries k) s.pool i slot
    have hslot := hcarry k
    simp only [List.countP_append]
    omega
  held_known := fun j hj => by
    show .scheduled (Function.update s.pool i slot j).copy ∈ es ++ ev
    change (Function.update s.pool i slot j).occupied = true at hj
    by_cases hij : j = i
    · subst hij
      rw [Function.update_self] at hj ⊢
      exact hocc hj
    · rw [Function.update_of_ne hij] at hj ⊢
      exact List.mem_append_left _ (h.held_known j hj)
  carried_known := fun j c hj => by
    change (Function.update s.pool i slot j).work.running = _ at hj
    by_cases hij : j = i
    · subst hij
      rw [Function.update_self] at hj
      exact hrun c hj
    · rw [Function.update_of_ne hij] at hj
      exact List.mem_append_left _ (h.carried_known j c hj)
  log_known := fun e he => by
    rcases List.mem_append.mp he with he | he
    · exact List.mem_append_left _ (h.log_known e he)
    · exact hev e he

/-- **A call of `ts_contention_schedule`** puts its copy under the next number
or changes nothing. -/
theorem FateInv.schedule {s : PoolRun} {es : List PoolEvent} (h : FateInv s es)
    (cfg : TsConfig) (msg : TsMsgLoraOutgoing) (rssi : Int16) {s' : PoolRun}
    (hs' : poolStep s (.schedule cfg msg rssi) = some s') :
    FateInv s' (es ++ poolEvents s (.schedule cfg msg rssi)) := by
  simp only [poolStep, poolEvents] at hs' ⊢
  rcases tsContentionSchedule_cases cfg s.pool ⟨msg, s.scheduled⟩ rssi with
    ⟨-, -, heq⟩ | ⟨i, -, hfree, heq⟩
  · rw [heq] at hs' ⊢
    rw [if_neg neg_enomem_ne_zero] at hs' ⊢
    rw [List.append_nil, ← Option.some.inj hs']
    exact h
  · rw [heq] at hs' ⊢
    rw [if_pos rfl] at hs' ⊢
    rw [← Option.some.inj hs']
    refine h.update i _ _ _ (fun k => ?_) (fun k => ?_) (fun k => ?_) (fun _ => ?_)
      (fun c hc => ?_) (fun e he => ?_)
    · -- the next number is the first that is not taken
      rw [List.countP_singleton]
      by_cases hk : s.scheduled = k
      · simp [PoolEvent.schedules, hk]
      · have hiff : k < s.scheduled + 1 ↔ k < s.scheduled := by omega
        simp [PoolEvent.schedules, hk, hiff]
    · rw [holds_of_free hfree, holds_of_occupied rfl]
      simp [PoolEvent.schedules, PoolEvent.cancels, PoolEvent.claims, List.countP_singleton]
    · simp only [List.countP_singleton, PoolEvent.publishes, PoolEvent.claims,
        Bool.false_eq_true, ite_false, Nat.add_zero]
      exact carries_congr (running_schedule (s.pool i).work _) k
    · exact List.mem_append_right _ List.mem_cons_self
    · rw [running_schedule] at hc
      exact List.mem_append_left _ (h.carried_known i c hc)
    · rw [List.mem_singleton.mp he]
      exact List.mem_append_right _ List.mem_cons_self

/-- **A call of `ts_contention_cancel`** moves the copy it finds from its slot
to the cancelled ones. -/
theorem FateInv.cancel {s : PoolRun} {es : List PoolEvent} (h : FateInv s es)
    (src : UInt16) (msgId : UInt32) {s' : PoolRun}
    (hs' : poolStep s (.cancel src msgId) = some s') :
    FateInv s' (es ++ poolEvents s (.cancel src msgId)) := by
  simp only [poolStep, poolEvents] at hs' ⊢
  rcases tsContentionCancel_cases s.pool src msgId with
    ⟨hfind, -, heq⟩ | ⟨i, hfind, hocc, -, heq⟩
  · rw [heq] at hs'
    rw [hfind, ← Option.some.inj hs']
    simpa using h
  · rw [heq] at hs'
    rw [hfind, ← Option.some.inj hs']
    refine h.update i _ _ _ (fun k => ?_) (fun k => ?_) (fun k => ?_)
      (fun hfree => Bool.noConfusion hfree) (fun c hc => ?_) (fun e he => ?_)
    · simp [PoolEvent.schedules]
    · rw [holds_of_free rfl, holds_of_occupied hocc]
      simp [PoolEvent.schedules, PoolEvent.cancels, PoolEvent.claims]
    · simp only [Option.map_some, Option.toList_some, List.countP_singleton,
        PoolEvent.publishes, PoolEvent.claims, Bool.false_eq_true, ite_false, Nat.add_zero]
      exact carries_congr rfl k
    · exact List.mem_append_left _ (h.carried_known i c hc)
    · rw [Option.map_some, Option.toList_some, List.mem_singleton] at he
      rw [he]
      exact List.mem_append_left _ (h.held_known i hocc)

/-- A step that leaves the copy of a slot alone and logs nothing. -/
theorem FateInv.frame {s : PoolRun} {es : List PoolEvent} (h : FateInv s es)
    (i : Fin TS_CONTENTION_POOL_SIZE) (slot : ContentionSlot ℕ)
    (hocc : slot.occupied = (s.pool i).occupied) (hcopy : slot.copy = (s.pool i).copy)
    (hcarry : ∀ k, carries k slot = carries k (s.pool i))
    (hrun : ∀ c, slot.work.running = some (.publishing c) →
      (s.pool i).work.running = some (.publishing c)) :
    FateInv ⟨Function.update s.pool i slot, s.scheduled⟩ (es ++ []) := by
  refine h.update i slot _ [] (fun k => rfl) (fun k => ?_) (fun k => ?_) (fun ho => ?_)
    (fun c hc => ?_) (fun e he => absurd he List.not_mem_nil)
  · unfold holds
    rw [hocc, hcopy]
    rfl
  · rw [hcarry k]
    rfl
  · rw [List.append_nil, hcopy]
    exact h.held_known i (hocc ▸ ho)
  · rw [List.append_nil]
    exact h.carried_known i c (hrun c hc)

/-- **A step of a timer or a handler** moves a copy from its slot to the run
that claims it, from the run to the bus, or nowhere. -/
theorem FateInv.handler {s : PoolRun} {es : List PoolEvent} (h : FateInv s es)
    (i : Fin TS_CONTENTION_POOL_SIZE) (a : HandlerAct) {s' : PoolRun}
    (hs' : poolStep s (.handler i a) = some s') :
    FateInv s' (es ++ poolEvents s (.handler i a)) := by
  simp only [poolStep] at hs'
  obtain ⟨pool, hpool, rfl⟩ := Option.map_eq_some_iff.mp hs'
  obtain ⟨slot, hslot, rfl⟩ := Pool.handle_eq_some.mp hpool
  rcases ContentionSlot.handle_cases hslot with ⟨w, rfl, hw, rfl⟩ | ⟨w, rfl, hw, rfl⟩ |
    ⟨rfl, hrun, hocc, rfl⟩ | ⟨rfl, hrun, hocc, rfl⟩ | ⟨c, rfl, hrun, rfl⟩ | ⟨rfl, hrun, rfl⟩
  · -- the delay expires
    obtain ⟨-, rfl⟩ := expire_eq_some hw
    exact h.frame i _ rfl rfl (fun k => carries_congr rfl k) (fun c hc => hc)
  · -- the handler is entered
    obtain ⟨-, hnone, rfl⟩ := start_eq_some hw
    refine h.frame i _ rfl rfl (fun k => ?_) (fun c hc => ?_)
    · unfold carries
      rw [hnone]
    · cases hc
  · -- the run claims the copy of an occupied slot
    simp only [poolEvents, hocc, ite_true]
    refine h.update i _ _ _ (fun k => ?_) (fun k => ?_) (fun k => ?_)
      (fun hfree => Bool.noConfusion hfree) (fun c hc => ?_) (fun e he => ?_)
    · simp [PoolEvent.schedules]
    · rw [holds_of_free rfl, holds_of_occupied hocc]
      simp [PoolEvent.schedules, PoolEvent.cancels, PoolEvent.claims, List.countP_singleton]
    · unfold carries
      simp [hrun, PoolEvent.publishes, PoolEvent.claims, List.countP_singleton]
    · cases hc
      exact List.mem_append_left _ (h.held_known i hocc)
    · rw [List.mem_singleton.mp he]
      exact List.mem_append_left _ (h.held_known i hocc)
  · -- the run finds its slot free
    have hev : poolEvents s (.handler i .claim) = [] := by simp [poolEvents, hocc]
    rw [hev]
    refine h.frame i _ rfl rfl (fun k => ?_) (fun c hc => ?_)
    · unfold carries
      simp [hrun]
    · cases hc
  · -- the run publishes what it claimed
    have hev : poolEvents s (.handler i .publish) = [.published c] := by
      simp [poolEvents, ContentionSlot.publishes, hrun]
    rw [hev]
    refine h.update i _ _ _ (fun k => ?_) (fun k => ?_) (fun k => ?_) (fun ho => ?_)
      (fun c' hc => ?_) (fun e he => ?_)
    · simp [PoolEvent.schedules]
    · unfold holds
      simp [PoolEvent.schedules, PoolEvent.cancels, PoolEvent.claims]
    · unfold carries
      simp [hrun, PoolEvent.publishes, PoolEvent.claims, List.countP_singleton]
    · exact List.mem_append_left _ (h.held_known i ho)
    · cases hc
    · rw [List.mem_singleton.mp he]
      exact List.mem_append_left _ (h.carried_known i c hrun)
  · -- the run returns
    refine h.frame i _ rfl rfl (fun k => ?_) (fun c hc => ?_)
    · unfold carries
      simp [hrun]
    · cases hc

/-- **Every step keeps the counts.** -/
theorem FateInv.step {s : PoolRun} {es : List PoolEvent} (a : PoolAct) {s' : PoolRun}
    (h : FateInv s es) (hs' : poolStep s a = some s') : FateInv s' (es ++ poolEvents s a) := by
  cases a with
  | schedule cfg msg rssi => exact h.schedule cfg msg rssi hs'
  | cancel src msgId => exact h.cancel src msgId hs'
  | handler i a => exact h.handler i a hs'

/-- The counts at the end of a run. -/
theorem fateInv_run {acts : List PoolAct} {s : PoolRun}
    (hrun : run poolStep poolBoot acts = some s) :
    FateInv s (trace poolStep poolEvents poolBoot acts) :=
  run_history (J := FateInv) (fun _ _ a _ h hs' => h.step a hs') fateInv_boot hrun

/-! ## Reading the counts -/

/-- A number is used once. -/
theorem FateInv.countP_schedules_le {s : PoolRun} {es : List PoolEvent} (h : FateInv s es)
    (k : ℕ) : es.countP (·.schedules k) ≤ 1 := by
  rw [h.numbered k]
  split <;> omega

/-- A copy that was scheduled counts once under its number. -/
theorem FateInv.countP_schedules_eq {s : PoolRun} {es : List PoolEvent} (h : FateInv s es)
    {c : Copy ℕ} (hc : .scheduled c ∈ es) : es.countP (·.schedules c.tag) = 1 := by
  have hpos : 0 < es.countP (·.schedules c.tag) :=
    List.countP_pos_iff.mpr ⟨_, hc, beq_self_eq_true _⟩
  have hle := h.countP_schedules_le c.tag
  omega

/-- **A number stands for one message.** -/
theorem FateInv.eq_of_tag_eq {s : PoolRun} {es : List PoolEvent} (h : FateInv s es)
    {c c' : Copy ℕ} (hc : .scheduled c ∈ es) (hc' : .scheduled c' ∈ es)
    (htag : c.tag = c'.tag) : c = c' := by
  by_contra hne
  have hsub : List.Subperm [PoolEvent.scheduled c, .scheduled c']
      (es.filter (·.schedules c.tag)) := by
    refine List.subperm_of_subset (by simpa using hne) (fun e he => ?_)
    rw [List.mem_cons, List.mem_singleton] at he
    rcases he with rfl | rfl
    · exact List.mem_filter.mpr ⟨hc, beq_self_eq_true _⟩
    · exact List.mem_filter.mpr ⟨hc', by simp [PoolEvent.schedules, htag]⟩
  have hlen := hsub.length_le
  rw [← List.countP_eq_length_filter, h.countP_schedules_eq hc] at hlen
  simp at hlen

/-- **Every scheduled forward has exactly one fate.** In every interleaving:
a copy for which `ts_contention_schedule` returned `0` is held in one slot,
has been cancelled, or has been claimed by one handler run, and only one of
these; a cancelled copy is never published; a copy is published at most once,
and then as it was scheduled; and `ts_contention_schedule` returns `-ENOMEM`
exactly when every slot is occupied, which changes no slot. -/
theorem contention_one_fate {acts : List PoolAct} {s : PoolRun}
    (hrun : run poolStep poolBoot acts = some s) :
    let es := trace poolStep poolEvents poolBoot acts
    (∀ c, .scheduled c ∈ es →
      heldIn s.pool c.tag + es.countP (·.cancels c.tag) + es.countP (·.claims c.tag) = 1)
    ∧ (∀ c c', .cancelled c ∈ es → .published c' ∈ es → c'.tag ≠ c.tag)
    ∧ (∀ c, es.countP (·.publishes c) ≤ 1)
    ∧ (∀ c, .published c ∈ es → .scheduled c ∈ es
      ∧ ∀ c', .scheduled c' ∈ es → c'.tag = c.tag → c' = c)
    ∧ (∀ cfg msg rssi,
      ((tsContentionSchedule cfg s.pool ⟨msg, s.scheduled⟩ rssi).2 = -Errno.ENOMEM
        ↔ ∀ i, (s.pool i).occupied = true)
      ∧ ((∀ i, (s.pool i).occupied = true) →
        (tsContentionSchedule cfg s.pool ⟨msg, s.scheduled⟩ rssi).1 = s.pool)) := by
  have h := fateInv_run hrun
  generalize trace poolStep poolEvents poolBoot acts = es at h
  refine ⟨fun c hc => ?_, fun c c' hc hc' htag => ?_, fun k => ?_, fun c hc => ?_,
    fun cfg msg rssi => ?_⟩
  · rw [h.one_fate, h.countP_schedules_eq hc]
  · -- cancelled and published would be two fates of one number
    have hcancel : 0 < es.countP (·.cancels c.tag) :=
      List.countP_pos_iff.mpr ⟨_, hc, beq_self_eq_true _⟩
    have hpub : 0 < es.countP (·.publishes c.tag) :=
      List.countP_pos_iff.mpr ⟨_, hc', by simp [PoolEvent.publishes, htag]⟩
    have hone := h.one_fate c.tag
    have hflight := h.in_flight c.tag
    have hle := h.countP_schedules_le c.tag
    omega
  · have hone := h.one_fate k
    have hflight := h.in_flight k
    have hle := h.countP_schedules_le k
    omega
  · have hsched : .scheduled c ∈ es := h.log_known _ hc
    exact ⟨hsched, fun c' hc' htag => h.eq_of_tag_eq hc' hsched htag⟩
  · rcases tsContentionSchedule_cases cfg s.pool ⟨msg, s.scheduled⟩ rssi with
      ⟨-, hfull, heq⟩ | ⟨i, -, hfree, heq⟩
    · rw [heq]
      exact ⟨iff_of_true rfl hfull, fun _ => rfl⟩
    · have hnot : ¬ ∀ i, (s.pool i).occupied = true := fun hall => by
        have hi := hall i
        rw [hfree] at hi
        cases hi
      rw [heq]
      exact ⟨iff_of_false neg_enomem_ne_zero.symm hnot, fun hall => absurd hall hnot⟩

/-- One forward from its schedule to its publication from slot `i`, while
another one is cancelled. -/
def forwardAndCancel (i : Fin TS_CONTENTION_POOL_SIZE) : List PoolAct :=
  [.schedule (tsConfigGet tsConfigDefaults) (heardStatus 2 7) (-40), .handler i .expire,
    .schedule (tsConfigGet tsConfigDefaults) (heardStatus 3 1) (-70), .handler i .start,
    .handler i .claim, .cancel 3 1, .handler i .publish, .handler i .ret]

/-- The fates of the two copies of that run. -/
theorem contention_one_fate_forwardAndCancel : ∃ s,
    run poolStep poolBoot (forwardAndCancel 0) = some s
      ∧ heldIn s.pool 0
          + (trace poolStep poolEvents poolBoot (forwardAndCancel 0)).countP (·.cancels 0)
          + (trace poolStep poolEvents poolBoot (forwardAndCancel 0)).countP (·.claims 0) = 1 := by
  obtain ⟨s, hs⟩ : ∃ s, run poolStep poolBoot (forwardAndCancel 0) = some s :=
    Option.isSome_iff_exists.mp (by decide)
  exact ⟨s, hs, (contention_one_fate hs).1 ⟨heardStatus 2 7, 0⟩ (by decide)⟩

end Terrascope
