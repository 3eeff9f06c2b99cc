import Terrascope.Boot
import Terrascope.Turnstile

/-!
# The start of the LoRa threads

`lora_init` gives `lora_ready_sem` once the radio is configured, and each of
`lora_out_task` and `lora_in_task` takes it and gives it back before its loop.
The three run in any order.

`lora_threads_start` says that this is a gate and nothing else: no loop starts
before the radio is configured, both start once it is, and neither does if it
cannot be. `Booting.loraReady`, which lets the threads of a node run from
`lora_init` on, stands for it.
-/

namespace Terrascope

open Transition Zephyr

/-- The threads that wait for `lora_ready_sem`. -/
inductive LoraThread where
  | loraOutTask
  | loraInTask
deriving DecidableEq

instance : Fintype LoraThread where
  elems := {.loraOutTask, .loraInTask}
  complete thread := by cases thread <;> decide

/-- **The LoRa module from power on**: what `lora_init` has returned, and with
which configuration of the radio, and the semaphore with those waiting. -/
structure LoraStart where
  initRet : Option Int32
  modem : Option LoraModemConfig
  ready : Turnstile LoraThread

/-- **A step**: `lora_init` runs, or a thread takes its next step. -/
inductive LoraStartAct where
  | loraInit (deviceReady : Bool) (configRet : Int32)
  | take (thread : LoraThread)
  | giveBack (thread : LoraThread)

namespace LoraStart

/-- At power on. -/
def cold : LoraStart := ⟨none, none, Turnstile.closed⟩

/-- **One step.** -/
def step (s : LoraStart) : LoraStartAct → Option LoraStart
  | .loraInit deviceReady configRet =>
    match s.initRet with
    | some _ => none
    | none =>
      let (modem, ret) := Terrascope.loraInit (tsConfigGet tsConfigDefaults) deviceReady configRet
      if ret = 0 then
        (s.ready.step .openUp).map (fun ready => ⟨some ret, modem, ready⟩)
      else some ⟨some ret, modem, s.ready⟩
  | .take thread => (s.ready.step (.take thread)).map (fun ready => { s with ready := ready })
  | .giveBack thread =>
    (s.ready.step (.giveBack thread)).map (fun ready => { s with ready := ready })

/-- The thread is in its loop. -/
def Started (s : LoraStart) (thread : LoraThread) : Prop := s.ready.gate thread = .through

/-- **The semaphore is given when the radio is configured**, and only then. -/
structure Inv (s : LoraStart) : Prop where
  ready : s.ready.Inv
  opened : s.ready.opened = true ↔ s.initRet = some 0
  modem : s.initRet = some 0 →
    s.modem = some (loraPopulateModemConfig (tsConfigGet tsConfigDefaults))

theorem inv_cold : Inv cold :=
  ⟨Turnstile.inv_closed, iff_of_false (by decide) (fun h => by cases h), fun h => by cases h⟩

/-- `lora_init` returns 0 with the radio configured. -/
theorem loraInit_eq_zero {cfg : TsConfig} {deviceReady : Bool} {configRet : Int32}
    (h : (Terrascope.loraInit cfg deviceReady configRet).2 = 0) :
    (Terrascope.loraInit cfg deviceReady configRet).1 = some (loraPopulateModemConfig cfg) := by
  unfold Terrascope.loraInit at h ⊢
  cases deviceReady with
  | true => rfl
  | false =>
    have hret : (-Errno.ENODEV : Int32) ≠ 0 := by decide
    exact absurd h hret

/-- A step of a thread, in the turnstile. -/
def turnstileAct : LoraStartAct → Option (TurnstileAct LoraThread)
  | .loraInit _ _ => none
  | .take thread => some (.take thread)
  | .giveBack thread => some (.giveBack thread)

/-- **The steps, case by case.** -/
theorem step_cases {s s' : LoraStart} {a : LoraStartAct} (hs : s.step a = some s') :
    (∃ deviceReady configRet ready, a = .loraInit deviceReady configRet ∧ s.initRet = none
        ∧ s' = ⟨some (Terrascope.loraInit (tsConfigGet tsConfigDefaults) deviceReady configRet).2,
          (Terrascope.loraInit (tsConfigGet tsConfigDefaults) deviceReady configRet).1, ready⟩
        ∧ if (Terrascope.loraInit (tsConfigGet tsConfigDefaults) deviceReady configRet).2 = 0
          then s.ready.step .openUp = some ready else ready = s.ready)
      ∨ ∃ act ready, turnstileAct a = some act ∧ act ≠ .openUp
        ∧ s.ready.step act = some ready ∧ s' = { s with ready := ready } := by
  cases a with
  | loraInit deviceReady configRet =>
    simp only [step] at hs
    split at hs
    · cases hs
    · next hnone =>
      refine Or.inl ⟨deviceReady, configRet, ?_⟩
      split at hs
      · next hret =>
        obtain ⟨ready, hopen, rfl⟩ := Option.map_eq_some_iff.mp hs
        exact ⟨ready, rfl, hnone, rfl, by rw [if_pos hret]; exact hopen⟩
      · next hret =>
        cases hs
        exact ⟨s.ready, rfl, hnone, rfl, by rw [if_neg hret]⟩
  | take thread =>
    obtain ⟨ready, htake, rfl⟩ := Option.map_eq_some_iff.mp hs
    exact Or.inr ⟨.take thread, ready, rfl, fun h => (by cases h), htake, rfl⟩
  | giveBack thread =>
    obtain ⟨ready, hgive, rfl⟩ := Option.map_eq_some_iff.mp hs
    exact Or.inr ⟨.giveBack thread, ready, rfl, fun h => (by cases h), hgive, rfl⟩

/-- **A step keeps the invariant.** -/
theorem Inv.step {s s' : LoraStart} {a : LoraStartAct} (h : Inv s) (hs : s.step a = some s') :
    Inv s' := by
  rcases step_cases hs with
    ⟨deviceReady, configRet, ready, rfl, hnone, rfl, hready⟩ | ⟨act, ready, -, ha, hstep, rfl⟩
  · have hclosed : s.ready.opened ≠ true := fun hopened => by
      rw [h.opened.mp hopened] at hnone
      cases hnone
    split at hready
    · next hret =>
      refine ⟨(h.ready.step hready).1, iff_of_true ?_ (congrArg some hret),
        fun _ => loraInit_eq_zero hret⟩
      simp only [Turnstile.step, if_neg hclosed] at hready
      cases hready
      rfl
    · next hret =>
      subst hready
      exact ⟨h.ready, iff_of_false hclosed (fun heq => hret (Option.some.inj heq)),
        fun heq => absurd (Option.some.inj heq) hret⟩
  · refine ⟨(h.ready.step hstep).1, ?_, h.modem⟩
    rw [Turnstile.opened_of_step ha hstep]
    exact h.opened

/-- What `lora_init` has returned stays. -/
theorem initRet_step {s s' : LoraStart} {a : LoraStartAct} {ret : Int32}
    (h : s.initRet = some ret) (hs : s.step a = some s') : s'.initRet = some ret := by
  rcases step_cases hs with
    ⟨deviceReady, configRet, ready, -, hnone, -⟩ | ⟨act, ready, -, -, -, rfl⟩
  · rw [h] at hnone
    cases hnone
  · exact h

/-- A run of the threads in the turnstile is one of the module. -/
theorem run_of_turnstile {s : LoraStart} {acts : List (TurnstileAct LoraThread)}
    {ready : Turnstile LoraThread} (hacts : ∀ a ∈ acts, a ≠ .openUp)
    (hrun : run Turnstile.step s.ready acts = some ready) :
    ∃ acts', run step s acts' = some { s with ready := ready } := by
  induction acts generalizing s with
  | nil =>
    cases hrun
    exact ⟨[], rfl⟩
  | cons a acts ih =>
    obtain ⟨ready₁, hs, hrun⟩ := run_cons_eq_some.mp hrun
    obtain ⟨ha, hacts⟩ := List.forall_mem_cons.mp hacts
    obtain ⟨acts', hrun'⟩ := ih (s := { s with ready := ready₁ }) hacts hrun
    have hstep : ∃ a', s.step a' = some { s with ready := ready₁ } := by
      cases a with
      | openUp => exact absurd rfl ha
      | take thread => exact ⟨.take thread, by rw [step, hs]; rfl⟩
      | giveBack thread => exact ⟨.giveBack thread, by rw [step, hs]; rfl⟩
    obtain ⟨a', hs'⟩ := hstep
    exact ⟨a' :: acts', run_cons_eq_some.mpr ⟨_, hs', hrun'⟩⟩

/-! ## Runs -/

/-- The invariant holds of every run, with what `lora_init` has returned. -/
theorem inv_run {acts : List LoraStartAct} {s : LoraStart} (hrun : run step cold acts = some s) :
    Inv s ∧ ∀ ret, s.initRet = some ret → ∃ deviceReady configRet,
      .loraInit deviceReady configRet ∈ acts
        ∧ ret = (Terrascope.loraInit (tsConfigGet tsConfigDefaults) deviceReady configRet).2 := by
  induction acts using List.reverseRecOn generalizing s with
  | nil =>
    cases hrun
    exact ⟨inv_cold, fun ret hret => by cases hret⟩
  | append_singleton acts a ih =>
    obtain ⟨t, ht, hlast⟩ := run_append_eq_some.mp hrun
    obtain ⟨s', hs, hnil⟩ := run_cons_eq_some.mp hlast
    cases hnil
    obtain ⟨h, hret⟩ := ih ht
    refine ⟨h.step hs, fun ret heq => ?_⟩
    rcases step_cases hs with
      ⟨deviceReady, configRet, ready, rfl, -, rfl, -⟩ | ⟨act, ready, -, -, -, rfl⟩
    · exact ⟨deviceReady, configRet, by simp, (Option.some.inj heq).symm⟩
    · obtain ⟨deviceReady, configRet, hmem, hval⟩ := hret ret heq
      exact ⟨deviceReady, configRet, List.mem_append_left _ hmem, hval⟩

/-- … and after `lora_init` that is what it returned. -/
theorem initRet_run {acts : List LoraStartAct} {s t : LoraStart}
    (hrun : run step s acts = some t) {deviceReady : Bool} {configRet : Int32}
    (hmem : .loraInit deviceReady configRet ∈ acts) :
    t.initRet
      = some (Terrascope.loraInit (tsConfigGet tsConfigDefaults) deviceReady configRet).2 := by
  obtain ⟨pre, post, rfl⟩ := List.append_of_mem hmem
  obtain ⟨u, -, hrest⟩ := run_append_eq_some.mp hrun
  obtain ⟨v, hs, hpost⟩ := run_cons_eq_some.mp hrest
  have hv : v.initRet
      = some (Terrascope.loraInit (tsConfigGet tsConfigDefaults) deviceReady configRet).2 := by
    rcases step_cases hs with ⟨ready', ret', ready, heq, -, rfl, -⟩ | ⟨act, ready, hact, -⟩
    · cases heq
      rfl
    · cases hact
  exact run_invariant (fun _ _ _ h hs => initRet_step h hs) hv hpost

end LoraStart

open LoraStart

/-- **The gate of the LoRa threads.** In every run of `lora_init` and the two
threads from power on, in whatever order: a thread that is past its
`k_sem_take` has waited for a `lora_init` that leaves the radio ready and
configured. After one that does, the semaphore stops neither thread: where none
can go on both have started, and every run can be prolonged until they have.
After one that does not, no thread ever passes. -/
theorem lora_threads_start {τ : Type} [Inhabited τ] (store : SettingsStore)
    {acts : List LoraStartAct} {s : LoraStart} (hrun : run LoraStart.step cold acts = some s) :
    (∀ thread, s.ready.gate thread ≠ .waiting →
        s.modem = some (loraPopulateModemConfig (tsConfigGet tsConfigDefaults))
          ∧ ∃ deviceReady configRet, .loraInit deviceReady configRet ∈ acts
            ∧ (Booting.afterLoraInit store deviceReady configRet : Booting τ).loraReady = true)
      ∧ ∀ deviceReady configRet, .loraInit deviceReady configRet ∈ acts →
        if (Booting.afterLoraInit store deviceReady configRet : Booting τ).loraReady = true then
          ((∀ a, s.step a = none) → ∀ thread, s.Started thread)
            ∧ ∃ acts' t, run LoraStart.step s acts' = some t ∧ ∀ thread, t.Started thread
        else ∀ thread, s.ready.gate thread = .waiting := by
  have hready (deviceReady : Bool) (configRet : Int32) :
      (Booting.afterLoraInit store deviceReady configRet : Booting τ).loraReady = true
        ↔ (loraInit (tsConfigGet tsConfigDefaults) deviceReady configRet).2 = 0 := beq_iff_eq
  obtain ⟨h, hinit⟩ := inv_run hrun
  constructor
  · intro thread hthread
    have hzero := h.opened.mp (h.ready.opened_of_ne_waiting hthread)
    obtain ⟨deviceReady, configRet, hmem, hret⟩ := hinit 0 hzero
    exact ⟨h.modem hzero, deviceReady, configRet, hmem, (hready _ _).mpr hret.symm⟩
  · intro deviceReady configRet hmem
    have hret := initRet_run hrun hmem
    split
    · next hyes =>
      rw [(hready _ _).mp hyes] at hret
      have hopened := h.opened.mpr hret
      refine ⟨fun hstuck => h.ready.through_of_stuck hopened (fun a ha => ?_), ?_⟩
      · cases a with
        | openUp => exact absurd rfl ha
        | take thread => exact Option.map_eq_none_iff.mp (hstuck (.take thread))
        | giveBack thread => exact Option.map_eq_none_iff.mp (hstuck (.giveBack thread))
      · obtain ⟨acts', ready, hacts, hpass, hthrough⟩ := h.ready.exists_run_through hopened
        obtain ⟨acts', hrun'⟩ := run_of_turnstile hacts hpass
        exact ⟨acts', _, hrun', hthrough⟩
    · next hno =>
      intro thread
      by_contra hthread
      have hzero := h.opened.mp (h.ready.opened_of_ne_waiting hthread)
      rw [hret] at hzero
      exact hno ((hready _ _).mpr (Option.some.inj hzero))

/-- `lora_init` runs, then the receive task gets through, then the transmit task. -/
def bothStart : List LoraStartAct :=
  [.loraInit true 0, .take .loraInTask, .giveBack .loraInTask, .take .loraOutTask,
    .giveBack .loraOutTask]

/-- Both threads start, with the radio configured. -/
theorem lora_threads_start_both : ∃ s, run LoraStart.step cold bothStart = some s
    ∧ (∀ thread, s.Started thread)
    ∧ s.modem = some (loraPopulateModemConfig (tsConfigGet tsConfigDefaults)) := by
  have heval : (run LoraStart.step cold bothStart).map (fun s => s.ready.gate)
      = some (fun _ => Gate.through) := by decide
  obtain ⟨s, hrun, hgate⟩ := Option.map_eq_some_iff.mp heval
  have hstarted (thread : LoraThread) : s.ready.gate thread = .through := congrFun hgate thread
  refine ⟨s, hrun, hstarted, ((lora_threads_start (τ := Unit) ∅ hrun).1 .loraInTask ?_).1⟩
  rw [hstarted]
  decide

end Terrascope
