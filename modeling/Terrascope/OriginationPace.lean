import Terrascope.TimedNode

/-!
# The pace of a node

How many messages of its own a node makes in a given time. Both timers keep
the interval they were started with at boot, whatever `ts_config_set` does to
it afterwards; the heartbeat loop sleeps for the interval that is live when it
goes to sleep. A reading whose work is still in the queue when the timer
expires again is lost, and nothing else is.

`origination_pace` puts this together: with the configuration requests it
answers, these are all the messages of a node.
-/

namespace Terrascope

open Transition Zephyr Node

variable {τ : Type} {P : Platform}

namespace TimedAct

/-- The sensor work starts. -/
def isReading : TimedAct τ → Bool
  | .act (.originate (.sensor _ _ _ _) _) => true
  | _ => false

/-- The heartbeat loop makes its message. -/
def isBeat : TimedAct τ → Bool
  | .act (.originate (.heartbeat _) _) => true
  | _ => false

/-- The aging work runs. -/
def isAging : TimedAct τ → Bool
  | .act (.age _) => true
  | _ => false

end TimedAct

/-- A producer prepares a message. -/
def NodeAct.isOriginate : NodeAct τ → Bool
  | .originate _ _ => true
  | _ => false

/-- A message of the node's own. -/
def NodeEvent.isOriginated : NodeEvent τ → Bool
  | .originated _ => true
  | _ => false

/-- A configuration request is applied. -/
def NodeEvent.isConfigApplied : NodeEvent τ → Bool
  | .configApplied _ => true
  | _ => false

namespace TimedNode

/-- What the node does in a step. -/
def events (P : Platform) (s : TimedNode τ) : TimedAct τ → List (NodeEvent τ)
  | .millisecond => []
  | .act a => s.node.events P a

/-- **No work is overtaken by time**: it has left the queue when the next
millisecond passes. -/
def Prompt (s : TimedNode τ) : TimedAct τ → Prop
  | .millisecond => s.sensorTakeReading = false ∧ s.routingTableAgeWork = false
  | .act _ => True

/-! ## Work items -/

/-- **The work of a timer**: runs and what is queued come from expiries, and
whatever else expired came while the work was queued. -/
structure Paced (duration period : ℕ) (timer : KTimer) (queued : Bool) (uptime runs : ℕ)
    (prompt : Prop) : Prop where
  ran : ∃ n, KTimer.Ran duration period uptime n timer ∧ runs + queued.toNat ≤ n
    ∧ (prompt → runs + queued.toNat = n)

/-- A timer that was just started. -/
theorem paced_start (duration period : ℕ) (prompt : Prop) :
    Paced duration period (kTimerStart duration period) false 0 0 prompt :=
  ⟨0, ran_kTimerStart duration period, le_rfl, fun _ => rfl⟩

variable {duration period uptime runs : ℕ} {timer : KTimer} {queued : Bool} {prompt : Prop}

/-- A millisecond passes. -/
theorem Paced.tick (h : Paced duration period timer queued uptime runs prompt) {prompt' : Prop}
    (hprompt : prompt' → prompt ∧ queued = false) :
    Paced duration period timer.tick.1 (queued || timer.tick.2) (uptime + 1) runs prompt' := by
  obtain ⟨n, hran, hle, heq⟩ := h.ran
  refine ⟨n + timer.tick.2.toNat, hran.tick, ?_, fun hp => ?_⟩
  · cases queued <;> cases timer.tick.2 <;> simp_all
    omega
  · obtain ⟨hp', rfl⟩ := hprompt hp
    rw [Bool.false_or, ← heq hp', Bool.toNat_false, Nat.add_zero]

/-- The work is run. -/
theorem Paced.start (h : Paced duration period timer queued uptime runs prompt)
    (hqueued : queued = true) :
    Paced duration period timer false uptime (runs + 1) prompt := by
  obtain ⟨n, hran, hle, heq⟩ := h.ran
  rw [hqueued] at hle heq
  exact ⟨n, hran, hle, heq⟩

/-- **How often it has run.** -/
theorem Paced.runs_le (h : Paced duration period timer queued uptime runs prompt) :
    runs + queued.toNat ≤ expiries duration period uptime
      ∧ (prompt → runs + queued.toNat = expiries duration period uptime) := by
  obtain ⟨n, hran, hle, heq⟩ := h.ran
  rw [← hran.expiries_eq]
  exact ⟨hle, heq⟩

end TimedNode

/-! ## One step of a node -/

/-- **What becomes of the heartbeat message** in a step. -/
theorem Node.Step.heartbeat_cases {n n' : Node τ} {a : NodeAct τ} {es : List (NodeEvent τ)}
    (hs : Step P n a n' es) :
    (∃ now tag, a = .originate (.heartbeat now) tag ∧ n.producing .heartbeat = none
        ∧ n'.producing .heartbeat ≠ none)
      ∨ (a = .publishOwn .heartbeat ∧ n.producing .heartbeat ≠ none
        ∧ n'.producing .heartbeat = none ∧ n'.config = n.config)
      ∨ ((∀ now tag, a ≠ .originate (.heartbeat now) tag) ∧ a ≠ .publishOwn .heartbeat
        ∧ n'.producing .heartbeat = n.producing .heartbeat) := by
  have hother (who : Producer) (hwho : Producer.heartbeat ≠ who) (own : Option (Copy τ)) :
      Function.update n.producing who own .heartbeat = n.producing .heartbeat :=
    Function.update_of_ne hwho own n.producing
  cases hs with
  | @originated content tag hidle route hroute =>
    cases content with
    | heartbeat now => exact Or.inl ⟨now, tag, rfl, hidle, by simp [Content.producer]⟩
    | sensor now temperature humidity pressure =>
      exact Or.inr (Or.inr ⟨by simp, by simp, hother .sensor (by decide)
        (some ⟨sensorMsg route now temperature humidity pressure, tag⟩)⟩)
    | application dst data =>
      exact Or.inr (Or.inr ⟨by simp, by simp, hother .application (by decide)
        (some ⟨⟨route, data⟩, tag⟩)⟩)
  | @ownPublished who own hown =>
    by_cases hwho : who = .heartbeat
    · subst hwho
      exact Or.inr (Or.inl ⟨rfl, by rw [hown]; simp, by simp, rfl⟩)
    · exact Or.inr (Or.inr ⟨by simp, fun h => hwho (NodeAct.publishOwn.inj h),
        hother who (Ne.symm hwho) none⟩)
  | ownDropped own hown =>
    exact Or.inr (Or.inr ⟨by simp, by simp, hother .sensor (by decide) none⟩)
  | _ => exact Or.inr (Or.inr ⟨by simp, by simp, rfl⟩)

/-- **Where a node's own messages come from**: a producer, or a request it
applies. -/
theorem Node.Step.countP_isOriginated {n n' : Node τ} {a : NodeAct τ} {es : List (NodeEvent τ)}
    (hs : Step P n a n' es) :
    es.countP NodeEvent.isOriginated
      = a.isOriginate.toNat + es.countP NodeEvent.isConfigApplied := by
  cases hs with
  | configured | originated => rfl
  | _ => simp [NodeEvent.isOriginated, NodeEvent.isConfigApplied, NodeAct.isOriginate]

namespace TimedNode

/-! ## Runs -/

/-- **The messages of a run** are its readings, its beats and its answers. -/
theorem countP_isOriginated {s t : TimedNode τ} {acts : List (TimedAct τ)}
    (hrun : run (step P) s acts = some t) :
    (trace (step P) (events P) s acts).countP NodeEvent.isOriginated
      = acts.countP TimedAct.isReading + acts.countP TimedAct.isBeat
        + (trace (step P) (events P) s acts).countP NodeEvent.isConfigApplied := by
  induction acts generalizing s with
  | nil => rfl
  | cons a acts ih =>
    obtain ⟨s₁, hs, hrun⟩ := run_cons_eq_some.mp hrun
    rw [trace, hs, Option.elim_some, List.countP_append, List.countP_append, ih hrun,
      List.countP_cons, List.countP_cons]
    have hone : (events P s a).countP NodeEvent.isOriginated
        = (if a.isReading then 1 else 0) + (if a.isBeat then 1 else 0)
          + (events P s a).countP NodeEvent.isConfigApplied := by
      cases a with
      | millisecond => rfl
      | act a =>
        obtain ⟨hallows, node, hnode, -⟩ := step_act_eq_some hs
        have hcount := (Step.of_step hnode).countP_isOriginated
        rw [events, hcount]
        congr 1
        cases a with
        | originate content tag =>
          cases content with
          | application => exact hallows.elim
          | _ => rfl
        | _ => rfl
    omega

/-- **The pace so far**, with `h` milliseconds from one heartbeat to the next at
least. -/
structure PaceInv (cfg : TsConfig) (h : ℕ) (prompt : Prop) (s : TimedNode τ)
    (acts : List (TimedAct τ)) : Prop where
  sensor : Paced (kSeconds 1) (kSeconds cfg.sensorIntervalS) s.sensorPeriodicTimer
    s.sensorTakeReading s.uptime (acts.countP TimedAct.isReading) prompt
  aging : Paced (kSeconds cfg.routingTableAgeIntervalS) (kSeconds cfg.routingTableAgeIntervalS)
    s.routingTableAgeTimer s.routingTableAgeWork s.uptime (acts.countP TimedAct.isAging) prompt
  asleep : s.node.producing .heartbeat = none →
    acts.countP TimedAct.isBeat * h + h ≤ s.uptime + s.sleep
  awake : acts.countP TimedAct.isBeat * h ≤ s.uptime

theorem paceInv_boot [Inhabited τ] {config : ConfigState} {h : ℕ}
    (hh : h ≤ kSeconds (tsConfigGet config.live).heartbeatIntervalS) (prompt : Prop) :
    PaceInv (tsConfigGet config.live) h prompt (boot config : TimedNode τ) [] where
  sensor := paced_start _ _ prompt
  aging := paced_start _ _ prompt
  asleep := fun _ => by
    simp only [List.countP_nil, Nat.zero_mul, Nat.zero_add, boot]
    exact hh
  awake := by simp

/-- **A millisecond keeps the pace**, … -/
theorem PaceInv.pass {cfg : TsConfig} {h : ℕ} {prompt : Prop} {s : TimedNode τ}
    {acts : List (TimedAct τ)} (hinv : PaceInv cfg h prompt s acts)
    (hprompt : prompt → s.Prompt .millisecond) :
    PaceInv cfg h prompt s.pass (acts ++ [.millisecond]) := by
  have hcount (p : TimedAct τ → Bool) (hp : p TimedAct.millisecond = false) :
      (acts ++ [TimedAct.millisecond]).countP p = acts.countP p := by
    rw [List.countP_append, List.countP_singleton, hp]
    rfl
  refine ⟨?_, ?_, fun hidle => ?_, ?_⟩
  · rw [hcount _ rfl]
    exact hinv.sensor.tick (fun hp => ⟨hp, (hprompt hp).1⟩)
  · rw [hcount _ rfl]
    exact hinv.aging.tick (fun hp => ⟨hp, (hprompt hp).2⟩)
  · rw [hcount _ rfl]
    have hasleep := hinv.asleep hidle
    simp only [TimedNode.pass]
    omega
  · rw [hcount _ rfl]
    exact Nat.le_succ_of_le hinv.awake

/-- … and so does a step of the node. -/
theorem PaceInv.act {cfg : TsConfig} {h : ℕ} {prompt : Prop} {s : TimedNode τ}
    {acts : List (TimedAct τ)} (hinv : PaceInv cfg h prompt s acts)
    (hh : h ≤ kSeconds s.node.cfg.heartbeatIntervalS) {a : NodeAct τ} {node : Node τ}
    {es : List (NodeEvent τ)} (hallows : s.Allows a) (hs : Step P s.node a node es) :
    PaceInv cfg h prompt (s.after node a) (acts ++ [.act a]) := by
  have hcount (p : TimedAct τ → Bool) :
      (acts ++ [TimedAct.act a]).countP p = acts.countP p + (p (.act a)).toNat := by
    rw [List.countP_append, List.countP_singleton]
    cases p (.act a) <;> rfl
  have hsensor : Paced (kSeconds 1) (kSeconds cfg.sensorIntervalS)
      (s.after node a).sensorPeriodicTimer (s.after node a).sensorTakeReading
      (s.after node a).uptime ((acts ++ [TimedAct.act a]).countP TimedAct.isReading) prompt := by
    rw [hcount, after_uptime, after_sensorPeriodicTimer]
    cases a with
    | originate content tag =>
      cases content with
      | sensor now temperature humidity pressure => exact hinv.sensor.start hallows.1
      | _ => exact hinv.sensor
    | publishOwn who => cases who <;> exact hinv.sensor
    | _ => exact hinv.sensor
  have haging : Paced (kSeconds cfg.routingTableAgeIntervalS)
      (kSeconds cfg.routingTableAgeIntervalS) (s.after node a).routingTableAgeTimer
      (s.after node a).routingTableAgeWork (s.after node a).uptime
      ((acts ++ [TimedAct.act a]).countP TimedAct.isAging) prompt := by
    rw [hcount, after_uptime, after_routingTableAgeTimer]
    cases a with
    | age now => exact hinv.aging.start hallows.1
    | originate content tag => cases content <;> exact hinv.aging
    | publishOwn who => cases who <;> exact hinv.aging
    | _ => exact hinv.aging
  have hawake := hinv.awake
  rcases hs.heartbeat_cases with ⟨now, tag, rfl, hidle, hbusy⟩ | ⟨rfl, -, hidle, hconfig⟩ |
    ⟨hbeat, hpublish, hsame⟩
  · -- the loop has slept out
    have hslept := hinv.asleep hidle
    rw [hallows.1] at hslept
    refine ⟨hsensor, haging, fun hnone => absurd hnone ?_, ?_⟩
    · rwa [after_node]
    · rw [hcount, after_uptime]
      simp only [TimedAct.isBeat, Bool.toNat_true, Nat.succ_mul]
      exact hslept
  · -- the loop goes to sleep
    have hcfg : node.cfg = s.node.cfg := by
      unfold Node.cfg
      rw [hconfig]
    refine ⟨hsensor, haging, fun _ => ?_, ?_⟩
    · rw [hcount, after_uptime]
      simp only [TimedAct.isBeat, Bool.toNat_false, Nat.add_zero, after, hcfg]
      exact Nat.add_le_add hawake hh
    · rw [hcount, after_uptime]
      exact hawake
  · have hnot : TimedAct.isBeat (.act a) = false := by
      cases a with
      | originate content tag =>
        cases content with
        | heartbeat now => exact absurd rfl (hbeat now tag)
        | _ => rfl
      | _ => rfl
    have hsleep : (s.after node a).sleep = s.sleep := by
      cases a with
      | originate content tag => cases content <;> rfl
      | publishOwn who =>
        cases who with
        | heartbeat => exact absurd rfl hpublish
        | _ => rfl
      | _ => rfl
    refine ⟨hsensor, haging, fun hnone => ?_, ?_⟩
    · rw [hcount, hnot, hsleep, after_uptime]
      rw [after_node, hsame] at hnone
      exact hinv.asleep hnone
    · rw [hcount, hnot, after_uptime]
      exact hawake

/-- **The pace of a run.** -/
theorem paceInv_run [Inhabited τ] {config : ConfigState} {acts : List (TimedAct τ)}
    {s : TimedNode τ} (hrun : run (step P) (boot config) acts = some s) {h : ℕ}
    (hh : AllStates (step P) (fun s => h ≤ kSeconds s.node.cfg.heartbeatIntervalS)
      (boot config) acts) {prompt : Prop}
    (hprompt : prompt → AllSteps (step P) Prompt (boot config) acts) :
    PaceInv (tsConfigGet config.live) h prompt s acts := by
  have hstep : ∀ (s : TimedNode τ) acts a s', PaceInv (tsConfigGet config.live) h prompt s acts →
      (h ≤ kSeconds s.node.cfg.heartbeatIntervalS ∧ (prompt → s.Prompt a)) →
      step P s a = some s' → PaceInv (tsConfigGet config.live) h prompt s' (acts ++ [a]) := by
    rintro s acts a s' hinv ⟨hlive, hp⟩ hs
    cases a with
    | millisecond =>
      cases hs
      exact hinv.pass hp
    | act a =>
      obtain ⟨hallows, node, hnode, rfl⟩ := step_act_eq_some hs
      exact hinv.act hlive hallows (Step.of_step hnode)
  have hboot : PaceInv (tsConfigGet config.live) h prompt (boot config : TimedNode τ) [] :=
    paceInv_boot hh.first prompt
  have hlast := run_history_of_allSteps hstep hboot
    (hh.allSteps.and (allSteps_of_imp hprompt)) hrun
  rw [trace_label hrun] at hlast
  exact hlast

/-- **The pace of a node's own messages.** In every run of a node over the time
since boot, whatever it hears and whatever is set: there are at most as many
readings as the sensor timer, started with the interval that was loaded at
boot, has expired, and exactly as many, with what is queued, when no work is
overtaken by time. The aging passes keep to their interval in the same way. If
the live heartbeat interval is never below `h` milliseconds, there are never
more than one heartbeat to `h` of them. And with the requests that were
applied, these are all the messages there are. -/
theorem origination_pace [Inhabited τ] {config : ConfigState} {acts : List (TimedAct τ)}
    {s : TimedNode τ} (hrun : run (step P) (boot config) acts = some s) {h : ℕ}
    (hh : AllStates (step P) (fun s => h ≤ kSeconds s.node.cfg.heartbeatIntervalS)
      (boot config) acts) :
    let cfg := tsConfigGet config.live
    let readings := expiries (kSeconds 1) (kSeconds cfg.sensorIntervalS) s.uptime
    let agings := expiries (kSeconds cfg.routingTableAgeIntervalS)
      (kSeconds cfg.routingTableAgeIntervalS) s.uptime
    acts.countP TimedAct.isReading + s.sensorTakeReading.toNat ≤ readings
      ∧ acts.countP TimedAct.isAging + s.routingTableAgeWork.toNat ≤ agings
      ∧ (AllSteps (step P) Prompt (boot config) acts →
        acts.countP TimedAct.isReading + s.sensorTakeReading.toNat = readings
          ∧ acts.countP TimedAct.isAging + s.routingTableAgeWork.toNat = agings)
      ∧ acts.countP TimedAct.isBeat * h ≤ s.uptime
      ∧ (trace (step P) (events P) (boot config) acts).countP NodeEvent.isOriginated
        = acts.countP TimedAct.isReading + acts.countP TimedAct.isBeat
          + (trace (step P) (events P) (boot config) acts).countP NodeEvent.isConfigApplied := by
  intro cfg readings agings
  have hinv : PaceInv cfg h (AllSteps (step P) Prompt (boot config) acts) s acts :=
    paceInv_run hrun hh id
  exact ⟨hinv.sensor.runs_le.1, hinv.aging.runs_le.1,
    fun hp => ⟨hinv.sensor.runs_le.2 hp, hinv.aging.runs_le.2 hp⟩, hinv.awake,
    countP_isOriginated hrun⟩

/-- A second passes, and the sensor is read. -/
def firstReading : List (TimedAct Unit) :=
  List.replicate 1000 .millisecond ++ [.act (.originate (.sensor 1 2350 4500 101325) ())]

/-- It is the only message there can be by then. -/
theorem origination_pace_firstReading : ∃ s,
    run (step defaultPlatform) (boot ConfigState.empty) firstReading = some s
      ∧ s.uptime = 1000
      ∧ firstReading.countP TimedAct.isReading ≤ 1
      ∧ (trace (step defaultPlatform) (events defaultPlatform) (boot ConfigState.empty)
          firstReading).countP NodeEvent.isOriginated
        = 1 + (trace (step defaultPlatform) (events defaultPlatform) (boot ConfigState.empty)
          firstReading).countP NodeEvent.isConfigApplied := by
  have heval : (run (step defaultPlatform) (boot ConfigState.empty) firstReading).map
      TimedNode.uptime = some 1000 := by decide +kernel
  obtain ⟨s, hrun, huptime⟩ := Option.map_eq_some_iff.mp heval
  -- neither a millisecond nor a reading changes the configuration
  have hlive : AllStates (step defaultPlatform)
      (fun s => 7000 ≤ kSeconds s.node.cfg.heartbeatIntervalS) (boot ConfigState.empty)
      firstReading := by
    refine allStates_of_invariant (fun a ha s s' h hs => ?_) (by decide)
    rcases List.mem_append.mp ha with ha | ha
    · rw [List.eq_of_mem_replicate ha] at hs
      cases hs
      exact h
    · rw [List.mem_singleton.mp ha] at hs
      obtain ⟨-, node, hnode, rfl⟩ := step_act_eq_some hs
      have hstep := Step.of_step hnode
      generalize Node.events defaultPlatform s.node _ = es at hstep
      cases hstep with
      | originated => exact h
  have hreadings : firstReading.countP TimedAct.isReading = 1 := by decide +kernel
  have hbeats : firstReading.countP TimedAct.isBeat = 0 := by decide +kernel
  obtain ⟨hle, -, -, -, hmessages⟩ := origination_pace hrun hlive
  rw [huptime] at hle
  rw [hreadings, hbeats, Nat.add_zero] at hmessages
  refine ⟨s, hrun, huptime, (Nat.le_add_right _ _).trans (hle.trans ?_), hmessages⟩
  decide +kernel

end TimedNode

end Terrascope
