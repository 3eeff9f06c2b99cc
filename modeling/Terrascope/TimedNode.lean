import Terrascope.Node
import Terrascope.PeriodicTimer

/-!
# A node in time

The two timers and the sleep of `main`, which set the pace of what a node does
on its own. The sensor timer and the aging timer are started once, with the
intervals that were loaded at boot, and put their work into the system work
queue; the heartbeat loop reads its interval anew each time it goes to sleep.
All of them count milliseconds.

A `TimedNode` is a node with these clocks, and its runs are runs of the node in
which every step of the node's own comes when its clock says so and every
reading of the uptime is the uptime.
-/

namespace Terrascope

open Transition Zephyr

/-- `K_SECONDS`, in milliseconds. The product is one of 32 bits. -/
def kSeconds (s : UInt32) : ℕ := (s * 1000).toNat

/-- **A node with its clocks.** -/
structure TimedNode (τ : Type) where
  node : Node τ
  /-- The uptime in milliseconds. -/
  uptime : ℕ
  sensorPeriodicTimer : KTimer
  routingTableAgeTimer : KTimer
  /-- `sensor_take_reading` is in the work queue. -/
  sensorTakeReading : Bool
  /-- `routing_table_age_work` is in the work queue. -/
  routingTableAgeWork : Bool
  /-- What is left of the sleep of the heartbeat loop. -/
  sleep : ℕ

/-- **A step**: a millisecond passes, or a thread of the node takes a step. -/
inductive TimedAct (τ : Type) where
  | millisecond
  | act (a : NodeAct τ)

/-- The step of the node, if it is one. -/
def TimedAct.nodeAct {τ : Type} : TimedAct τ → Option (NodeAct τ)
  | .millisecond => none
  | .act a => some a

namespace TimedNode

variable {τ : Type}

/-- **`main` has come to its loop**, over the configuration that was loaded:
both timers are started, and it goes to sleep. -/
def boot [Inhabited τ] (config : ConfigState) : TimedNode τ :=
  let cfg := tsConfigGet config.live
  { node := Node.boot config
    uptime := 0
    sensorPeriodicTimer := kTimerStart (kSeconds 1) (kSeconds cfg.sensorIntervalS)
    routingTableAgeTimer := kTimerStart (kSeconds cfg.routingTableAgeIntervalS)
      (kSeconds cfg.routingTableAgeIntervalS)
    sensorTakeReading := false
    routingTableAgeWork := false
    sleep := kSeconds cfg.heartbeatIntervalS }

/-- `k_uptime_seconds`, in 32 bits. -/
def now (s : TimedNode τ) : UInt32 := UInt32.ofNat (s.uptime / 1000)

/-- A millisecond passes. An expired timer submits its work, which stays where
it is if it is queued already. -/
def pass (s : TimedNode τ) : TimedNode τ :=
  { s with
    uptime := s.uptime + 1
    sensorPeriodicTimer := s.sensorPeriodicTimer.tick.1
    routingTableAgeTimer := s.routingTableAgeTimer.tick.1
    sensorTakeReading := s.sensorTakeReading || s.sensorPeriodicTimer.tick.2
    routingTableAgeWork := s.routingTableAgeWork || s.routingTableAgeTimer.tick.2
    sleep := s.sleep - 1 }

/-- **The clocks let the node take a step**: the heartbeat loop is awake, the
work is in the queue, and the time that is read is the time. Messages of an
application are none of this firmware's. -/
def Allows (s : TimedNode τ) : NodeAct τ → Prop
  | .receive _ _ _ _ now => now = s.now
  | .originate (.heartbeat now) _ => s.sleep = 0 ∧ now = s.now
  | .originate (.sensor now _ _ _) _ => s.sensorTakeReading = true ∧ now = s.now
  | .originate (.application _ _) _ => False
  | .age now => s.routingTableAgeWork = true ∧ now = s.now
  | _ => True

instance (s : TimedNode τ) (a : NodeAct τ) : Decidable (s.Allows a) := by
  unfold Allows
  split <;> infer_instance

/-- What a step of the node does to the clocks. -/
def after (s : TimedNode τ) (node : Node τ) : NodeAct τ → TimedNode τ
  | .originate (.sensor _ _ _ _) _ => { s with node := node, sensorTakeReading := false }
  | .age _ => { s with node := node, routingTableAgeWork := false }
  | .publishOwn .heartbeat =>
    { s with node := node, sleep := kSeconds node.cfg.heartbeatIntervalS }
  | _ => { s with node := node }

/-- **One step.** -/
def step (P : Platform) (s : TimedNode τ) : TimedAct τ → Option (TimedNode τ)
  | .millisecond => some s.pass
  | .act a => if s.Allows a then (s.node.step P a).map (fun node => s.after node a) else none

@[simp] theorem after_node (s : TimedNode τ) (node : Node τ) (a : NodeAct τ) :
    (s.after node a).node = node := by
  unfold after
  split <;> rfl

@[simp] theorem after_uptime (s : TimedNode τ) (node : Node τ) (a : NodeAct τ) :
    (s.after node a).uptime = s.uptime := by
  unfold after
  split <;> rfl

@[simp] theorem after_sensorPeriodicTimer (s : TimedNode τ) (node : Node τ) (a : NodeAct τ) :
    (s.after node a).sensorPeriodicTimer = s.sensorPeriodicTimer := by
  unfold after
  split <;> rfl

@[simp] theorem after_routingTableAgeTimer (s : TimedNode τ) (node : Node τ) (a : NodeAct τ) :
    (s.after node a).routingTableAgeTimer = s.routingTableAgeTimer := by
  unfold after
  split <;> rfl

/-- A step of the node, taken apart. -/
theorem step_act_eq_some {P : Platform} {s s' : TimedNode τ} {a : NodeAct τ}
    (hs : s.step P (.act a) = some s') :
    s.Allows a ∧ ∃ node, s.node.step P a = some node ∧ s' = s.after node a := by
  simp only [step] at hs
  split at hs
  · next hallows =>
    obtain ⟨node, hnode, rfl⟩ := Option.map_eq_some_iff.mp hs
    exact ⟨hallows, node, hnode, rfl⟩
  · cases hs

/-- **A run of the timed node is one of the node.** -/
theorem run_node {P : Platform} {s t : TimedNode τ} {acts : List (TimedAct τ)}
    (hrun : run (step P) s acts = some t) :
    run (Node.step P) s.node (acts.filterMap TimedAct.nodeAct) = some t.node := by
  induction acts generalizing s with
  | nil =>
    cases hrun
    rfl
  | cons a acts ih =>
    obtain ⟨s₁, hs, hrun⟩ := run_cons_eq_some.mp hrun
    cases a with
    | millisecond =>
      cases hs
      exact ih (s := s.pass) hrun
    | act a =>
      obtain ⟨-, node, hnode, rfl⟩ := step_act_eq_some hs
      have hrest := ih hrun
      rw [after_node] at hrest
      exact run_cons_eq_some.mpr ⟨node, hnode, hrest⟩

end TimedNode

end Terrascope
