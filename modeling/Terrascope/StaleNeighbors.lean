import Terrascope.OriginationPace

/-!
# When a silent neighbour is gone

A neighbour that falls silent is removed by the first aging pass that finds it
older than the stale timeout, and the passes come at the interval that was
loaded at boot. `silent_neighbour_gone` adds the two up: at no time of a run is
there an entry that was last heard longer ago than both together – provided
that the aging work leaves the queue before time goes on, and the interval is
not zero, which would make the timer expire once only.
-/

namespace Terrascope

open Transition Zephyr Node

namespace TimedNode

variable {τ : Type} {P : Platform}

/-- **The aging timer between two passes**: the last was at `pass`, and the next
is due `interval` milliseconds after it. -/
inductive NextPass (interval pass uptime : ℕ) : KTimer → Bool → Prop where
  | running {r} (hr : 0 < r) (hdue : uptime + r = pass + interval) :
      NextPass interval pass uptime ⟨some r, interval⟩ false
  | queued (hdue : uptime = pass + interval) :
      NextPass interval pass uptime ⟨some interval, interval⟩ true

/-- **No entry is older than it may be**: every one was heard less than
`maxAge` seconds before the last pass. -/
structure AgeInv (interval maxAge : ℕ) (s : TimedNode τ) : Prop where
  pass : ∃ pass, NextPass interval pass s.uptime s.routingTableAgeTimer s.routingTableAgeWork
    ∧ pass ≤ s.uptime
    ∧ ∀ i, (s.node.table i).occupied = true →
      pass / 1000 < (s.node.table i).lastSeen.toNat + maxAge
        ∧ (s.node.table i).lastSeen.toNat ≤ s.uptime / 1000

variable {interval maxAge : ℕ}

/-- The time that is read. -/
theorem toNat_now {s : TimedNode τ} (h : s.uptime < 2 ^ 32 * 1000) :
    s.now.toNat = s.uptime / 1000 := by
  unfold now
  rw [UInt32.toNat_ofNat']
  exact Nat.mod_eq_of_lt (Nat.div_lt_of_lt_mul (by omega))

/-- A millisecond brings the next pass nearer. -/
theorem AgeInv.millisecond {s : TimedNode τ} (h : AgeInv interval maxAge s)
    (hpos : 0 < interval) (hprompt : s.routingTableAgeWork = false) :
    AgeInv interval maxAge s.pass := by
  obtain ⟨pass, hnext, hpast, hentries⟩ := h.pass
  refine ⟨pass, ?_, Nat.le_succ_of_le hpast, fun i hi => ⟨(hentries i hi).1,
    (hentries i hi).2.trans (Nat.div_le_div_right (Nat.le_succ _))⟩⟩
  simp only [TimedNode.pass]
  rw [hprompt] at hnext ⊢
  rw [Bool.false_or]
  generalize s.routingTableAgeTimer = timer at hnext ⊢
  cases hnext with
  | @running r hr hdue =>
    unfold KTimer.tick
    dsimp only
    split
    · next hone =>
      rw [if_neg hpos.ne']
      exact .queued (by omega)
    · next hmore => exact .running (by omega) (by omega)

/-- **A step of the node keeps every entry young enough.** -/
theorem AgeInv.act {s : TimedNode τ} (h : AgeInv interval maxAge s) (hpos : 0 < interval)
    (hmax : 0 < maxAge) (htime : s.uptime < 2 ^ 32 * 1000)
    (hstale : s.node.cfg.routingTableStaleTimeoutS.toNat ≤ maxAge) {a : NodeAct τ} {node : Node τ}
    {es : List (NodeEvent τ)} (hallows : s.Allows a) (hs : Step P s.node a node es) :
    AgeInv interval maxAge (s.after node a) := by
  obtain ⟨pass, hnext, hpast, hentries⟩ := h.pass
  have hnow := toNat_now htime
  cases hs with
  | @accepted frame tag rssi snr now msg hrx hlen hparse hsrc hdup =>
    refine ⟨pass, hnext, hpast, fun i hi => ?_⟩
    rcases @lastSeen_of_update s.node.cfg now s.node.table msg.route.src rssi snr msg.route.ttl i
      with hold | hnew
    · simp only [after] at hi ⊢
      rw [hold] at hi ⊢
      exact hentries i hi
    · simp only [after]
      rw [hnew, hallows, hnow]
      have hle : pass / 1000 ≤ s.uptime / 1000 := Nat.div_le_div_right hpast
      exact ⟨by omega, le_rfl⟩
  | @aged now =>
    -- the pass: what it leaves is younger than the timeout
    obtain ⟨hqueued, rfl⟩ := hallows
    rw [hqueued] at hnext
    refine ⟨s.uptime, ?_, le_rfl, fun i hi => ?_⟩
    · simp only [after]
      generalize s.routingTableAgeTimer = timer at hnext ⊢
      cases hnext with
      | queued hdue => exact .running hpos rfl
    · simp only [after] at hi ⊢
      have hsame := eq_of_aged hi
      rw [hsame] at hi
      rw [hsame]
      have hseen := (hentries i hi).2
      have hle : (s.node.table i).lastSeen ≤ s.now := by
        rw [UInt32.le_iff_toNat_le, hnow]
        exact hseen
      have hyoung : ¬ s.node.cfg.routingTableStaleTimeoutS ≤ s.now - (s.node.table i).lastSeen := by
        intro hold
        have hfreed := (aged_eq_false_iff hi).mpr hold
        rw [hsame, hi] at hfreed
        cases hfreed
      rw [UInt32.le_iff_toNat_le, UInt32.toNat_sub_of_le _ _ hle, hnow] at hyoung
      exact ⟨by omega, hseen⟩
  | @originated content tag hidle route hroute =>
    cases content <;> exact ⟨pass, hnext, hpast, hentries⟩
  | @ownPublished who own hown => cases who <;> exact ⟨pass, hnext, hpast, hentries⟩
  | _ => exact ⟨pass, hnext, hpast, hentries⟩

end TimedNode

end Terrascope
