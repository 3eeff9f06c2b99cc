import Terrascope.RoutingTable
import Terrascope.Transition

/-!
# Aging against a running clock

An update and an aging pass each read the uptime before they lock the table,
so between the reading and the critical section the other thread may run and
the clock may advance. `Aging.step` has the four halves and the clock as steps
of their own.

An entry that was stamped after the pass had read the clock is younger than
the reading, and its age, taken modulo `2^32`, is a very large number.
`agesStaleOnly_iff` says that such entries, and no others, are the fresh ones
a pass removes.
-/

namespace Terrascope

open Transition

/-- A `ts_routing_table_update` that has read the clock. -/
structure PendingUpdate where
  now : UInt32
  cfg : TsConfig
  nodeId : UInt16
  rssi : Int16
  snr : Int8
  ttl : UInt8

/-- A `ts_routing_table_age_seconds` that has read the clock. -/
structure PendingAging where
  now : UInt32
  maxAge : UInt32

/-- **The table, the clock and the two threads**: the receiver, which
updates, and the work queue, which ages. -/
structure Aging where
  /-- The uptime in seconds, which stays below `2^32`. -/
  clock : ℕ
  table : NeighborTable
  updating : Option PendingUpdate
  aging : Option PendingAging

/-- Nobody is at the table, which is empty. -/
def Aging.start (clock : UInt32) : Aging := ⟨clock.toNat, tsRoutingTableInit, none, none⟩

/-- A step of the clock or of one of the threads. -/
inductive AgingStep where
  | tick (seconds : ℕ)
  | updateRead (cfg : TsConfig) (nodeId : UInt16) (rssi : Int16) (snr : Int8) (ttl : UInt8)
  | updateLocked
  | ageRead (maxAge : UInt32)
  | ageLocked

namespace Aging

/-- **One step.** Each thread is in one call at a time. -/
def step (s : Aging) : AgingStep → Option Aging
  | .tick seconds =>
    if s.clock + seconds < 2 ^ 32 then some { s with clock := s.clock + seconds } else none
  | .updateRead cfg nodeId rssi snr ttl =>
    match s.updating with
    | some _ => none
    | none => some { s with updating := some ⟨UInt32.ofNat s.clock, cfg, nodeId, rssi, snr, ttl⟩ }
  | .updateLocked =>
    s.updating.map (fun u =>
      { s with
        table := (tsRoutingTableUpdate u.cfg u.now s.table u.nodeId u.rssi u.snr u.ttl).1
        updating := none })
  | .ageRead maxAge =>
    match s.aging with
    | some _ => none
    | none => some { s with aging := some ⟨UInt32.ofNat s.clock, maxAge⟩ }
  | .ageLocked =>
    s.aging.map (fun a =>
      { s with
        table := (tsRoutingTableAgeSeconds a.now a.maxAge s.table).1
        aging := none })

/-- **A pass removes only what is stale** at the moment it does. -/
def AgesStaleOnly (s : Aging) : AgingStep → Prop
  | .ageLocked => ∀ a, s.aging = some a → ∀ i, (s.table i).occupied = true →
      ((tsRoutingTableAgeSeconds a.now a.maxAge s.table).1 i).occupied = false →
      (s.table i).lastSeen.toNat + a.maxAge.toNat ≤ s.clock
  | _ => True

/-- **No fresh entry was stamped after the reading** of the pass, unless so
long after it that its age modulo `2^32` is below the limit again. -/
def NoneYounger (s : Aging) : AgingStep → Prop
  | .ageLocked => ∀ a, s.aging = some a → ∀ i, (s.table i).occupied = true →
      a.now < (s.table i).lastSeen →
      s.clock < (s.table i).lastSeen.toNat + a.maxAge.toNat →
      2 ^ 32 < (s.table i).lastSeen.toNat - a.now.toNat + a.maxAge.toNat
  | _ => True

/-- **All readings and stamps are in the past.** -/
structure Past (s : Aging) : Prop where
  clock : s.clock < 2 ^ 32
  stamps : ∀ i, (s.table i).occupied = true → (s.table i).lastSeen.toNat ≤ s.clock
  updating : ∀ u, s.updating = some u → u.now.toNat ≤ s.clock
  aging : ∀ a, s.aging = some a → a.now.toNat ≤ s.clock

/-- A reading of the clock is not in the future. -/
theorem ofNat_clock_le (clock : ℕ) : (UInt32.ofNat clock).toNat ≤ clock := by
  rw [UInt32.toNat_ofNat']
  exact Nat.mod_le _ _

theorem past_start (clock : UInt32) : Past (start clock) where
  clock := clock.toNat_lt
  stamps := nofun
  updating := nofun
  aging := nofun

/-- **Time does not run backwards**, and stamps are readings of the clock. -/
theorem Past.step {s s' : Aging} {a : AgingStep} (h : Past s) (hs : s.step a = some s') :
    Past s' := by
  cases a with
  | tick seconds =>
    simp only [Aging.step] at hs
    split at hs
    · next hlt =>
      cases hs
      exact ⟨hlt, fun i hi => Nat.le_add_right_of_le (h.stamps i hi),
        fun u hu => Nat.le_add_right_of_le (h.updating u hu),
        fun a ha => Nat.le_add_right_of_le (h.aging a ha)⟩
    · cases hs
  | updateRead cfg nodeId rssi snr ttl =>
    simp only [Aging.step] at hs
    split at hs
    · cases hs
    · cases hs
      refine ⟨h.clock, h.stamps, ?_, h.aging⟩
      rintro u ⟨⟩
      exact ofNat_clock_le _
  | updateLocked =>
    obtain ⟨u, hu, rfl⟩ := Option.map_eq_some_iff.mp hs
    refine ⟨h.clock, fun i hi => ?_, nofun, h.aging⟩
    rcases @lastSeen_of_update u.cfg u.now s.table u.nodeId u.rssi u.snr u.ttl i with hold | hnew
    · dsimp only at hi ⊢
      rw [hold] at hi ⊢
      exact h.stamps i hi
    · dsimp only
      rw [hnew]
      exact h.updating u hu
  | ageRead maxAge =>
    simp only [Aging.step] at hs
    split at hs
    · cases hs
    · cases hs
      refine ⟨h.clock, h.stamps, h.updating, ?_⟩
      rintro a ⟨⟩
      exact ofNat_clock_le _
  | ageLocked =>
    obtain ⟨a, ha, rfl⟩ := Option.map_eq_some_iff.mp hs
    refine ⟨h.clock, fun i hi => ?_, h.updating, nofun⟩
    dsimp only at hi ⊢
    have hsame := eq_of_aged hi
    rw [hsame] at hi ⊢
    exact h.stamps i hi

/-- The difference of two words. -/
theorem toNat_sub_word (a b : UInt32) :
    (a - b).toNat = if b ≤ a then a.toNat - b.toNat else 2 ^ 32 - (b.toNat - a.toNat) := by
  have ha := a.toNat_lt
  have hb := b.toNat_lt
  rw [UInt32.toNat_sub]
  split
  · next hle =>
    rw [UInt32.le_iff_toNat_le] at hle
    omega
  · next hle =>
    rw [UInt32.le_iff_toNat_le] at hle
    omega

/-- **One pass** removes only what is stale exactly if no fresh entry is
younger than its reading. -/
theorem agesStaleOnly_step_iff {s : Aging} (h : Past s) (a : AgingStep) :
    AgesStaleOnly s a ↔ NoneYounger s a := by
  cases a with
  | ageLocked =>
    unfold AgesStaleOnly NoneYounger
    refine forall_congr' fun a => forall_congr' fun ha => forall_congr' fun i =>
      forall_congr' fun hi => ?_
    have hnow := h.aging a ha
    have hstamp := h.stamps i hi
    have hword := (s.table i).lastSeen.toNat_lt
    rw [aged_eq_false_iff hi, UInt32.le_iff_toNat_le, UInt32.lt_iff_toNat_lt, toNat_sub_word]
    split
    · next hle =>
      -- an age that is not negative is the entry's age at the reading
      rw [UInt32.le_iff_toNat_le] at hle
      omega
    · next hle =>
      rw [UInt32.le_iff_toNat_le] at hle
      omega
  | tick seconds => exact Iff.rfl
  | updateRead cfg nodeId rssi snr ttl => exact Iff.rfl
  | updateLocked => exact Iff.rfl
  | ageRead maxAge => exact Iff.rfl

/-- **Aging removes only what is stale exactly when** it never meets a fresh
entry stamped after its reading of the clock. This is over every interleaving
of updates, passes with any limit, and the clock. -/
theorem agesStaleOnly_iff (clock : UInt32) (as : List AgingStep) :
    AllSteps step AgesStaleOnly (start clock) as ↔ AllSteps step NoneYounger (start clock) as :=
  allSteps_iff_of_invariant (fun _ _ _ h hs => h.step hs)
    (fun _ a h => agesStaleOnly_step_iff h a) as (past_start clock)

/-- A node heard between the reading and the critical section of a pass, a
second after the reading. -/
def heardMeanwhile : List AgingStep :=
  [.ageRead 300, .tick 1, .updateRead (tsConfigGet tsConfigDefaults) 2 (-80) 7 5, .updateLocked,
    .ageLocked]

/-- **It is removed at the age of zero**, with a limit of five minutes. -/
theorem heardMeanwhile_removed : ¬ AllSteps step AgesStaleOnly (start 10) heardMeanwhile := by
  rintro ⟨-, h⟩
  obtain ⟨-, h⟩ := h _ rfl
  obtain ⟨-, h⟩ := h _ rfl
  obtain ⟨-, h⟩ := h _ rfl
  obtain ⟨h, -⟩ := h _ rfl
  exact absurd (h _ rfl 0 (by decide +kernel) (by decide +kernel)) (by decide +kernel)

end Aging

end Terrascope
