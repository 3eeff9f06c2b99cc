import Mathlib.Data.Fintype.Lattice
import Terrascope.NeighborMap
import Terrascope.Transition

/-!
# Which neighbour makes room

"If the table is full, evicts the oldest entry", says the header, and the
oldest should be the neighbour whose last update lies furthest back. The
table has only a stamp in seconds to tell, and of several with the least one
`find_oldest` takes the first, whatever the order of their updates was.

Here the updates are numbered beside the table, with the number of each
node's last one. `evictsLeastRecent_iff` says in which runs of calls every
eviction agrees with these numbers: those in which no entry with the stamp of
the least recently updated one stands in a slot before it. Sixteen neighbours
heard within a second, the first of them twice, are a run in which one does.
-/

namespace Terrascope

open SlotArray Transition

/-- **The table with the order of its updates.** -/
structure Recency where
  /-- The last reading of the clock. -/
  clock : UInt32
  table : NeighborTable
  /-- How many updates there have been. -/
  updates : ℕ
  /-- The number of each node's most recent update. -/
  lastUpdate : UInt16 → ℕ

/-- A node has an entry. -/
def Present (table : NeighborTable) (nodeId : UInt16) : Prop :=
  ∃ i, (table i).occupied = true ∧ (table i).nodeId = nodeId

/-- **It has one exactly if `find_by_node_id` finds it.** -/
theorem present_iff {table : NeighborTable} {nodeId : UInt16} :
    Present table nodeId ↔ (findByNodeId table nodeId).isSome = true := by
  rw [Option.isSome_iff_exists]
  constructor
  · rintro ⟨i, hocc, rfl⟩
    exact findSlot_isSome (i := i) (by rw [hocc, Bool.true_and, beq_self_eq_true])
  · rintro ⟨i, hi⟩
    exact ⟨i, findByNodeId_eq_some hi⟩

instance (table : NeighborTable) (nodeId : UInt16) : Decidable (Present table nodeId) :=
  decidable_of_iff _ present_iff.symm

namespace Recency

/-- The empty table, before any update. -/
def start : Recency := ⟨0, tsRoutingTableInit, 0, fun _ => 0⟩

/-- The state after a call that has read the clock. -/
def call (s : Recency) (c : UInt32 × NeighborCall) : Recency :=
  match c.2 with
  | .update _ nodeId _ _ _ =>
    ⟨c.1, (neighborCall s.table c).1, s.updates + 1,
      Function.update s.lastUpdate nodeId s.updates⟩
  | _ => ⟨c.1, (neighborCall s.table c).1, s.updates, s.lastUpdate⟩

/-- **One call**, at a time that is not before the last. -/
def step (s : Recency) (c : UInt32 × NeighborCall) : Option Recency :=
  if s.clock ≤ c.1 then some (s.call c) else none

/-- **A neighbour that an update displaces** is the one whose most recent
update came earliest. -/
def EvictsLeastRecent (s : Recency) (c : UInt32 × NeighborCall) : Prop :=
  match c.2 with
  | .update _ _ _ _ _ => ∀ victim, Present s.table victim →
      ¬ Present (neighborCall s.table c).1 victim →
      ∀ k, Present s.table k → s.lastUpdate victim ≤ s.lastUpdate k
  | _ => True

/-- The entry of the node whose most recent update came earliest. -/
def LeastRecent (s : Recency) (j : Fin TS_ROUTING_TABLE_SIZE) : Prop :=
  ∀ k, s.lastUpdate (s.table j).nodeId ≤ s.lastUpdate (s.table k).nodeId

/-- **The condition on a call.** When an update of an absent node meets a full
table, no entry with the stamp of the least recently updated one is in a slot
before it. -/
def NoTieBefore (s : Recency) (c : UInt32 × NeighborCall) : Prop :=
  match c.2 with
  | .update _ nodeId _ _ _ => ¬ Present s.table nodeId → (∀ i, (s.table i).occupied = true) →
      ∀ j, s.LeastRecent j → ∀ i < j, (s.table i).lastSeen ≠ (s.table j).lastSeen
  | _ => True

/-- **What the stamps say of the order.** -/
structure Inv (s : Recency) : Prop where
  unique : UniqueIds s.table
  past : ∀ i, (s.table i).occupied = true → (s.table i).lastSeen ≤ s.clock
  counted : ∀ i, (s.table i).occupied = true → s.lastUpdate (s.table i).nodeId < s.updates
  /-- No two neighbours were updated at once. -/
  distinct : ∀ i j, (s.table i).occupied = true → (s.table j).occupied = true →
    s.lastUpdate (s.table i).nodeId = s.lastUpdate (s.table j).nodeId → i = j
  /-- The later of two updates has no smaller stamp. -/
  ordered : ∀ i j, (s.table i).occupied = true → (s.table j).occupied = true →
    s.lastUpdate (s.table i).nodeId ≤ s.lastUpdate (s.table j).nodeId →
    (s.table i).lastSeen ≤ (s.table j).lastSeen

/-! ## What a call does to the order -/

section Steps

variable {s : Recency}

theorem inv_start : start.Inv where
  unique := uniqueIds_init
  past := fun _ h => by cases h
  counted := fun _ h => by cases h
  distinct := fun _ _ h => by cases h
  ordered := fun _ _ h => by cases h

/-- Entries that are left as they were keep their order. -/
theorem Inv.shrink (h : s.Inv) {now : UInt32} {table : NeighborTable} (hclock : s.clock ≤ now)
    (hold : ∀ i, (table i).occupied = true → table i = s.table i) :
    Inv ⟨now, table, s.updates, s.lastUpdate⟩ := by
  have hocc : ∀ i, (table i).occupied = true → (s.table i).occupied = true :=
    fun i hi => hold i hi ▸ hi
  refine ⟨fun i j hi hj hid => ?_, fun i hi => ?_, fun i hi => ?_, fun i j hi hj hid => ?_,
    fun i j hi hj hle => ?_⟩
  · change (table i).nodeId = (table j).nodeId at hid
    rw [hold i hi, hold j hj] at hid
    exact h.unique i j (hocc i hi) (hocc j hj) hid
  · show (table i).lastSeen ≤ now
    rw [hold i hi]
    exact UInt32.le_trans (h.past i (hocc i hi)) hclock
  · show s.lastUpdate (table i).nodeId < s.updates
    rw [hold i hi]
    exact h.counted i (hocc i hi)
  · change s.lastUpdate (table i).nodeId = s.lastUpdate (table j).nodeId at hid
    rw [hold i hi, hold j hj] at hid
    exact h.distinct i j (hocc i hi) (hocc j hj) hid
  · change s.lastUpdate (table i).nodeId ≤ s.lastUpdate (table j).nodeId at hle
    show (table i).lastSeen ≤ (table j).lastSeen
    rw [hold i hi, hold j hj] at hle ⊢
    exact h.ordered i j (hocc i hi) (hocc j hj) hle

/-- **The entry that is written comes last.** -/
theorem Inv.write (h : s.Inv) {now : UInt32} (hclock : s.clock ≤ now)
    {i : Fin TS_ROUTING_TABLE_SIZE} (nb : TsNeighbor) (hnow : nb.lastSeen = now)
    (hother : ∀ j, j ≠ i → (s.table j).occupied = true → (s.table j).nodeId ≠ nb.nodeId) :
    Inv ⟨now, Function.update s.table i nb, s.updates + 1,
      Function.update s.lastUpdate nb.nodeId s.updates⟩ := by
  -- an entry in use is the new one, or an old one under another id
  have hcases : ∀ j, (Function.update s.table i nb j).occupied = true →
      (j = i ∧ Function.update s.table i nb j = nb)
        ∨ (s.table j).occupied = true ∧ Function.update s.table i nb j = s.table j
          ∧ j ≠ i ∧ Function.update s.lastUpdate nb.nodeId s.updates (s.table j).nodeId
            = s.lastUpdate (s.table j).nodeId := by
    intro j hj
    by_cases hji : j = i
    · exact Or.inl ⟨hji, by rw [hji, Function.update_self]⟩
    · rw [Function.update_of_ne hji] at hj ⊢
      exact Or.inr ⟨hj, rfl, hji, Function.update_of_ne (hother j hji hj) _ _⟩
  refine ⟨h.unique.write hother, fun j hj => ?_, fun j hj => ?_, fun j k hj hk => ?_,
    fun j k hj hk => ?_⟩ <;> dsimp only at hj ⊢
  · rcases hcases j hj with ⟨-, heq⟩ | ⟨hocc, heq, -, -⟩ <;> rw [heq]
    · exact UInt32.le_of_eq hnow
    · exact UInt32.le_trans (h.past j hocc) hclock
  · rcases hcases j hj with ⟨-, heq⟩ | ⟨hocc, heq, -, hlast⟩ <;> rw [heq]
    · rw [Function.update_self]
      exact Nat.lt_succ_self _
    · rw [hlast]
      exact Nat.lt_succ_of_lt (h.counted j hocc)
  · dsimp only at hk
    rcases hcases j hj with ⟨hji, heqj⟩ | ⟨hoccj, heqj, hji, hlastj⟩ <;>
      rcases hcases k hk with ⟨hki, heqk⟩ | ⟨hocck, heqk, hki, hlastk⟩ <;> rw [heqj, heqk]
    · exact fun _ => hji.trans hki.symm
    · rw [Function.update_self, hlastk]
      exact fun heq => absurd heq (h.counted k hocck).ne'
    · rw [Function.update_self, hlastj]
      exact fun heq => absurd heq (h.counted j hoccj).ne
    · rw [hlastj, hlastk]
      exact h.distinct j k hoccj hocck
  · dsimp only at hk
    rcases hcases j hj with ⟨hji, heqj⟩ | ⟨hoccj, heqj, hji, hlastj⟩ <;>
      rcases hcases k hk with ⟨hki, heqk⟩ | ⟨hocck, heqk, hki, hlastk⟩ <;> rw [heqj, heqk]
    · exact fun _ => UInt32.le_refl _
    · rw [Function.update_self, hlastk]
      exact fun hle => absurd hle (not_le.mpr (h.counted k hocck))
    · rw [hnow]
      exact fun _ => UInt32.le_trans (h.past j hoccj) hclock
    · rw [hlastj, hlastk]
      exact h.ordered j k hoccj hocck

/-- **Every call keeps what the stamps say.** -/
theorem Inv.step (h : s.Inv) {c : UInt32 × NeighborCall} {s' : Recency}
    (hs : s.step c = some s') : s'.Inv := by
  unfold Recency.step at hs
  split at hs
  · next hclock =>
    cases hs
    obtain ⟨now, op⟩ := c
    cases op with
    | init => exact h.shrink hclock (fun _ hi => by cases hi)
    | lookup | count => exact h.shrink hclock (fun _ _ => rfl)
    | ageSeconds maxAge => exact h.shrink hclock (fun _ hi => eq_of_aged hi)
    | update cfg nodeId rssi snr ttl =>
      simp only [call, neighborCall]
      obtain ⟨i, nb, heq, -, rfl, hnow, -, hother⟩ :=
        tsRoutingTableUpdate_write cfg now s.table nodeId rssi snr ttl
      rw [heq]
      exact h.write hclock nb hnow (hother h.unique)
  · cases hs

end Steps

/-! ## Who is displaced -/

section Displaced

variable {table : NeighborTable}

/-- **An entry that is written displaces nobody** if it was free, or is
written again for its own node. -/
theorem present_write {i : Fin TS_ROUTING_TABLE_SIZE} (nb : TsNeighbor)
    (hkeep : (table i).occupied = true → nb.occupied = true ∧ nb.nodeId = (table i).nodeId)
    {nodeId : UInt16} (h : Present table nodeId) : Present (Function.update table i nb) nodeId := by
  obtain ⟨j, hocc, rfl⟩ := h
  refine ⟨j, ?_⟩
  by_cases hji : j = i
  · subst hji
    rw [Function.update_self]
    exact hkeep hocc
  · rw [Function.update_of_ne hji]
    exact ⟨hocc, rfl⟩

/-- **Otherwise it displaces its neighbour**, and no other. -/
theorem displaced_write_iff (h : UniqueIds table) {i : Fin TS_ROUTING_TABLE_SIZE}
    (nb : TsNeighbor) (hi : (table i).occupied = true) (hne : (table i).nodeId ≠ nb.nodeId)
    (victim : UInt16) :
    Present table victim ∧ ¬ Present (Function.update table i nb) victim
      ↔ victim = (table i).nodeId := by
  constructor
  · rintro ⟨⟨j, hj, rfl⟩, hgone⟩
    by_contra hother
    have hji : j ≠ i := fun heq => hother (heq ▸ rfl)
    exact hgone ⟨j, by rw [Function.update_of_ne hji]; exact ⟨hj, rfl⟩⟩
  · rintro rfl
    refine ⟨⟨i, hi, rfl⟩, ?_⟩
    rintro ⟨j, hj, hid⟩
    by_cases hji : j = i
    · rw [hji, Function.update_self] at hid
      exact hne hid.symm
    · rw [Function.update_of_ne hji] at hj hid
      exact hji (h j i hj hi hid)

end Displaced

section Evictions

variable {s : Recency}

/-- Some neighbour was updated least recently. -/
theorem exists_leastRecent (s : Recency) : ∃ j, s.LeastRecent j :=
  have : Nonempty (Fin TS_ROUTING_TABLE_SIZE) := ⟨⟨1, by decide⟩⟩
  Finite.exists_min (fun j => s.lastUpdate (s.table j).nodeId)

/-- **In a full table the first entry with the least stamp is the least
recently updated one** exactly if no entry with the stamp of that one is in a
slot before it. -/
theorem Inv.leastRecent_iff (h : s.Inv) (hfull : ∀ i, (s.table i).occupied = true)
    {i : Fin TS_ROUTING_TABLE_SIZE} (hfind : findOldest s.table = some i) :
    s.LeastRecent i
      ↔ ∀ j, s.LeastRecent j → ∀ k < j, (s.table k).lastSeen ≠ (s.table j).lastSeen := by
  constructor
  · intro hi j hj k hkj hstamp
    obtain rfl : i = j := h.distinct i j (hfull i) (hfull j) (le_antisymm (hi j) (hj i))
    rcases findOldest_first hfind (hfull k) hkj.ne' with hlt | ⟨-, hik⟩
    · rw [hstamp] at hlt
      exact UInt32.lt_irrefl _ hlt
    · exact absurd hkj hik.asymm
  · intro hcond
    obtain ⟨j, hj⟩ := s.exists_leastRecent
    by_cases hij : i = j
    · rwa [hij]
    · -- the entry found has no greater stamp, so an equal one, in a slot before
      rcases findOldest_first hfind (hfull j) hij with hlt | ⟨hstamp, hless⟩
      · exact absurd (h.ordered j i (hfull j) (hfull i) (hj i)) (UInt32.not_le.mpr hlt)
      · exact absurd hstamp (hcond j hj i hless)

/-- **A call displaces the least recently updated neighbour**, or none,
exactly if there is no such tie. -/
theorem Inv.evictsLeastRecent_iff (h : s.Inv) (c : UInt32 × NeighborCall) :
    s.EvictsLeastRecent c ↔ s.NoTieBefore c := by
  obtain ⟨now, op⟩ := c
  cases op with
  | init | lookup | ageSeconds | count => exact Iff.rfl
  | update cfg nodeId rssi snr ttl =>
    simp only [EvictsLeastRecent, NoTieBefore, neighborCall]
    rcases tsRoutingTableUpdate_cases cfg now s.table nodeId rssi snr ttl with
      ⟨i, hocc, hid, heq⟩ | ⟨hnone, i, heq, hfree | ⟨hfull, hfind⟩⟩
    · rw [heq]
      refine iff_of_true (fun victim hv hgone => ?_) (fun habsent => absurd ⟨i, hocc, hid⟩ habsent)
      exact absurd (present_write ((s.table i).refresh cfg now rssi snr ttl)
        (fun _ => ⟨hocc, rfl⟩) hv) hgone
    · rw [heq]
      refine iff_of_true (fun victim hv hgone => ?_) (fun _ hall => ?_)
      · exact absurd (present_write _ (fun hocc => by cases hfree.symm.trans hocc) hv) hgone
      · cases hfree.symm.trans (hall i)
    · have hdisplaced := displaced_write_iff h.unique
        (newNeighbor cfg now nodeId rssi snr ttl) (hfull i) (hnone i (hfull i))
      have habsent : ¬ Present s.table nodeId := by
        rintro ⟨j, hj, hid⟩
        exact hnone j hj hid
      rw [heq]
      refine Iff.trans ?_ ((h.leastRecent_iff hfull hfind).trans
        ⟨fun hc _ _ => hc, fun hc => hc habsent hfull⟩)
      constructor
      · intro hev k
        obtain ⟨hv, hgone⟩ := (hdisplaced _).mpr rfl
        exact hev _ hv hgone _ ⟨k, hfull k, rfl⟩
      · intro hi victim hv hgone k hk
        obtain ⟨m, -, rfl⟩ := hk
        rw [(hdisplaced victim).mp ⟨hv, hgone⟩]
        exact hi m

end Evictions

/-- **Which runs evict in the order of the updates.** Over any sequence of
calls with a clock that does not go back, every neighbour that is displaced
is the one whose most recent update came earliest, if and only if no update of
an absent node meets a full table in which an entry with the stamp of the
least recently updated one is in a slot before it. -/
theorem allSteps_evictsLeastRecent_iff (calls : List (UInt32 × NeighborCall)) :
    AllSteps step EvictsLeastRecent start calls ↔ AllSteps step NoTieBefore start calls :=
  allSteps_iff_of_invariant (fun _ _ _ h hs => h.step hs)
    (fun _ c h => h.evictsLeastRecent_iff c) calls inv_start

/-- Sixteen neighbours heard within one second, the first of them once more
at its end. -/
def firstRefreshed : List (UInt32 × NeighborCall) :=
  let cfg := tsConfigGet tsConfigDefaults
  (List.range 16).map (fun i => (60, .update cfg (UInt16.ofNat (2 + i)) (-75) 8 5))
    ++ [(60, .update cfg 2 (-75) 8 5)]

/-- The seventeenth. -/
def another : UInt32 × NeighborCall := (60, .update (tsConfigGet tsConfigDefaults) 18 (-60) 10 5)

/-- **It displaces the one heard last**: node 2, whose update was the last of
the seventeen, and not node 3, whose update was the second. -/
theorem firstRefreshed_evicted :
    (run step start firstRefreshed).map (fun s =>
        (s.lastUpdate 2, s.lastUpdate 3, decide (Present s.table 2), decide (Present s.table 3),
          decide (Present (s.call another).table 2), decide (Present (s.call another).table 3)))
      = some (16, 1, true, true, false, true)
    ∧ ¬ AllSteps step EvictsLeastRecent start (firstRefreshed ++ [another]) := by
  have hfacts : (run step start firstRefreshed).map (fun s =>
      (s.lastUpdate 2, s.lastUpdate 3, decide (Present s.table 2), decide (Present s.table 3),
        decide (Present (s.call another).table 2), decide (Present (s.call another).table 3)))
      = some (16, 1, true, true, false, true) := by decide +kernel
  refine ⟨hfacts, fun hall => ?_⟩
  obtain ⟨s, hrun, hs⟩ := Option.map_eq_some_iff.mp hfacts
  simp only [Prod.mk.injEq, decide_eq_true_eq, decide_eq_false_iff_not] at hs
  obtain ⟨htwo, hthree, hpresent, hother, hgone, -⟩ := hs
  have hle := hall.next hrun 2 hpresent hgone 3 hother
  rw [htwo, hthree] at hle
  exact absurd hle (by decide)

end Recency

end Terrascope
