import Terrascope.RoutingTable
import Terrascope.Simulation
import Terrascope.SlotMap

/-!
# The neighbour table as a map

What `routing_table.c` is for: a map from node ids to what was last heard of
each, of at most 16 entries, where a new node displaces one that has not been
heard for longest.

The map remembers more than the table. It keeps every update of a neighbour
since it came in, so that "some update since then was direct" can be said of
it, while the table has a flag. It says which neighbours may be displaced,
while the table takes the first of them. And its time is a number, while the
table subtracts stamps modulo 2^32. `neighborTable_implements_map` is the
simulation of the one by the other over every sequence of calls.
-/

namespace Terrascope

open SlotMap Simulation

/-! ## The map -/

/-- **An update of a neighbour.** -/
structure NeighborUpdate where
  rssi : Int16
  snr : Int8
  /-- The uptime in seconds. -/
  time : ℕ
  ttl : UInt8
  /-- `routing_ttl` when it came. -/
  routingTtl : UInt8

/-- **The updates of a neighbour since it came into the map**, latest
first. -/
structure NeighborHistory where
  last : NeighborUpdate
  earlier : List NeighborUpdate

namespace NeighborHistory

/-- All of them. -/
def updates (h : NeighborHistory) : List NeighborUpdate := h.last :: h.earlier

/-- One more. -/
def add (h : NeighborHistory) (u : NeighborUpdate) : NeighborHistory := ⟨u, h.updates⟩

/-- One of them came with the hop limit that the node itself would have
set. -/
def Direct (h : NeighborHistory) : Prop := ∃ u ∈ h.updates, u.ttl = u.routingTtl

/-- The last of them is at least `maxAge` seconds old. -/
def stale (now maxAge : ℕ) (h : NeighborHistory) : Bool := decide (maxAge ≤ now - h.last.time)

end NeighborHistory

/-- **The map.** -/
abbrev NeighborMap : Type := UInt16 → Option NeighborHistory

/-- How many neighbours it has. -/
noncomputable def NeighborMap.size (m : NeighborMap) : ℕ := {k | ∃ h, m k = some h}.ncard

/-- **A call of the table's interface.** -/
inductive NeighborCall where
  | init
  | update (cfg : TsConfig) (nodeId : UInt16) (rssi : Int16) (snr : Int8) (ttl : UInt8)
  | lookup (nodeId : UInt16)
  | ageSeconds (maxAge : UInt32)
  | count

/-- **What a call returns.** -/
inductive NeighborRet where
  | void
  | updated (ret : Int32)
  | looked (res : Except Int32 TsNeighbor)
  | removed (n : ℕ)
  | counted (n : ℕ)
deriving DecidableEq

/-- **An entry shows a history**: the last update, and whether one was
direct. -/
structure TsNeighbor.Shows (nb : TsNeighbor) (h : NeighborHistory) : Prop where
  rssi : nb.rssi = h.last.rssi
  snr : nb.snr = h.last.snr
  lastSeen : nb.lastSeen.toNat = h.last.time
  direct : nb.direct = true ↔ h.Direct

/-- The update that a call makes at a time. -/
def neighborUpdate (cfg : TsConfig) (now : UInt32) (rssi : Int16) (snr : Int8) (ttl : UInt8) :
    NeighborUpdate :=
  ⟨rssi, snr, now.toNat, ttl, cfg.routingTtl⟩

/-- **What a call may do to the map, and return.** -/
inductive NeighborMap.Call (m : NeighborMap) :
    UInt32 × NeighborCall → NeighborMap → NeighborRet → Prop where
  | init {now} : Call m (now, .init) (fun _ => none) .void
  | refreshed {now cfg nodeId rssi snr ttl h} (hm : m nodeId = some h) :
      Call m (now, .update cfg nodeId rssi snr ttl)
        (Function.update m nodeId (some (h.add (neighborUpdate cfg now rssi snr ttl))))
        (.updated 0)
  | inserted {now cfg nodeId rssi snr ttl} (hm : m nodeId = none)
      (hroom : m.size < TS_ROUTING_TABLE_SIZE) :
      Call m (now, .update cfg nodeId rssi snr ttl)
        (Function.update m nodeId (some ⟨neighborUpdate cfg now rssi snr ttl, []⟩))
        (.updated 0)
  /-- A full map: one that has not been heard for longest makes room. -/
  | evicted {now cfg nodeId rssi snr ttl} (hm : m nodeId = none)
      (hfull : m.size = TS_ROUTING_TABLE_SIZE) (oldest : UInt16) (h : NeighborHistory)
      (holdest : m oldest = some h)
      (hleast : ∀ k h', m k = some h' → h.last.time ≤ h'.last.time) :
      Call m (now, .update cfg nodeId rssi snr ttl)
        (Function.update (Function.update m oldest none) nodeId
          (some ⟨neighborUpdate cfg now rssi snr ttl, []⟩))
        (.updated 0)
  | found {now nodeId h nb} (hm : m nodeId = some h) (hid : nb.nodeId = nodeId)
      (hshows : nb.Shows h) : Call m (now, .lookup nodeId) m (.looked (.ok nb))
  | absent {now nodeId} (hm : m nodeId = none) :
      Call m (now, .lookup nodeId) m (.looked (.error (-Errno.ENOENT)))
  | aged {now maxAge} :
      Call m (now, .ageSeconds maxAge)
        (fun k => (m k).filter (fun h => !h.stale now.toNat maxAge.toNat))
        (.removed {k | ∃ h, m k = some h ∧ h.stale now.toNat maxAge.toNat = true}.ncard)
  | counted {now} : Call m (now, .count) m (.counted m.size)

/-- **A call of the table**, at an uptime. -/
def neighborCall (table : NeighborTable) : UInt32 × NeighborCall → NeighborTable × NeighborRet
  | (_, .init) => (tsRoutingTableInit, .void)
  | (now, .update cfg nodeId rssi snr ttl) =>
    let (table, ret) := tsRoutingTableUpdate cfg now table nodeId rssi snr ttl
    (table, .updated ret)
  | (_, .lookup nodeId) => (table, .looked (tsRoutingTableLookup table nodeId))
  | (now, .ageSeconds maxAge) =>
    let (table, removed) := tsRoutingTableAgeSeconds now maxAge table
    (table, .removed removed)
  | (_, .count) => (table, .counted (tsRoutingTableCount table))

/-! ## The simulation -/

/-- **The table stands for the map.** -/
abbrev StandsFor (table : NeighborTable) (m : NeighborMap) : Prop :=
  Represents TsNeighbor.occupied TsNeighbor.nodeId TsNeighbor.Shows table m

section Calls

variable {table : NeighborTable} {m : NeighborMap}

/-- The empty table stands for the empty map. -/
theorem standsFor_init : StandsFor tsRoutingTableInit (fun _ => none) :=
  represents_empty (fun _ => rfl)

/-- The number of entries is the size of the map. -/
theorem StandsFor.count_eq_size (h : StandsFor table m) : tsRoutingTableCount table = m.size := by
  have hcount := Represents.countP_eq_ncard h (p := fun _ => true) (q := fun _ => True)
    (fun _ _ _ _ => iff_of_true rfl trivial)
  simp only [Bool.and_true, and_true] at hcount
  exact hcount

/-- A free entry means that the map is not full. -/
theorem StandsFor.size_lt (h : StandsFor table m) {i : Fin TS_ROUTING_TABLE_SIZE}
    (hi : (table i).occupied = false) : m.size < TS_ROUTING_TABLE_SIZE := by
  rw [← h.count_eq_size, tsRoutingTableCount]
  refine lt_of_le_of_ne (List.countP_le_length.trans_eq (List.length_finRange)) (fun heq => ?_)
  have hall := List.countP_eq_length.mp (heq.trans List.length_finRange.symm)
  rw [hall i (List.mem_finRange i)] at hi
  cases hi

/-- A table without a free entry is full. -/
theorem StandsFor.size_eq (h : StandsFor table m) (hfull : ∀ i, (table i).occupied = true) :
    m.size = TS_ROUTING_TABLE_SIZE := by
  rw [← h.count_eq_size, tsRoutingTableCount]
  exact (List.countP_eq_length.mpr (fun i _ => hfull i)).trans List.length_finRange

/-- A refreshed entry shows one update more. -/
theorem TsNeighbor.Shows.refresh {nb : TsNeighbor} {h : NeighborHistory} (hs : nb.Shows h)
    (cfg : TsConfig) (now : UInt32) (rssi : Int16) (snr : Int8) (ttl : UInt8) :
    (nb.refresh cfg now rssi snr ttl).Shows (h.add (neighborUpdate cfg now rssi snr ttl)) where
  rssi := rfl
  snr := rfl
  lastSeen := rfl
  direct := by
    have hflag : (nb.refresh cfg now rssi snr ttl).direct = true
        ↔ nb.direct = true ∨ ttl = cfg.routingTtl := by
      simp [TsNeighbor.refresh]
    rw [hflag, hs.direct]
    simp [NeighborHistory.Direct, NeighborHistory.add, NeighborHistory.updates, neighborUpdate,
      or_comm]

/-- A new entry shows the one update there is. -/
theorem shows_newNeighbor (cfg : TsConfig) (now : UInt32) (nodeId : UInt16) (rssi : Int16)
    (snr : Int8) (ttl : UInt8) :
    (newNeighbor cfg now nodeId rssi snr ttl).Shows
      ⟨neighborUpdate cfg now rssi snr ttl, []⟩ where
  rssi := rfl
  snr := rfl
  lastSeen := rfl
  direct := by
    simp [newNeighbor, NeighborHistory.Direct, NeighborHistory.updates, neighborUpdate]

/-- **An update of the table is one of the map.** -/
theorem StandsFor.update (h : StandsFor table m) (cfg : TsConfig) (now : UInt32)
    (nodeId : UInt16) (rssi : Int16) (snr : Int8) (ttl : UInt8) :
    ∃ m', m.Call (now, .update cfg nodeId rssi snr ttl) m'
        (.updated (tsRoutingTableUpdate cfg now table nodeId rssi snr ttl).2)
      ∧ StandsFor (tsRoutingTableUpdate cfg now table nodeId rssi snr ttl).1 m' := by
  rcases tsRoutingTableUpdate_cases cfg now table nodeId rssi snr ttl with
    ⟨i, hocc, hid, heq⟩ | ⟨hnone, i, heq, hslot⟩
  · obtain ⟨hist, hm, hshows⟩ := h.value hocc hid
    rw [heq]
    refine ⟨_, .refreshed hm, ?_⟩
    have hother : ∀ j, j ≠ i → (table j).occupied = true → (table j).nodeId ≠ nodeId :=
      fun j hji hj hsame => hji (h.unique j i hj hocc (hsame.trans hid.symm))
    have hwrite := h.write (x := (table i).refresh cfg now rssi snr ttl) hocc hid
      (hshows.refresh cfg now rssi snr ttl) hother
    rwa [update_forget_self hid] at hwrite
  · have hm : m nodeId = none := h.eq_none hnone
    have hwrite := h.write (i := i) (x := newNeighbor cfg now nodeId rssi snr ttl) rfl rfl
      (shows_newNeighbor cfg now nodeId rssi snr ttl) (fun j _ hj => hnone j hj)
    rw [heq]
    rcases hslot with hfree | ⟨hfull, holdest⟩
    · rw [forget_of_free hfree] at hwrite
      exact ⟨_, .inserted hm (h.size_lt hfree), hwrite⟩
    · obtain ⟨hist, hold, hshows⟩ := h.sound i (hfull i)
      rw [forget, if_pos (hfull i)] at hwrite
      refine ⟨_, .evicted hm (h.size_eq hfull) _ hist hold ?_, hwrite⟩
      intro k hist' hk
      obtain ⟨j, hj, hjk⟩ := h.complete k hist' hk
      obtain ⟨hist'', hk', hshows'⟩ := h.value hj hjk
      cases hk.symm.trans hk'
      rw [← hshows.lastSeen, ← hshows'.lastSeen]
      exact (findOldest_eq_some holdest).2 j hj

/-- **A look into the table is one into the map.** -/
theorem StandsFor.lookup (h : StandsFor table m) (now : UInt32) (nodeId : UInt16) :
    m.Call (now, .lookup nodeId) m (.looked (tsRoutingTableLookup table nodeId)) := by
  unfold tsRoutingTableLookup
  cases hfind : findByNodeId table nodeId with
  | none => exact .absent (h.eq_none (findByNodeId_eq_none hfind))
  | some i =>
    obtain ⟨hocc, hid⟩ := findByNodeId_eq_some hfind
    obtain ⟨hist, hm, hshows⟩ := h.value hocc hid
    exact .found hm hid hshows

/-- **Ages do not wrap** while no stamp lies ahead of the clock. -/
theorem stale_iff {nb : TsNeighbor} {hist : NeighborHistory} (hs : nb.Shows hist)
    {now : UInt32} (hpast : hist.last.time ≤ now.toNat) (maxAge : UInt32) :
    now - nb.lastSeen ≥ maxAge ↔ hist.stale now.toNat maxAge.toNat = true := by
  have hle : nb.lastSeen ≤ now := UInt32.le_iff_toNat_le.mpr (hs.lastSeen.trans_le hpast)
  unfold NeighborHistory.stale
  rw [ge_iff_le, UInt32.le_iff_toNat_le, UInt32.toNat_sub_of_le _ _ hle, hs.lastSeen,
    decide_eq_true_iff]

/-- **Aging the table ages the map.** -/
theorem StandsFor.age (h : StandsFor table m) {now : UInt32} (maxAge : UInt32)
    (hpast : ∀ k hist, m k = some hist → hist.last.time ≤ now.toNat) :
    ∃ m', m.Call (now, .ageSeconds maxAge) m'
        (.removed (tsRoutingTableAgeSeconds now maxAge table).2)
      ∧ StandsFor (tsRoutingTableAgeSeconds now maxAge table).1 m' := by
  have hiff : ∀ i hist, (table i).occupied = true → (table i).Shows hist →
      (decide (now - (table i).lastSeen ≥ maxAge) = true
        ↔ hist.stale now.toNat maxAge.toNat = true) := by
    intro i hist hocc hshows
    obtain ⟨hist', hm, hshows'⟩ := h.sound i hocc
    have hlast := hpast _ _ hm
    rw [← hshows'.lastSeen, hshows.lastSeen] at hlast
    rw [decide_eq_true_iff]
    exact stale_iff hshows hlast maxAge
  have hcount := Represents.countP_eq_ncard h
    (p := fun nb => decide (now - nb.lastSeen ≥ maxAge)) hiff
  unfold tsRoutingTableAgeSeconds
  dsimp only
  rw [hcount]
  refine ⟨_, .aged, Represents.free h (fun i hfree => ?_) (fun i hist hocc hshows => ?_)⟩
  · split
    · rfl
    · exact hfree
  · have hstale := hiff i hist hocc hshows
    split
    · next hq => simp only [hocc, hstale.mpr hq, Bool.and_self, if_true]
    · next hq =>
      have hkeep := Bool.eq_false_iff.mpr (mt hstale.mp hq)
      simp only [hkeep, Bool.and_false, Bool.false_eq_true, if_false]

end Calls

/-- **What a simulation of the remaining calls rests on**: the table stands
for the map, the clock does not go back, and it is past every update. -/
structure TableSim (calls : List (UInt32 × NeighborCall)) (table : NeighborTable)
    (m : NeighborMap) : Prop where
  stands : StandsFor table m
  clock : calls.Pairwise (fun c c' => c.1 ≤ c'.1)
  past : ∀ k hist, m k = some hist → ∀ c ∈ calls, hist.last.time ≤ c.1.toNat

/-- What is in the map after a call was there before, or is the update the
call made. -/
theorem NeighborMap.Call.last_time {m m' : NeighborMap} {c : UInt32 × NeighborCall}
    {ret : NeighborRet} (h : m.Call c m' ret) {k : UInt16} {hist : NeighborHistory}
    (hk : m' k = some hist) : m k = some hist ∨ hist.last.time = c.1.toNat := by
  -- the two ways of changing the map at one key
  have hput : ∀ (m : NeighborMap) (k' : UInt16) (hist' : NeighborHistory),
      Function.update m k' (some hist') k = some hist → m k = some hist ∨ hist' = hist := by
    intro m k' hist' hput
    by_cases hkk : k = k'
    · rw [hkk, Function.update_self] at hput
      exact Or.inr (Option.some.inj hput)
    · rw [Function.update_of_ne hkk] at hput
      exact Or.inl hput
  cases h with
  | init => cases hk
  | refreshed | inserted =>
    rcases hput _ _ _ hk with hk | rfl
    · exact Or.inl hk
    · exact Or.inr rfl
  | evicted hm hfull oldest h holdest hleast =>
    rcases hput _ _ _ hk with hk | rfl
    · by_cases hko : k = oldest
      · rw [hko, Function.update_self] at hk
        cases hk
      · rw [Function.update_of_ne hko] at hk
        exact Or.inl hk
    · exact Or.inr rfl
  | found | absent | counted => exact Or.inl hk
  | aged => exact Or.inl (Option.filter_eq_some_iff.mp hk).1

/-- **Each call of the table is a call of the map.** -/
theorem TableSim.call {table : NeighborTable} {m : NeighborMap} {c : UInt32 × NeighborCall}
    {calls : List (UInt32 × NeighborCall)} (h : TableSim (c :: calls) table m) :
    ∃ m', m.Call c m' (neighborCall table c).2 ∧ TableSim calls (neighborCall table c).1 m' := by
  have hcall : ∃ m', m.Call c m' (neighborCall table c).2
      ∧ StandsFor (neighborCall table c).1 m' := by
    obtain ⟨now, call⟩ := c
    cases call with
    | init => exact ⟨_, .init, standsFor_init⟩
    | update cfg nodeId rssi snr ttl => exact h.stands.update cfg now nodeId rssi snr ttl
    | lookup nodeId => exact ⟨m, h.stands.lookup now nodeId, h.stands⟩
    | ageSeconds maxAge =>
      exact h.stands.age maxAge (fun k hist hk => h.past k hist hk _ List.mem_cons_self)
    | count =>
      refine ⟨m, ?_, h.stands⟩
      simp only [neighborCall, h.stands.count_eq_size]
      exact .counted
  obtain ⟨m', hm', hstands⟩ := hcall
  obtain ⟨hclock, hrest⟩ := List.pairwise_cons.mp h.clock
  refine ⟨m', hm', hstands, hrest, fun k hist hk c' hc' => ?_⟩
  rcases hm'.last_time hk with hold | hnew
  · exact h.past k hist hold c' (List.mem_cons_of_mem _ hc')
  · exact hnew.trans_le (UInt32.le_iff_toNat_le.mp (hclock c' hc'))

/-- **The neighbour table implements a 16-entry map.** Over every sequence of
calls, with a clock that does not go back and any changes of the
configuration between them, what the table returns is what the map may
return, the table stands for the map, and no node id is in two entries. -/
theorem neighborTable_implements_map (calls : List (UInt32 × NeighborCall))
    (hclock : calls.Pairwise (fun c c' => c.1 ≤ c'.1)) :
    let r := exec neighborCall tsRoutingTableInit calls
    ∃ m, Admits NeighborMap.Call (fun _ => none) calls m r.2 ∧ StandsFor r.1 m
      ∧ ∀ i j, (r.1 i).occupied = true → (r.1 j).occupied = true →
        (r.1 i).nodeId = (r.1 j).nodeId → i = j := by
  have hstart : TableSim calls tsRoutingTableInit (fun _ => none) :=
    ⟨standsFor_init, hclock, fun _ _ hk => nomatch hk⟩
  obtain ⟨m, hadmits, hlast⟩ := exec_simulates (fun _ _ _ _ h => h.call) hstart
  exact ⟨m, hadmits, hlast.stands, hlast.stands.unique⟩

/-- Seventeen neighbours heard in turn, the first of them once more, and the
old ones aged out. -/
def seventeenHeard : List (UInt32 × NeighborCall) :=
  let cfg := tsConfigGet tsConfigDefaults
  (List.range 17).map
      (fun i => (UInt32.ofNat (10 * i), .update cfg (UInt16.ofNat (2 + i)) (-75) 8 5))
    ++ [(200, .update cfg 2 (-90) 3 1), (200, .count), (300, .ageSeconds 240), (300, .lookup 2),
      (300, .lookup 3)]

/-- Node 3 makes room for node 2 there, which comes back without having been
heard directly again. -/
theorem neighborTable_implements_map_seventeenHeard :
    let r := exec neighborCall tsRoutingTableInit seventeenHeard
    r.2.drop 17 = [.updated 0, .counted 16, .removed 5,
        .looked (.ok ⟨2, -90, 3, false, 200, true⟩), .looked (.error (-Errno.ENOENT))]
      ∧ ∃ m, Admits NeighborMap.Call (fun _ => none) seventeenHeard m r.2 ∧ StandsFor r.1 m
        ∧ ∀ i j, (r.1 i).occupied = true → (r.1 j).occupied = true →
          (r.1 i).nodeId = (r.1 j).nodeId → i = j :=
  ⟨by decide +kernel, neighborTable_implements_map seventeenHeard (by decide)⟩

end Terrascope
