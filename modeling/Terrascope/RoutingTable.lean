import Terrascope.Config
import Terrascope.SlotArray

/-!
# The neighbour table

`routing_table.c`: 16 entries found by node id, refreshed by every accepted
frame and aged out by a timer. Each call holds the table mutex from its
first look at the table to its last, so it is one step; the clock is read
before.
-/

namespace Terrascope

open SlotArray

/-- `TS_ROUTING_TABLE_SIZE`. -/
abbrev TS_ROUTING_TABLE_SIZE : ℕ := 16

/-- `struct ts_neighbor`. -/
structure TsNeighbor where
  nodeId : UInt16
  rssi : Int16
  snr : Int8
  direct : Bool
  lastSeen : UInt32
  occupied : Bool
deriving DecidableEq, Repr

/-- `table`. -/
abbrev NeighborTable : Type := Fin TS_ROUTING_TABLE_SIZE → TsNeighbor

/-- `ts_routing_table_init`. -/
def tsRoutingTableInit : NeighborTable := fun _ => ⟨0, 0, 0, false, 0, false⟩

/-- `find_by_node_id`. -/
def findByNodeId (table : NeighborTable) (nodeId : UInt16) : Option (Fin TS_ROUTING_TABLE_SIZE) :=
  findSlot (fun i => (table i).occupied && (table i).nodeId == nodeId)

/-- `find_free_slot`. -/
def findFreeEntry (table : NeighborTable) : Option (Fin TS_ROUTING_TABLE_SIZE) :=
  findSlot (fun i => !(table i).occupied)

/-- `find_oldest`: the first occupied entry with the smallest stamp. -/
def findOldest (table : NeighborTable) : Option (Fin TS_ROUTING_TABLE_SIZE) :=
  (List.finRange TS_ROUTING_TABLE_SIZE).foldl
    (fun oldest i =>
      if (table i).occupied then
        match oldest with
        | none => some i
        | some o => if (table i).lastSeen < (table o).lastSeen then some i else some o
      else oldest)
    none

/-- `ts_routing_table_update`; `now` is the uptime in seconds. -/
def tsRoutingTableUpdate (cfg : TsConfig) (now : UInt32) (table : NeighborTable)
    (nodeId : UInt16) (rssi : Int16) (snr : Int8) (ttl : UInt8) : NeighborTable × Int32 :=
  let isDirect := ttl == cfg.routingTtl
  match findByNodeId table nodeId with
  | some i =>
    (Function.update table i
      { table i with
        rssi := rssi
        snr := snr
        lastSeen := now
        direct := (table i).direct || isDirect }, 0)
  | none =>
    match (findFreeEntry table).or (findOldest table) with
    | none => (table, -Errno.ENOSPC)
    | some i =>
      (Function.update table i
        { nodeId := nodeId, rssi := rssi, snr := snr, direct := isDirect, lastSeen := now,
          occupied := true }, 0)

/-- `ts_routing_table_lookup`: a copy of the entry, or the error. -/
def tsRoutingTableLookup (table : NeighborTable) (nodeId : UInt16) : Except Int32 TsNeighbor :=
  match findByNodeId table nodeId with
  | none => .error (-Errno.ENOENT)
  | some i => .ok (table i)

/-- `ts_routing_table_age_seconds`: entries not refreshed for `maxAge`
seconds are freed; the stamps are subtracted modulo 2^32. -/
def tsRoutingTableAgeSeconds (now maxAge : UInt32) (table : NeighborTable) :
    NeighborTable × ℕ :=
  let stale : Fin TS_ROUTING_TABLE_SIZE → Bool :=
    fun i => (table i).occupied && decide (now - (table i).lastSeen ≥ maxAge)
  (fun i => if stale i then { table i with occupied := false } else table i,
    (List.finRange TS_ROUTING_TABLE_SIZE).countP stale)

/-- `ts_routing_table_count`. -/
def tsRoutingTableCount (table : NeighborTable) : ℕ :=
  (List.finRange TS_ROUTING_TABLE_SIZE).countP (fun i => (table i).occupied)

/-! ## What the searches find -/

section Search

variable {table : NeighborTable}

/-- The entry found is in use and has the id. -/
theorem findByNodeId_eq_some {nodeId : UInt16} {i : Fin TS_ROUTING_TABLE_SIZE}
    (h : findByNodeId table nodeId = some i) :
    (table i).occupied = true ∧ (table i).nodeId = nodeId := by
  have hi := Bool.and_eq_true_iff.mp (findSlot_spec h)
  exact ⟨hi.1, eq_of_beq hi.2⟩

/-- No entry in use has the id. -/
theorem findByNodeId_eq_none {nodeId : UInt16} (h : findByNodeId table nodeId = none)
    (i : Fin TS_ROUTING_TABLE_SIZE) (hi : (table i).occupied = true) :
    (table i).nodeId ≠ nodeId := by
  rintro rfl
  have hmiss := findSlot_eq_none.mp h i
  simp only [hi, beq_self_eq_true, Bool.and_self] at hmiss
  cases hmiss

/-- `find_oldest` looks for the least stamp among the entries in use. -/
theorem findOldest_eq_argmin (table : NeighborTable) :
    findOldest table = ((List.finRange TS_ROUTING_TABLE_SIZE).filter
      (fun i => (table i).occupied)).argmin (fun i => (table i).lastSeen.toNat) := by
  have hlt : ∀ i j, (table i).lastSeen < (table j).lastSeen
      ↔ (table i).lastSeen.toNat < (table j).lastSeen.toNat :=
    fun _ _ => UInt32.lt_iff_toNat_lt
  rw [← foldl_argminStep_eq_argmin hlt]
  unfold findOldest
  refine congrArg (fun f => List.foldl f none _) (funext fun best => funext fun i => ?_)
  cases best <;> rfl

/-- **The entry to evict** is in use and has the least stamp. -/
theorem findOldest_eq_some {i : Fin TS_ROUTING_TABLE_SIZE} (h : findOldest table = some i) :
    (table i).occupied = true
      ∧ ∀ j, (table j).occupied = true → (table i).lastSeen.toNat ≤ (table j).lastSeen.toNat := by
  rw [findOldest_eq_argmin] at h
  refine ⟨(List.mem_filter.mp (List.argmin_mem h)).2, fun j hj => ?_⟩
  have hle := List.le_of_mem_argmin (List.mem_filter.mpr ⟨List.mem_finRange j, hj⟩) h
  exact hle

/-- **Of several with the least stamp it is the first.** -/
theorem findOldest_first {i j : Fin TS_ROUTING_TABLE_SIZE} (h : findOldest table = some i)
    (hj : (table j).occupied = true) (hij : i ≠ j) :
    (table i).lastSeen < (table j).lastSeen
      ∨ (table i).lastSeen = (table j).lastSeen ∧ i < j := by
  rw [findOldest_eq_argmin] at h
  rcases lt_or_lt_of_mem_argmin_filter h hj hij with hlt | ⟨heq, hlt⟩
  · exact Or.inl (UInt32.lt_iff_toNat_lt.mpr hlt)
  · exact Or.inr ⟨UInt32.toNat_inj.mp heq, hlt⟩

/-- **There is always an entry to take**: a free one, or else one to evict. -/
theorem findOldest_isSome (h : findFreeEntry table = none) : ∃ i, findOldest table = some i := by
  cases hold : findOldest table with
  | some i => exact ⟨i, rfl⟩
  | none =>
    rw [findOldest_eq_argmin, List.argmin_eq_none, List.filter_eq_nil_iff] at hold
    obtain ⟨i⟩ : Nonempty (Fin TS_ROUTING_TABLE_SIZE) := ⟨⟨1, by decide⟩⟩
    have hfree := findSlot_eq_none.mp h i
    rw [Bool.not_eq_false'] at hfree
    exact absurd hfree (hold i (List.mem_finRange i))

end Search

/-! ## What an update does -/

/-- The entry an update makes for a node that has none. -/
def newNeighbor (cfg : TsConfig) (now : UInt32) (nodeId : UInt16) (rssi : Int16) (snr : Int8)
    (ttl : UInt8) : TsNeighbor :=
  { nodeId := nodeId, rssi := rssi, snr := snr, direct := ttl == cfg.routingTtl,
    lastSeen := now, occupied := true }

/-- The entry an update makes of one there is. -/
def TsNeighbor.refresh (nb : TsNeighbor) (cfg : TsConfig) (now : UInt32) (rssi : Int16)
    (snr : Int8) (ttl : UInt8) : TsNeighbor :=
  { nb with
    rssi := rssi
    snr := snr
    lastSeen := now
    direct := nb.direct || (ttl == cfg.routingTtl) }

/-- **An update, case by case**: an entry is refreshed, a free one is filled,
or the oldest of a full table is overwritten. It never fails. -/
theorem tsRoutingTableUpdate_cases (cfg : TsConfig) (now : UInt32) (table : NeighborTable)
    (nodeId : UInt16) (rssi : Int16) (snr : Int8) (ttl : UInt8) :
    (∃ i, (table i).occupied = true ∧ (table i).nodeId = nodeId
      ∧ tsRoutingTableUpdate cfg now table nodeId rssi snr ttl
        = (Function.update table i ((table i).refresh cfg now rssi snr ttl), 0))
    ∨ (∀ i, (table i).occupied = true → (table i).nodeId ≠ nodeId)
      ∧ ∃ i, tsRoutingTableUpdate cfg now table nodeId rssi snr ttl
          = (Function.update table i (newNeighbor cfg now nodeId rssi snr ttl), 0)
        ∧ ((table i).occupied = false
          ∨ (∀ j, (table j).occupied = true) ∧ findOldest table = some i) := by
  unfold tsRoutingTableUpdate
  cases hfind : findByNodeId table nodeId with
  | some i =>
    obtain ⟨hocc, hid⟩ := findByNodeId_eq_some hfind
    exact Or.inl ⟨i, hocc, hid, rfl⟩
  | none =>
    refine Or.inr ⟨findByNodeId_eq_none hfind, ?_⟩
    cases hfree : findFreeEntry table with
    | some i =>
      have hocc : (table i).occupied = false := by simpa using findSlot_spec hfree
      exact ⟨i, rfl, Or.inl hocc⟩
    | none =>
      have hfull : ∀ j, (table j).occupied = true :=
        fun j => by simpa using findSlot_eq_none.mp hfree j
      obtain ⟨i, hi⟩ := findOldest_isSome hfree
      rw [hi]
      exact ⟨i, rfl, Or.inr ⟨hfull, rfl⟩⟩

/-- **An entry that aging leaves in use** is as it was. -/
theorem eq_of_aged {now maxAge : UInt32} {table : NeighborTable} {i : Fin TS_ROUTING_TABLE_SIZE}
    (h : ((tsRoutingTableAgeSeconds now maxAge table).1 i).occupied = true) :
    (tsRoutingTableAgeSeconds now maxAge table).1 i = table i := by
  unfold tsRoutingTableAgeSeconds at h ⊢
  dsimp only at h ⊢
  split at h
  · cases h
  · next hstale => exact if_neg hstale

/-- **Aging frees an entry** whose age, modulo `2^32`, is the limit or more. -/
theorem aged_eq_false_iff {now maxAge : UInt32} {table : NeighborTable}
    {i : Fin TS_ROUTING_TABLE_SIZE} (h : (table i).occupied = true) :
    ((tsRoutingTableAgeSeconds now maxAge table).1 i).occupied = false
      ↔ maxAge ≤ now - (table i).lastSeen := by
  unfold tsRoutingTableAgeSeconds
  simp only [h, Bool.true_and, decide_eq_true_eq]
  split
  · next hstale => exact iff_of_true rfl hstale
  · next hstale => exact iff_of_false (by rw [h]; nofun) hstale

/-! ## Entries and their ids -/

/-- **No id is in two entries.** -/
def UniqueIds (table : NeighborTable) : Prop :=
  ∀ i j, (table i).occupied = true → (table j).occupied = true →
    (table i).nodeId = (table j).nodeId → i = j

theorem uniqueIds_init : UniqueIds tsRoutingTableInit := fun _ _ hi _ _ => nomatch hi

/-- A look into the table finds an entry in use. -/
theorem lookup_eq_ok {table : NeighborTable} {nodeId : UInt16} {nb : TsNeighbor}
    (h : tsRoutingTableLookup table nodeId = .ok nb) :
    ∃ i, (table i).occupied = true ∧ (table i).nodeId = nodeId ∧ table i = nb := by
  unfold tsRoutingTableLookup at h
  split at h
  · cases h
  · next i hfind =>
    obtain ⟨hocc, hid⟩ := findByNodeId_eq_some hfind
    exact ⟨i, hocc, hid, Except.ok.inj h⟩

/-- **An entry in use is found** under its id, if no other has it. -/
theorem UniqueIds.lookup {table : NeighborTable} (h : UniqueIds table)
    {i : Fin TS_ROUTING_TABLE_SIZE} (hi : (table i).occupied = true) :
    tsRoutingTableLookup table (table i).nodeId = .ok (table i) := by
  unfold tsRoutingTableLookup
  split
  · next hfind => exact absurd rfl (findByNodeId_eq_none hfind i hi)
  · next j hfind =>
    obtain ⟨hj, hid⟩ := findByNodeId_eq_some hfind
    rw [h j i hj hi hid]

/-- Aging makes no new entry. -/
theorem UniqueIds.age {table : NeighborTable} (h : UniqueIds table) (now maxAge : UInt32) :
    UniqueIds (tsRoutingTableAgeSeconds now maxAge table).1 := by
  intro i j hi hj hid
  rw [eq_of_aged hi, eq_of_aged hj] at hid
  rw [eq_of_aged hi] at hi
  rw [eq_of_aged hj] at hj
  exact h i j hi hj hid

section Update

variable {cfg : TsConfig} {now : UInt32} {table : NeighborTable} {nodeId : UInt16}
  {rssi : Int16} {snr : Int8} {ttl : UInt8}

/-- **An update writes one entry**: the node's, with the time. It is marked
direct if the message came with the full TTL or if it was before. -/
theorem tsRoutingTableUpdate_write (cfg : TsConfig) (now : UInt32) (table : NeighborTable)
    (nodeId : UInt16) (rssi : Int16) (snr : Int8) (ttl : UInt8) : ∃ i nb,
    tsRoutingTableUpdate cfg now table nodeId rssi snr ttl = (Function.update table i nb, 0)
      ∧ nb.occupied = true ∧ nb.nodeId = nodeId ∧ nb.lastSeen = now
      ∧ (nb.direct = true ↔ ttl = cfg.routingTtl
        ∨ (table i).occupied = true ∧ (table i).nodeId = nodeId ∧ (table i).direct = true)
      ∧ (UniqueIds table →
        ∀ j, j ≠ i → (table j).occupied = true → (table j).nodeId ≠ nodeId) := by
  rcases tsRoutingTableUpdate_cases cfg now table nodeId rssi snr ttl with
    ⟨i, hocc, hid, heq⟩ | ⟨hnone, i, heq, -⟩
  · refine ⟨i, _, heq, hocc, hid, rfl, ?_,
      fun h j hji hj hsame => hji (h j i hj hocc (hsame.trans hid.symm))⟩
    simp [TsNeighbor.refresh, hocc, hid, or_comm]
  · refine ⟨i, _, heq, rfl, rfl, rfl, ?_, fun _ j _ hj => hnone j hj⟩
    have hother : ¬ ((table i).occupied = true ∧ (table i).nodeId = nodeId
        ∧ (table i).direct = true) := fun h => hnone i h.1 h.2.1
    rw [or_iff_left hother]
    exact beq_iff_eq

/-- **An entry after an update** was there before, or is the node's. That one
is marked direct if the message came with the full TTL or if it was
before. -/
theorem entry_of_update (j : Fin TS_ROUTING_TABLE_SIZE) :
    let new := (tsRoutingTableUpdate cfg now table nodeId rssi snr ttl).1
    new j = table j
      ∨ (new j).nodeId = nodeId ∧ ((new j).direct = true → ttl = cfg.routingTtl
        ∨ (table j).occupied = true ∧ (table j).nodeId = nodeId ∧ (table j).direct = true) := by
  obtain ⟨i, nb, heq, -, hid, -, hdirect, -⟩ :=
    tsRoutingTableUpdate_write cfg now table nodeId rssi snr ttl
  rw [heq]
  dsimp only
  by_cases hji : j = i
  · subst hji
    rw [Function.update_self]
    exact Or.inr ⟨hid, hdirect.mp⟩
  · exact Or.inl (Function.update_of_ne hji _ _)

/-- **An update stamps the entry it writes**, and leaves the others alone. -/
theorem lastSeen_of_update (j : Fin TS_ROUTING_TABLE_SIZE) :
    let new := (tsRoutingTableUpdate cfg now table nodeId rssi snr ttl).1
    new j = table j ∨ (new j).lastSeen = now := by
  obtain ⟨i, nb, heq, -, -, hnow, -⟩ :=
    tsRoutingTableUpdate_write cfg now table nodeId rssi snr ttl
  rw [heq]
  dsimp only
  by_cases hji : j = i
  · subst hji
    rw [Function.update_self]
    exact Or.inr hnow
  · exact Or.inl (Function.update_of_ne hji _ _)

/-- **The node has an entry after an update**, marked direct if the message
came with the full TTL. -/
theorem exists_entry_of_update (cfg : TsConfig) (now : UInt32) (table : NeighborTable)
    (nodeId : UInt16) (rssi : Int16) (snr : Int8) (ttl : UInt8) : ∃ i,
    let nb := (tsRoutingTableUpdate cfg now table nodeId rssi snr ttl).1 i
    nb.occupied = true ∧ nb.nodeId = nodeId ∧ (ttl = cfg.routingTtl → nb.direct = true) := by
  obtain ⟨i, nb, heq, hocc, hid, -, hdirect, -⟩ :=
    tsRoutingTableUpdate_write cfg now table nodeId rssi snr ttl
  refine ⟨i, ?_⟩
  rw [heq]
  dsimp only
  rw [Function.update_self]
  exact ⟨hocc, hid, fun httl => hdirect.mpr (Or.inl httl)⟩

/-- An entry is written under an id that no other entry has. -/
theorem UniqueIds.write (h : UniqueIds table) {i : Fin TS_ROUTING_TABLE_SIZE} {nb : TsNeighbor}
    (hother : ∀ j, j ≠ i → (table j).occupied = true → (table j).nodeId ≠ nb.nodeId) :
    UniqueIds (Function.update table i nb) := by
  intro j k hj hk hid
  by_cases hji : j = i
  · by_cases hki : k = i
    · rw [hji, hki]
    · rw [Function.update_of_ne hki] at hk hid
      rw [hji, Function.update_self] at hid
      exact absurd hid.symm (hother k hki hk)
  · rw [Function.update_of_ne hji] at hj hid
    by_cases hki : k = i
    · rw [hki, Function.update_self] at hid
      exact absurd hid (hother j hji hj)
    · rw [Function.update_of_ne hki] at hk hid
      exact h j k hj hk hid

/-- An update makes no second entry for an id. -/
theorem UniqueIds.update (h : UniqueIds table) :
    UniqueIds (tsRoutingTableUpdate cfg now table nodeId rssi snr ttl).1 := by
  obtain ⟨i, nb, heq, -, rfl, -, -, hother⟩ :=
    tsRoutingTableUpdate_write cfg now table nodeId rssi snr ttl
  rw [heq]
  exact h.write (hother h)

end Update

end Terrascope
