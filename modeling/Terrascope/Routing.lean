import Terrascope.Config
import Terrascope.RingWindow
import Terrascope.SlotArray

/-!
# Routing headers and the duplicate cache

`routing.c`. The cache is a ring of 32 `(src, msg_id)` pairs with a write
index and a separate 32-bit count of the entries written, which bounds the
scan while the ring fills and wraps without being looked at again.

Two readings of the cache serve different ends. `SeenHistory` ties it to
everything ever marked, and as long as the count has not wrapped the scan
finds exactly the last 32 of it (`tsRoutingIsDuplicate_iff_mem_take`).
`CacheShape` needs no bound: it says what one `ts_routing_mark_seen` does to
the set of recognised pairs, the wrap of the count included
(`recognised_markSeen`).
-/

namespace Terrascope

open RingWindow SlotArray

/-- `TS_ROUTING_BROADCAST_ADDR`. -/
def TS_ROUTING_BROADCAST_ADDR : UInt16 := 0xFFFF

/-- `TS_ROUTING_SEEN_CACHE_SIZE`. -/
abbrev TS_ROUTING_SEEN_CACHE_SIZE : ℕ := 32

/-- The module's static variables. The write index never leaves the array. -/
structure RoutingState where
  selfNodeId : UInt16
  nextMsgId : UInt32
  seenCache : Fin TS_ROUTING_SEEN_CACHE_SIZE → UInt16 × UInt32
  seenWriteIdx : Fin TS_ROUTING_SEEN_CACHE_SIZE
  seenCount : UInt32

/-- `ts_routing_init`. -/
def tsRoutingInit (nodeId : UInt16) : RoutingState where
  selfNodeId := nodeId
  nextMsgId := 0
  seenCache := fun _ => (0, 0)
  seenWriteIdx := 0
  seenCount := 0

/-- `ts_routing_get_node_id`. -/
def tsRoutingGetNodeId (r : RoutingState) : UInt16 := r.selfNodeId

/-- `ts_routing_prepare_header`: every field but the key id, which is left as
it was. -/
def tsRoutingPrepareHeader (cfg : TsConfig) (r : RoutingState) (hdr : TsRouteHeader)
    (dst : UInt16) : RoutingState × TsRouteHeader :=
  ({ r with nextMsgId := r.nextMsgId + 1 },
    { hdr with src := r.selfNodeId, dst := dst, msgId := r.nextMsgId, ttl := cfg.routingTtl })

/-- `ts_routing_decrement_ttl`. -/
def tsRoutingDecrementTtl (hdr : TsRouteHeader) : TsRouteHeader × Int32 :=
  if hdr.ttl = 0 then (hdr, -Errno.EHOSTUNREACH) else ({ hdr with ttl := hdr.ttl - 1 }, 0)

/-- `ts_routing_is_for_us`. -/
def tsRoutingIsForUs (r : RoutingState) (hdr : TsRouteHeader) : Bool :=
  hdr.dst == r.selfNodeId || hdr.dst == TS_ROUTING_BROADCAST_ADDR

/-- How many cells `ts_routing_is_duplicate` looks at. -/
def RoutingState.entries (r : RoutingState) : ℕ :=
  if r.seenCount.toNat < TS_ROUTING_SEEN_CACHE_SIZE then r.seenCount.toNat
  else TS_ROUTING_SEEN_CACHE_SIZE

/-- `ts_routing_is_duplicate`. -/
def tsRoutingIsDuplicate (r : RoutingState) (hdr : TsRouteHeader) : Bool :=
  (findSlot (fun i : Fin TS_ROUTING_SEEN_CACHE_SIZE =>
    decide (i.val < r.entries) && r.seenCache i == hdr.id)).isSome

/-- `ts_routing_mark_seen`. -/
def tsRoutingMarkSeen (r : RoutingState) (hdr : TsRouteHeader) : RoutingState :=
  { r with
    seenCache := Function.update r.seenCache r.seenWriteIdx hdr.id
    seenWriteIdx := r.seenWriteIdx + 1
    seenCount := r.seenCount + 1 }

/-- **The pairs the cache recognises**: those a scan comes across. -/
def Recognised (r : RoutingState) (id : UInt16 × UInt32) : Prop :=
  ∃ i : Fin TS_ROUTING_SEEN_CACHE_SIZE, i.val < r.entries ∧ r.seenCache i = id

/-- A message is for the node if it goes to it or to all nodes. -/
theorem tsRoutingIsForUs_iff {r : RoutingState} {hdr : TsRouteHeader} :
    tsRoutingIsForUs r hdr = true
      ↔ hdr.dst = r.selfNodeId ∨ hdr.dst = TS_ROUTING_BROADCAST_ADDR := by
  rw [tsRoutingIsForUs, Bool.or_eq_true, beq_iff_eq, beq_iff_eq]

/-- **The scan finds what is recognised.** -/
theorem tsRoutingIsDuplicate_iff (r : RoutingState) (hdr : TsRouteHeader) :
    tsRoutingIsDuplicate r hdr = true ↔ Recognised r hdr.id := by
  unfold tsRoutingIsDuplicate Recognised
  constructor
  · intro h
    obtain ⟨i, hi⟩ := Option.isSome_iff_exists.mp h
    have hspec := findSlot_spec hi
    simp only [Bool.and_eq_true, decide_eq_true_eq, beq_iff_eq] at hspec
    exact ⟨i, hspec⟩
  · rintro ⟨i, hi⟩
    obtain ⟨j, hj⟩ := findSlot_isSome (n := TS_ROUTING_SEEN_CACHE_SIZE)
      (p := fun i => decide (i.val < r.entries) && r.seenCache i == hdr.id) (i := i)
      (by simpa using hi)
    rw [hj]
    rfl

theorem entries_eq_min (r : RoutingState) :
    r.entries = min r.seenCount.toNat TS_ROUTING_SEEN_CACHE_SIZE := by
  unfold RoutingState.entries
  split <;> omega

/-! ## The headers of relayed messages -/

theorem neg_ehostunreach_ne_zero : -Errno.EHOSTUNREACH ≠ 0 := by decide

/-- **A decremented header that may still travel** is the received one with
one hop less, and the received one had at least two. -/
theorem tsRoutingDecrementTtl_eq {hdr : TsRouteHeader}
    (h : (tsRoutingDecrementTtl hdr).2 = 0 ∧ 0 < (tsRoutingDecrementTtl hdr).1.ttl) :
    2 ≤ hdr.ttl.toNat ∧ (tsRoutingDecrementTtl hdr).1 = { hdr with ttl := hdr.ttl - 1 }
      ∧ (hdr.ttl - 1).toNat = hdr.ttl.toNat - 1 := by
  unfold tsRoutingDecrementTtl at h ⊢
  split at h
  · exact absurd h.1 neg_ehostunreach_ne_zero
  · next hne =>
    have hpos : 0 < hdr.ttl.toNat :=
      Nat.pos_of_ne_zero (fun h0 => hne (UInt8.toNat_inj.mp h0))
    have hsub : (hdr.ttl - 1).toNat = hdr.ttl.toNat - 1 :=
      UInt8.toNat_sub_of_le _ _ (UInt8.le_iff_toNat_le.mpr hpos)
    have hlt : 0 < (hdr.ttl - 1).toNat := UInt8.lt_iff_toNat_lt.mp h.2
    rw [if_neg hne]
    exact ⟨by omega, rfl, hsub⟩

/-! ## The cache and everything marked -/

/-- **The cache after a history of marks**, latest first. -/
structure SeenHistory (r : RoutingState) (hist : List (UInt16 × UInt32)) : Prop where
  ring : Represents r.seenCache r.seenWriteIdx hist
  count : r.seenCount.toNat = hist.length % 2 ^ 32

theorem seenHistory_init (nodeId : UInt16) : SeenHistory (tsRoutingInit nodeId) [] where
  ring := represents_nil _
  count := rfl

/-- One mark. -/
theorem SeenHistory.markSeen {r : RoutingState} {hist : List (UInt16 × UInt32)}
    (h : SeenHistory r hist) (hdr : TsRouteHeader) :
    SeenHistory (tsRoutingMarkSeen r hdr) (hdr.id :: hist) where
  ring := h.ring.push hdr.id
  count := by
    show (r.seenCount + 1).toNat = _
    rw [UInt32.toNat_add, h.count, List.length_cons]
    exact Nat.mod_add_mod _ _ _

/-- The cache does not depend on the message counter. -/
theorem SeenHistory.congr {r r' : RoutingState} {hist : List (UInt16 × UInt32)}
    (h : SeenHistory r hist) (hcache : r'.seenCache = r.seenCache)
    (hnext : r'.seenWriteIdx = r.seenWriteIdx) (hcount : r'.seenCount = r.seenCount) :
    SeenHistory r' hist := by
  refine ⟨?_, ?_⟩
  · rw [hcache, hnext]
    exact h.ring
  · rw [hcount]
    exact h.count

/-- **What is recognised was marked.** -/
theorem SeenHistory.mem_of_recognised {r : RoutingState} {hist : List (UInt16 × UInt32)}
    (h : SeenHistory r hist) {id : UInt16 × UInt32} (hid : Recognised r id) : id ∈ hist := by
  obtain ⟨i, hi, rfl⟩ := hid
  rw [entries_eq_min, h.count] at hi
  refine List.mem_of_mem_take (h.ring.cell_mem_window (lt_of_lt_of_le hi ?_))
  exact min_le_min_right _ (Nat.mod_le _ _)

/-- **The cache is a window on the marks**, as long as the count says: that of
the last 32, or of as many as there were since the count was last zero. -/
theorem tsRoutingIsDuplicate_iff_mem_take_count {r : RoutingState}
    {hist : List (UInt16 × UInt32)} (h : SeenHistory r hist) (hdr : TsRouteHeader) :
    tsRoutingIsDuplicate r hdr = true
      ↔ hdr.id ∈ hist.take (min (hist.length % 2 ^ 32) TS_ROUTING_SEEN_CACHE_SIZE) := by
  rw [tsRoutingIsDuplicate_iff]
  unfold Recognised
  rw [entries_eq_min, h.count]
  by_cases hfull : TS_ROUTING_SEEN_CACHE_SIZE ≤ hist.length % 2 ^ 32
  · have hlen : TS_ROUTING_SEEN_CACHE_SIZE ≤ hist.length := le_trans hfull (Nat.mod_le _ _)
    have hring := h.ring.mem_window hdr.id
    rw [Nat.min_eq_right hlen] at hring
    rw [Nat.min_eq_right hfull]
    exact hring
  · -- a count below 32 is where the write index is
    have hsmall : hist.length % 2 ^ 32 < 32 := Nat.lt_of_not_le hfull
    have hnext : r.seenWriteIdx.val = hist.length % 2 ^ 32 := by
      rw [h.ring.next_eq]
      show hist.length % 32 = _
      omega
    have hring := h.ring.mem_below hdr.id
    rw [hnext] at hring
    rw [Nat.min_eq_left (Nat.le_of_not_le hfull)]
    exact hring

/-- **Before the count wraps, the cache is the window of the last 32 marks.** -/
theorem tsRoutingIsDuplicate_iff_mem_take {r : RoutingState}
    {hist : List (UInt16 × UInt32)} (h : SeenHistory r hist) (hlen : hist.length < 2 ^ 32)
    (hdr : TsRouteHeader) :
    tsRoutingIsDuplicate r hdr = true ↔ hdr.id ∈ hist.take TS_ROUTING_SEEN_CACHE_SIZE := by
  rw [tsRoutingIsDuplicate_iff_mem_take_count h, Nat.mod_eq_of_lt hlen, Nat.min_comm,
    ← List.take_eq_take_min]

/-- The cache after some marks since `ts_routing_init`. -/
def seenAfter (nodeId : UInt16) (hdrs : List TsRouteHeader) : RoutingState :=
  hdrs.foldl tsRoutingMarkSeen (tsRoutingInit nodeId)

/-- The ids that were marked, latest first. -/
def markedIds (hdrs : List TsRouteHeader) : List (UInt16 × UInt32) :=
  (hdrs.map TsRouteHeader.id).reverse

/-- **Every sequence of marks is a history** of the cache. -/
theorem seenHistory_seenAfter (nodeId : UInt16) (hdrs : List TsRouteHeader) :
    SeenHistory (seenAfter nodeId hdrs) (markedIds hdrs) := by
  have hfold : ∀ (hdrs : List TsRouteHeader) (r : RoutingState) (hist : List (UInt16 × UInt32)),
      SeenHistory r hist → SeenHistory (hdrs.foldl tsRoutingMarkSeen r) (markedIds hdrs ++ hist) := by
    intro hdrs
    induction hdrs with
    | nil => exact fun _ _ h => h
    | cons hdr hdrs ih =>
      intro r hist h
      have hmarked : markedIds (hdr :: hdrs) ++ hist = markedIds hdrs ++ hdr.id :: hist := by
        simp only [markedIds, List.map_cons, List.reverse_cons, List.append_assoc,
          List.cons_append, List.nil_append]
      rw [hmarked, List.foldl_cons]
      exact ih _ _ (h.markSeen hdr)
  have h := hfold hdrs _ _ (seenHistory_init nodeId)
  rwa [List.append_nil] at h

/-- **The cache is the window of the last 32 marks exactly when** each id in the
window is among the marks since the 32-bit count was last zero. It is in
particular until the count wraps, and again from 32 marks after it has. -/
theorem seen_window_iff (nodeId : UInt16) (hdrs : List TsRouteHeader) :
    (∀ hdr, tsRoutingIsDuplicate (seenAfter nodeId hdrs) hdr = true
        ↔ hdr.id ∈ (markedIds hdrs).take TS_ROUTING_SEEN_CACHE_SIZE)
      ↔ ∀ id ∈ (markedIds hdrs).take TS_ROUTING_SEEN_CACHE_SIZE,
        id ∈ (markedIds hdrs).take (hdrs.length % 2 ^ 32) := by
  have hlen : (markedIds hdrs).length = hdrs.length := by
    rw [markedIds, List.length_reverse, List.length_map]
  have hscan := tsRoutingIsDuplicate_iff_mem_take_count (seenHistory_seenAfter nodeId hdrs)
  rw [hlen] at hscan
  constructor
  · intro h id hid
    have hdup := (h ⟨id.1, 0, id.2, 0, 0⟩).mpr hid
    have hmem := (hscan ⟨id.1, 0, id.2, 0, 0⟩).mp hdup
    exact List.take_subset_take_left _ (Nat.min_le_left _ _) hmem
  · intro h hdr
    rw [hscan hdr]
    constructor
    · exact fun hmem => List.take_subset_take_left _ (Nat.min_le_right _ _) hmem
    · intro hmem
      rcases Nat.le_total (hdrs.length % 2 ^ 32) TS_ROUTING_SEEN_CACHE_SIZE with hle | hle
      · rw [Nat.min_eq_left hle]
        exact h _ hmem
      · rwa [Nat.min_eq_right hle]

/-- One header, marked as often as the count has values. -/
def wrapMarks : List TsRouteHeader := List.replicate (2 ^ 32) ⟨2, 0xFFFF, 7, 4, 0⟩

/-- **The last header marked is not recognised** when its mark made the count
wrap. -/
theorem wrapMarks_forgotten :
    ¬ ∀ hdr, tsRoutingIsDuplicate (seenAfter 1 wrapMarks) hdr = true
      ↔ hdr.id ∈ (markedIds wrapMarks).take TS_ROUTING_SEEN_CACHE_SIZE := by
  intro h
  have hlen : (markedIds wrapMarks).length % 2 ^ 32 = 0 := by
    rw [markedIds, wrapMarks, List.length_reverse, List.length_map, List.length_replicate,
      Nat.mod_self]
  have hscan := tsRoutingIsDuplicate_iff_mem_take_count (seenHistory_seenAfter 1 wrapMarks)
    ⟨2, 0xFFFF, 7, 4, 0⟩
  rw [hlen, Nat.zero_min, List.take_zero] at hscan
  refine absurd (hscan.mp ((h _).mpr ?_)) List.not_mem_nil
  rw [markedIds, wrapMarks, List.map_replicate, List.reverse_replicate, List.take_replicate]
  exact List.mem_replicate.mpr ⟨by decide, rfl⟩

/-! ## What one mark does to the recognised pairs -/

/-- **The shape of the cache**, whatever was marked: the write index follows
the count, and the cells a scan looks at are distinct. -/
structure CacheShape (r : RoutingState) : Prop where
  /-- The write index is the count modulo the size. -/
  next_eq : r.seenWriteIdx.val = r.seenCount.toNat % TS_ROUTING_SEEN_CACHE_SIZE
  /-- No recognised pair is stored twice. -/
  distinct : ∀ i j : Fin TS_ROUTING_SEEN_CACHE_SIZE, i.val < r.entries → j.val < r.entries →
    r.seenCache i = r.seenCache j → i = j

/-- The pair a full cache gives up for the next one. -/
def RoutingState.oldest (r : RoutingState) : UInt16 × UInt32 := r.seenCache r.seenWriteIdx

/-- The next mark makes the count wrap to zero. -/
def RoutingState.wraps (r : RoutingState) : Prop := r.seenCount.toNat + 1 = 2 ^ 32

theorem cacheShape_init (nodeId : UInt16) : CacheShape (tsRoutingInit nodeId) where
  next_eq := rfl
  distinct := fun i _ hi => absurd hi (Nat.not_lt_zero i.val)

/-- The count after a mark. -/
theorem toNat_seenCount_markSeen (r : RoutingState) (hdr : TsRouteHeader) :
    (tsRoutingMarkSeen r hdr).seenCount.toNat = (r.seenCount.toNat + 1) % 2 ^ 32 :=
  UInt32.toNat_add _ _

/-- How many cells a scan looks at after a mark. -/
theorem entries_markSeen_of_not_wraps {r : RoutingState} (h : ¬ r.wraps)
    (hdr : TsRouteHeader) :
    (tsRoutingMarkSeen r hdr).entries
      = min (r.seenCount.toNat + 1) TS_ROUTING_SEEN_CACHE_SIZE := by
  have hlt := r.seenCount.toNat_lt
  have hne : r.seenCount.toNat + 1 ≠ 2 ^ 32 := h
  rw [entries_eq_min, toNat_seenCount_markSeen, Nat.mod_eq_of_lt (by omega)]

theorem entries_markSeen_of_wraps {r : RoutingState} (h : r.wraps) (hdr : TsRouteHeader) :
    (tsRoutingMarkSeen r hdr).entries = 0 := by
  have heq : r.seenCount.toNat + 1 = 2 ^ 32 := h
  rw [entries_eq_min, toNat_seenCount_markSeen, heq]
  rfl

/-- While the cache fills, the write index is the first cell not looked at;
once it is full, every cell is. -/
theorem CacheShape.lt_entries_iff {r : RoutingState} (h : CacheShape r)
    (i : Fin TS_ROUTING_SEEN_CACHE_SIZE) :
    (i.val < min (r.seenCount.toNat + 1) TS_ROUTING_SEEN_CACHE_SIZE)
      ↔ i = r.seenWriteIdx ∨ i.val < r.entries := by
  have hnext := h.next_eq
  have hi : i.val < 32 := i.isLt
  rw [entries_eq_min, Fin.ext_iff, hnext]
  show i.val < min (r.seenCount.toNat + 1) 32
    ↔ i.val = r.seenCount.toNat % 32 ∨ i.val < min r.seenCount.toNat 32
  omega

/-- **A mark of a pair that is not recognised keeps the shape.** -/
theorem CacheShape.markSeen {r : RoutingState} (h : CacheShape r) {hdr : TsRouteHeader}
    (hnew : ¬ Recognised r hdr.id) : CacheShape (tsRoutingMarkSeen r hdr) where
  next_eq := by
    have hnext := h.next_eq
    have hcount := toNat_seenCount_markSeen r hdr
    rw [hcount]
    show (r.seenWriteIdx + 1).val = _
    rw [Fin.val_add, hnext]
    show (r.seenCount.toNat % 32 + 1) % 32 = (r.seenCount.toNat + 1) % 2 ^ 32 % 32
    omega
  distinct := by
    intro i j hi hj heq
    by_cases hw : r.wraps
    · rw [entries_markSeen_of_wraps hw] at hi
      exact absurd hi (Nat.not_lt_zero i.val)
    rw [entries_markSeen_of_not_wraps hw] at hi hj
    have hnotin : ∀ k, k ≠ r.seenWriteIdx → k.val < r.entries → r.seenCache k ≠ hdr.id :=
      fun k _ hk hid => hnew ⟨k, hk, hid⟩
    simp only [tsRoutingMarkSeen] at heq
    -- the written place holds an id that no other valid place had
    by_cases hin : i = r.seenWriteIdx <;> by_cases hjn : j = r.seenWriteIdx
    · rw [hin, hjn]
    · have hj' := (h.lt_entries_iff j).mp hj |>.resolve_left hjn
      rw [hin, Function.update_self, Function.update_of_ne hjn] at heq
      exact absurd heq.symm (hnotin j hjn hj')
    · have hi' := (h.lt_entries_iff i).mp hi |>.resolve_left hin
      rw [hjn, Function.update_self, Function.update_of_ne hin] at heq
      exact absurd heq (hnotin i hin hi')
    · have hi' := (h.lt_entries_iff i).mp hi |>.resolve_left hin
      have hj' := (h.lt_entries_iff j).mp hj |>.resolve_left hjn
      rw [Function.update_of_ne hin, Function.update_of_ne hjn] at heq
      exact h.distinct i j hi' hj' heq

/-- A wrapping count makes the cache forget everything. -/
theorem not_recognised_markSeen_of_wraps {r : RoutingState} (h : r.wraps)
    (hdr : TsRouteHeader) (id : UInt16 × UInt32) :
    ¬ Recognised (tsRoutingMarkSeen r hdr) id := by
  rintro ⟨i, hi, -⟩
  rw [entries_markSeen_of_wraps h] at hi
  exact absurd hi (Nat.not_lt_zero i.val)

/-- **What one mark does to the recognised pairs**: it adds its own, and a
full cache gives up its oldest. -/
theorem recognised_markSeen {r : RoutingState} (h : CacheShape r) (hw : ¬ r.wraps)
    (hdr : TsRouteHeader) (id : UInt16 × UInt32) :
    Recognised (tsRoutingMarkSeen r hdr) id
      ↔ id = hdr.id ∨ (Recognised r id
        ∧ (TS_ROUTING_SEEN_CACHE_SIZE ≤ r.seenCount.toNat → id ≠ r.oldest)) := by
  unfold Recognised
  rw [entries_markSeen_of_not_wraps hw]
  simp only [h.lt_entries_iff]
  constructor
  · rintro ⟨i, hi, hid⟩
    simp only [tsRoutingMarkSeen] at hid
    by_cases hin : i = r.seenWriteIdx
    · rw [hin, Function.update_self] at hid
      exact Or.inl hid.symm
    · rw [Function.update_of_ne hin] at hid
      refine Or.inr ⟨⟨i, hi.resolve_left hin, hid⟩, fun hfull hold => hin ?_⟩
      -- a full cache has its oldest pair in one cell only
      have hall : r.entries = TS_ROUTING_SEEN_CACHE_SIZE := by
        rw [entries_eq_min]
        omega
      exact h.distinct i _ (hi.resolve_left hin) (by rw [hall]; exact Fin.isLt _)
        (hid.trans hold)
  · rintro (rfl | ⟨⟨i, hi, hid⟩, hold⟩)
    · exact ⟨r.seenWriteIdx, Or.inl rfl, Function.update_self _ _ _⟩
    · have hin : i ≠ r.seenWriteIdx := by
        rintro rfl
        by_cases hfull : TS_ROUTING_SEEN_CACHE_SIZE ≤ r.seenCount.toNat
        · exact hold hfull hid.symm
        · -- a cache that is still filling does not look at the cell it writes
          have hnext := h.next_eq
          rw [Nat.mod_eq_of_lt (by omega)] at hnext
          rw [entries_eq_min] at hi
          omega
      refine ⟨i, Or.inr hi, ?_⟩
      simp only [tsRoutingMarkSeen]
      rw [Function.update_of_ne hin, hid]

end Terrascope
