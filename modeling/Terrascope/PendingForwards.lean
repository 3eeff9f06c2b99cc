import Terrascope.Hearing

/-!
# Pending forwards and the duplicate cache

A forward that waits in the contention pool is given up when another node's
copy is heard, and a copy is recognised by the duplicate cache. The two are
bounded on their own: a slot is occupied until its delay has passed, a
message is recognised until 32 others were accepted. A node is
`Suppressible` while they are in step.

The case analysis is `Quiet.of_step`: a step either accepts a message, or
stores a forward, or moves nothing that matters here. What a node needs to
be told apart from its pool and its cache is `PendingInv`, on the message
between its acceptance and its forward.
-/

namespace Terrascope

open Node Transition

variable {τ : Type} {P : Platform}

/-! ## Being in step -/

/-- **A pending forward can always be recognised and suppressed.** -/
structure Suppressible (n : Node τ) : Prop where
  /-- No two pending forwards are of the same message. -/
  distinct : ∀ i j, (n.pool i).occupied = true → (n.pool j).occupied = true →
    (n.pool i).key = (n.pool j).key → i = j
  /-- A further copy of a pending message is a duplicate. -/
  isDuplicate : ∀ i, (n.pool i).occupied = true →
    ∀ hdr, hdr.id = (n.pool i).key → tsRoutingIsDuplicate n.routing hdr = true

/-- **What is known of the message between its acceptance and its forward**,
as long as the node is suppressible. -/
structure PendingInv (n : Node τ) : Prop where
  shape : CacheShape n.routing
  /-- Its mark is still in the cache, unless it made the count wrap. -/
  recognised : ∀ c, n.rx.received = some c → n.routing.seenCount ≠ 0 →
    Recognised n.routing c.msg.route.id
  /-- It is not pending yet. -/
  absent : ∀ c, n.rx.received = some c → ∀ i, (n.pool i).occupied = true →
    (n.pool i).key ≠ c.msg.route.id

/-- **The condition on a step.** An acceptance does not push the key of an
occupied slot out of the cache: neither as its oldest entry, nor by wrapping
the count. And no forward is stored right after the count has wrapped. -/
def KeepsRecognised (P : Platform) (n : Node τ) : NodeAct τ → Prop
  | .receive frame _ _ _ _ => ∀ msg, n.rx = .listening →
    frame.length ≤ LORA_RX_BUFFER_SIZE → loraInParse P frame = some msg →
    msg.route.src ≠ n.routing.selfNodeId → tsRoutingIsDuplicate n.routing msg.route = false →
    ∀ i, (n.pool i).occupied = true → ¬ n.routing.wraps
      ∧ (TS_ROUTING_SEEN_CACHE_SIZE ≤ n.routing.seenCount.toNat →
        (n.pool i).key ≠ n.routing.oldest)
  | .relay => ∀ inMsg tag fwd, n.rx = .relaying inMsg tag →
    forwardOf inMsg.msg = some fwd → findFreeSlot n.pool ≠ none → n.routing.seenCount ≠ 0
  | _ => True

/-- A slot's key is recognised. -/
theorem Suppressible.recognised {n : Node τ} (h : Suppressible n)
    {i : Fin TS_CONTENTION_POOL_SIZE} (hi : (n.pool i).occupied = true) :
    Recognised n.routing (n.pool i).key :=
  (tsRoutingIsDuplicate_iff n.routing ⟨(n.pool i).src, 0, (n.pool i).msgId, 0, 0⟩).mp
    (h.isDuplicate i hi _ rfl)

/-- … which is all there is to being recognised by a scan. -/
theorem suppressible_of_recognised {n : Node τ}
    (hdistinct : ∀ i j, (n.pool i).occupied = true → (n.pool j).occupied = true →
      (n.pool i).key = (n.pool j).key → i = j)
    (h : ∀ i, (n.pool i).occupied = true → Recognised n.routing (n.pool i).key) :
    Suppressible n where
  distinct := hdistinct
  isDuplicate := fun i hi hdr hkey =>
    (tsRoutingIsDuplicate_iff n.routing hdr).mpr (hkey ▸ h i hi)

/-- **What it is good for**: a further copy of a pending message, heard from
another node, frees its slot. -/
theorem Suppressible.cancels {n : Node τ} (h : Suppressible n)
    {i : Fin TS_CONTENTION_POOL_SIZE} (hi : (n.pool i).occupied = true)
    {frame : List UInt8} {tag : τ} {rssi : Int16} {snr : Int8} {now : UInt32}
    {msg : TsMsgLoraOutgoing} (hparse : loraInParse P frame = some msg)
    (hsrc : msg.route.src ≠ n.routing.selfNodeId) (hkey : msg.route.id = (n.pool i).key)
    {n' : Node τ} (hstep : n.step P (.receive frame tag rssi snr now) = some n') :
    n' = { n with
        pool := Function.update n.pool i
          { n.pool i with
            work := Zephyr.kWorkCancelDelayable (n.pool i).work, occupied := false } } := by
  have hdup := h.isDuplicate i hi msg.route hkey
  obtain ⟨es, hstep⟩ : ∃ es, Step P n (.receive frame tag rssi snr now) n' es :=
    ⟨_, Step.of_step hstep⟩
  cases hstep with
  | dropped hrx hlen hnone => cases hparse.symm.trans hnone
  | ownSource hrx hlen hp hown =>
    cases hparse.symm.trans hp
    exact absurd hown hsrc
  | accepted hrx hlen hp hne hnot =>
    cases hparse.symm.trans hp
    cases hdup.symm.trans hnot
  | duplicate hrx hlen hp hne _ =>
    cases hparse.symm.trans hp
    rcases tsContentionCancel_cases n.pool msg.route.src msg.route.msgId with
      ⟨-, hnone, -⟩ | ⟨j, -, hj, hjkey, heq⟩
    · exact absurd hkey.symm (hnone i hi)
    · obtain rfl : j = i := h.distinct j i hj hi (hjkey.trans hkey)
      rw [heq]

/-! ## Pools that only empty -/

/-- Every pending forward was pending before. -/
def Shrinks (pool pool' : Pool τ) : Prop :=
  ∀ i, (pool' i).occupied = true → (pool i).occupied = true ∧ (pool' i).key = (pool i).key

theorem shrinks_refl (pool : Pool τ) : Shrinks pool pool := fun _ hi => ⟨hi, rfl⟩

/-- One slot is touched, and not taken. -/
theorem shrinks_update {pool : Pool τ} {i : Fin TS_CONTENTION_POOL_SIZE}
    {slot : ContentionSlot τ}
    (h : slot.occupied = true → (pool i).occupied = true ∧ slot.key = (pool i).key) :
    Shrinks pool (Function.update pool i slot) := by
  intro j hj
  by_cases hji : j = i
  · subst hji
    rw [Function.update_self] at hj ⊢
    exact h hj
  · rw [Function.update_of_ne hji] at hj ⊢
    exact ⟨hj, rfl⟩

/-- A step of the handler takes no slot. -/
theorem ContentionSlot.handle_key {slot slot' : ContentionSlot τ} {a : HandlerAct}
    (h : slot.handle a = some slot') :
    slot'.occupied = true → slot.occupied = true ∧ slot'.key = slot.key := by
  obtain ⟨-, hkey, hocc⟩ := ContentionSlot.handle_frame h
  exact fun hocc' => ⟨hocc hocc', hkey⟩

/-- Neither does a cancellation. -/
theorem shrinks_cancel (pool : Pool τ) (src : UInt16) (msgId : UInt32) :
    Shrinks pool (tsContentionCancel pool src msgId).1 := by
  rcases tsContentionCancel_cases pool src msgId with ⟨-, -, heq⟩ | ⟨i, -, -, -, heq⟩
  · rw [heq]
    exact shrinks_refl pool
  · rw [heq]
    exact shrinks_update (fun hocc => nomatch hocc)

/-! ## What a step can do to the two -/

/-- **A step that neither marks nor stores.** -/
structure Quiet (n n' : Node τ) : Prop where
  cache : n'.routing.seenCache = n.routing.seenCache
  next : n'.routing.seenWriteIdx = n.routing.seenWriteIdx
  count : n'.routing.seenCount = n.routing.seenCount
  shrinks : Shrinks n.pool n'.pool
  received : ∀ c, n'.rx.received = some c → n.rx.received = some c

/-- **A step accepts a message, stores a forward, or is quiet.** -/
theorem quiet_of_step {n n' : Node τ} {a : NodeAct τ} {es : List (NodeEvent τ)}
    (h : Step P n a n' es) :
    (∃ frame tag rssi snr now msg, a = .receive frame tag rssi snr now ∧ n.rx = .listening
        ∧ frame.length ≤ LORA_RX_BUFFER_SIZE ∧ loraInParse P frame = some msg
        ∧ msg.route.src ≠ n.routing.selfNodeId
        ∧ tsRoutingIsDuplicate n.routing msg.route = false
        ∧ n'.routing = tsRoutingMarkSeen n.routing msg.route ∧ n'.pool = n.pool
        ∧ n'.rx.received = some ⟨msg, tag⟩)
      ∨ (∃ inMsg tag fwd i slot, a = .relay ∧ n.rx = .relaying inMsg tag
        ∧ forwardOf inMsg.msg = some fwd ∧ findFreeSlot n.pool = some i
        ∧ (slot : ContentionSlot τ).key = inMsg.msg.route.id ∧ n'.routing = n.routing
        ∧ n'.pool = Function.update n.pool i slot ∧ slot.occupied = true
        ∧ n'.rx.received = none)
      ∨ Quiet n n' := by
  cases h with
  | accepted hrx hlen hparse hsrc hdup =>
    exact Or.inl ⟨_, _, _, _, _, _, rfl, hrx, hlen, hparse, hsrc, hdup, rfl, rfl, rfl⟩
  | relayed hrx hfwd i hfind hfree work hwork =>
    obtain ⟨-, -, hmsg, -⟩ := forwardOf_eq_some hfwd
    refine Or.inr (Or.inl ⟨_, _, _, i, _, rfl, hrx, hfwd, hfind, ?_, rfl, rfl, rfl, rfl⟩)
    rw [hmsg]
    rfl
  -- a cancel and a run of a handler only empty slots, they never fill one
  | duplicate => exact Or.inr (Or.inr ⟨rfl, rfl, rfl, shrinks_cancel _ _ _, fun _ h => h⟩)
  | handled hslot hpub =>
    exact Or.inr (Or.inr ⟨rfl, rfl, rfl,
      shrinks_update (ContentionSlot.handle_key hslot), fun _ h => h⟩)
  | forwardPublished c hrun =>
    exact Or.inr (Or.inr ⟨rfl, rfl, rfl, shrinks_update (fun hocc => ⟨hocc, rfl⟩),
      fun _ h => h⟩)
  | notForUs hrx hfor =>
    refine Or.inr (Or.inr ⟨rfl, rfl, rfl, shrinks_refl _, fun c h => ?_⟩)
    rw [hrx]
    exact h
  | delivered hrx hfor hdata =>
    refine Or.inr (Or.inr ⟨rfl, rfl, rfl, shrinks_refl _, fun c h => ?_⟩)
    rw [hrx]
    exact h
  | configured | ackPublished | notRelayed | poolFull =>
    exact Or.inr (Or.inr ⟨rfl, rfl, rfl, shrinks_refl _, fun _ h => nomatch h⟩)
  | _ => exact Or.inr (Or.inr ⟨rfl, rfl, rfl, shrinks_refl _, fun _ h => h⟩)

/-- The recognised pairs are those of the cache, its index and its count. -/
theorem Quiet.recognised_iff {n n' : Node τ} (h : Quiet n n') (id : UInt16 × UInt32) :
    Recognised n'.routing id ↔ Recognised n.routing id := by
  unfold Recognised RoutingState.entries
  rw [h.cache, h.count]

theorem Quiet.cacheShape {n n' : Node τ} (h : Quiet n n') (hshape : CacheShape n.routing) :
    CacheShape n'.routing where
  next_eq := by
    rw [h.next, h.count]
    exact hshape.next_eq
  distinct := by
    unfold RoutingState.entries
    rw [h.cache, h.count]
    exact hshape.distinct

theorem Suppressible.quiet {n n' : Node τ} (hn : Suppressible n) (h : Quiet n n') :
    Suppressible n' := by
  refine suppressible_of_recognised (fun i j hi hj hkey => ?_) (fun i hi => ?_)
  · obtain ⟨hi, hkeyi⟩ := h.shrinks i hi
    obtain ⟨hj, hkeyj⟩ := h.shrinks j hj
    exact hn.distinct i j hi hj (hkeyi.symm.trans (hkey.trans hkeyj))
  · obtain ⟨hi, hkeyi⟩ := h.shrinks i hi
    rw [h.recognised_iff, hkeyi]
    exact hn.recognised hi

theorem PendingInv.quiet {n n' : Node τ} (hn : PendingInv n) (h : Quiet n n') :
    PendingInv n' where
  shape := h.cacheShape hn.shape
  recognised := by
    intro c hc hcount
    rw [h.count] at hcount
    rw [h.recognised_iff]
    exact hn.recognised c (h.received c hc) hcount
  absent := by
    intro c hc i hi
    obtain ⟨hi, hkey⟩ := h.shrinks i hi
    rw [hkey]
    exact hn.absent c (h.received c hc) i hi

/-! ## The three kinds of step -/

/-- A mark of a message that is not recognised. -/
theorem not_recognised_of_not_duplicate {n : Node τ} {msg : TsMsgLoraOutgoing}
    (hdup : tsRoutingIsDuplicate n.routing msg.route = false) :
    ¬ Recognised n.routing msg.route.id := by
  intro h
  rw [(tsRoutingIsDuplicate_iff n.routing msg.route).mpr h] at hdup
  cases hdup

/-- The count is zero after a mark exactly if it wrapped. -/
theorem not_wraps_of_seenCount_ne_zero {r : RoutingState} {hdr : TsRouteHeader}
    (h : (tsRoutingMarkSeen r hdr).seenCount ≠ 0) : ¬ r.wraps := by
  intro hw
  refine h (UInt32.toNat_inj.mp ?_)
  rw [toNat_seenCount_markSeen, show r.seenCount.toNat + 1 = 2 ^ 32 from hw]
  rfl

/-- **Every step of a suppressible node keeps the invariant.** -/
theorem PendingInv.step {n n' : Node τ} {a : NodeAct τ} {es : List (NodeEvent τ)}
    (hn : PendingInv n) (hq : Suppressible n) (h : Step P n a n' es) : PendingInv n' := by
  rcases quiet_of_step h with
    ⟨frame, tag, rssi, snr, now, msg, -, -, -, -, -, hdup, hrouting, hpool, hcur⟩ |
    ⟨inMsg, tag, fwd, i, slot, -, -, -, -, -, hrouting, -, -, hcur⟩ | hquiet
  · have hnew := not_recognised_of_not_duplicate hdup
    refine ⟨?_, fun c hc hcount => ?_, fun c hc i hi => ?_⟩
    · rw [hrouting]
      exact hn.shape.markSeen hnew
    · obtain rfl : ⟨msg, tag⟩ = c := Option.some.inj (hcur.symm.trans hc)
      rw [hrouting] at hcount ⊢
      have hw := not_wraps_of_seenCount_ne_zero hcount
      exact (recognised_markSeen hn.shape hw msg.route _).mpr (Or.inl rfl)
    · obtain rfl : ⟨msg, tag⟩ = c := Option.some.inj (hcur.symm.trans hc)
      rw [hpool] at hi ⊢
      intro hkey
      exact hnew (hkey ▸ hq.recognised hi)
  · refine ⟨hrouting ▸ hn.shape, fun c hc => ?_, fun c hc => ?_⟩
    · cases hcur.symm.trans hc
    · cases hcur.symm.trans hc
  · exact hn.quiet hquiet

/-- **A step that meets the condition keeps a node suppressible.** -/
theorem Suppressible.step {n n' : Node τ} {a : NodeAct τ} {es : List (NodeEvent τ)}
    (hq : Suppressible n) (hn : PendingInv n) (ha : KeepsRecognised P n a)
    (h : Step P n a n' es) : Suppressible n' := by
  rcases quiet_of_step h with
    ⟨frame, tag, rssi, snr, now, msg, rfl, hrx, hlen, hparse, hsrc, hdup, hrouting, hpool, -⟩ |
    ⟨inMsg, tag, fwd, i, slot, rfl, hrx, hfwd, hfind, hkey, hrouting, hpool, hocc, -⟩ | hquiet
  · refine suppressible_of_recognised ?_ (fun i hi => ?_)
    · rw [hpool]
      exact hq.distinct
    · rw [hpool] at hi ⊢
      obtain ⟨hw, hold⟩ := ha msg hrx hlen hparse hsrc hdup i hi
      rw [hrouting, recognised_markSeen hn.shape hw]
      exact Or.inr ⟨hq.recognised hi, hold⟩
  · have hcur : n.rx.received = some ⟨inMsg.msg, tag⟩ := by
      rw [hrx]
      rfl
    have hcount := ha inMsg tag fwd hrx hfwd (by rw [hfind]; exact Option.some_ne_none i)
    have hself : (n'.pool i).key = inMsg.msg.route.id := by rw [hpool, Function.update_self, hkey]
    have hother : ∀ j, j ≠ i → n'.pool j = n.pool j := by
      intro j hj
      rw [hpool, Function.update_of_ne hj]
    -- the new slot's key differs from those that were there
    have habsent : ∀ j, j ≠ i → (n'.pool j).occupied = true →
        (n'.pool j).key ≠ (n'.pool i).key := by
      intro j hj hocc'
      rw [hother j hj] at hocc' ⊢
      rw [hself]
      exact hn.absent _ hcur j hocc'
    refine suppressible_of_recognised (fun j k hj hk hjk => ?_) (fun j hj => ?_)
    · by_cases hji : j = i <;> by_cases hki : k = i
      · rw [hji, hki]
      · subst hji
        exact absurd hjk.symm (habsent k hki hk)
      · subst hki
        exact absurd hjk (habsent j hji hj)
      · rw [hother j hji, hother k hki] at hjk
        rw [hother j hji] at hj
        rw [hother k hki] at hk
        exact hq.distinct j k hj hk hjk
    · rw [hrouting]
      by_cases hji : j = i
      · rw [hji, hself]
        exact hn.recognised _ hcur hcount
      · rw [hother j hji] at hj ⊢
        exact hq.recognised hj
  · exact hq.quiet hquiet

/-- **A step that does not meet it breaks suppressibility at once.** -/
theorem not_suppressible_of_not_keepsRecognised {n : Node τ} {a : NodeAct τ}
    (hn : PendingInv n) (hq : Suppressible n) (ha : ¬ KeepsRecognised P n a) :
    ∃ n', n.step P a = some n' ∧ ¬ Suppressible n' := by
  cases a with
  | receive frame tag rssi snr now =>
    simp only [KeepsRecognised, not_forall] at ha
    obtain ⟨msg, hrx, hlen, hparse, hsrc, hdup, i, hi, hbad⟩ := ha
    refine ⟨(n.accept msg tag rssi snr now).1, ?_, fun hq' => hbad ?_⟩
    · simp only [Node.step, stepEvents, Node.receive, hrx, if_neg (Nat.not_lt.mpr hlen), hparse,
        Option.map_some]
    · rw [accept_of_new hsrc hdup] at hq'
      have hrec : Recognised (tsRoutingMarkSeen n.routing msg.route) (n.pool i).key :=
        hq'.recognised hi
      by_cases hw : n.routing.wraps
      · exact absurd hrec (not_recognised_markSeen_of_wraps hw _ _)
      · rcases (recognised_markSeen hn.shape hw msg.route _).mp hrec with hkey | ⟨-, hold⟩
        · exact absurd (hkey ▸ hq.recognised hi) (not_recognised_of_not_duplicate hdup)
        · exact ⟨hw, hold⟩
  | relay =>
    simp only [KeepsRecognised, not_forall, ne_eq, not_not] at ha
    obtain ⟨inMsg, tag, fwd, hrx, hfwd, hfree, hcount⟩ := ha
    obtain ⟨i, hfind⟩ := Option.ne_none_iff_exists'.mp hfree
    refine ⟨_, by simp only [Node.step, stepEvents, Node.relay, hrx, hfwd, Option.map_some]; rfl,
      fun hq' => ?_⟩
    -- no cell is looked at, and slot `i` is occupied now
    obtain ⟨j, hj, -⟩ := hq'.recognised (i := i) (by
      simp only [tsContentionSchedule, hfind, Function.update_self])
    have hzero : n.routing.entries = 0 := by
      rw [entries_eq_min, hcount]
      rfl
    exact absurd hj (by rw [hzero]; exact Nat.not_lt_zero _)
  | _ => exact absurd trivial ha

/-! ## Whole runs -/

theorem pendingInv_boot [Inhabited τ] (config : ConfigState) :
    PendingInv (Node.boot config : Node τ) where
  shape := cacheShape_init _
  recognised := fun _ h => nomatch h
  absent := fun _ h => nomatch h

theorem suppressible_boot [Inhabited τ] (config : ConfigState) :
    Suppressible (Node.boot config : Node τ) where
  distinct := fun _ _ h => nomatch h
  isDuplicate := fun _ h => nomatch h

/-- **Which runs stay in step.** In every state of a run of a node from boot,
the pending forwards are of different messages and recognised as duplicates,
if and only if no acceptance of the run pushes the key of an occupied slot
out of the cache and no forward is stored right after the count of the cache
has wrapped. -/
theorem allStates_suppressible_iff [Inhabited τ] (config : ConfigState)
    (acts : List (NodeAct τ)) :
    AllStates (Node.step P) Suppressible (Node.boot config) acts
      ↔ AllSteps (Node.step P) (KeepsRecognised P) (Node.boot config) acts :=
  allStates_iff_allSteps (I := PendingInv)
    (fun _ _ _ hn hq hs' => hn.step hq (Step.of_step hs'))
    (fun _ _ _ hn hq ha hs' => hq.step hn ha (Step.of_step hs'))
    (fun _ _ hn hq ha => not_suppressible_of_not_keepsRecognised hn hq ha)
    acts (pendingInv_boot config) (suppressible_boot config)

/-- The configuration of a node that waits up to a minute. -/
def patientConfig : ConfigState :=
  (tsConfigSet ConfigState.empty (cstr "contention_delay_max_ms") 60000 0).1

/-- A message of node 9 with one hop left. -/
def lastHop (k : ℕ) : TsMsgLoraOutgoing :=
  { heardStatus 9 k.toUInt32 with route := { (heardStatus 9 k.toUInt32).route with ttl := 1 } }

/-- A message to be forwarded, and 32 others that are not while it waits. -/
def crowd : List TsMsgLoraOutgoing := heardStatus 2 7 :: (List.range 32).map lastHop

/-- The passes of the receive task over some messages. -/
def passesOver (msgs : List TsMsgLoraOutgoing) : List (NodeAct Unit) :=
  (msgs.flatMap passOver).map (HeardAct.act defaultPlatform)

theorem audible_crowd : ∀ msg ∈ crowd, Audible defaultPlatform msg := by
  have hfits : ∀ k < 32, fitsFrame Zcbor.reference (lastHop k) = true := by decide +kernel
  intro msg hmsg
  rcases List.mem_cons.mp hmsg with rfl | hmsg
  · exact audible_default rfl rfl (by decide)
  · obtain ⟨k, hk, rfl⟩ := List.mem_map.mp hmsg
    exact audible_default rfl rfl (hfits k (List.mem_range.mp hk))

/-- **The 32nd pushes the pending forward out of the cache**, and a further
copy of it is accepted as new and scheduled a second time. -/
theorem crowd_not_suppressible :
    ¬ AllStates (Node.step defaultPlatform) Suppressible (Node.boot patientConfig)
        (passesOver crowd)
      ∧ (run (Node.step defaultPlatform) (Node.boot patientConfig)
          (passesOver (crowd ++ [heardStatus 2 7]))).map
          (fun n => ((n.pool 0).occupied, (n.pool 0).key, (n.pool 1).occupied, (n.pool 1).key))
        = some (true, (2, 7), true, (2, 7)) := by
  have hcopy : ∀ msg ∈ crowd ++ [heardStatus 2 7], Audible defaultPlatform msg := by
    intro msg hmsg
    rcases List.mem_append.mp hmsg with hmsg | hmsg
    · exact audible_crowd msg hmsg
    · rw [List.mem_singleton.mp hmsg]
      exact audible_crowd _ List.mem_cons_self
  unfold passesOver
  constructor
  · intro hall
    have hslot : (run (Node.step defaultPlatform) (Node.boot patientConfig)
        ((crowd.flatMap passOver).map (HeardAct.act defaultPlatform))).map
        (fun n => ((n.pool 0).occupied, (n.pool 0).key,
          tsRoutingIsDuplicate n.routing (heardStatus 2 7).route))
        = some (true, (2, 7), false) := by
      rw [run_heard (audible_passes audible_crowd)]
      decide +kernel
    obtain ⟨n, hrun, hn⟩ := Option.map_eq_some_iff.mp hslot
    simp only [Prod.mk.injEq] at hn
    have hdup := (hall.last hrun).isDuplicate 0 hn.1 (heardStatus 2 7).route hn.2.1.symm
    rw [hn.2.2] at hdup
    cases hdup
  · rw [run_heard (audible_passes hcopy)]
    decide +kernel

end Terrascope
