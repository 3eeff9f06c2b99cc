import Terrascope.MeshProvenance

/-!
# Fresh messages and duplicates

On the wire a message is known by its source and its message id. The
duplicate caches hold nothing but what was accepted (`SeenInv`), so a message
that is dropped as a duplicate has the pair of one that was accepted. It is
the same message as long as no pair is used twice, and that is up to the
originators: the counter lives in RAM, and `ts_routing_init` sets it back to
zero.
-/

namespace Terrascope

open Node Transition

variable {ι : Type}

/-! ## The condition on originations -/

/-- **The node's next header has a pair no header had before.** -/
def FreshHeader (m : Mesh ι) (i : ι) : Prop :=
  ∀ own ∈ m.originations,
    own.2.route.id ≠ ((m.nodes i).routing.selfNodeId, (m.nodes i).routing.nextMsgId)

/-- **The condition on a step**: if it prepares a header, the header is
fresh. -/
def PreparesFresh (m : Mesh ι) : MeshAct ι → Prop
  | .originate i content => (m.nodes i).producing content.producer = none → FreshHeader m i
  | .deliver i _ => (m.nodes i).Acknowledges → FreshHeader m i
  | _ => True

/-- No two originations have the same pair. -/
def DistinctIds (m : Mesh ι) : Prop := (m.originations.map (fun own => own.2.route.id)).Nodup

/-- Two originations with one pair are one. -/
theorem DistinctIds.eq_of_id_eq {m : Mesh ι} (h : DistinctIds m) {k k' : ℕ}
    {own own' : ι × TsMsgLoraOutgoing} (hk : m.originations[k]? = some own)
    (hk' : m.originations[k']? = some own') (hid : own.2.route.id = own'.2.route.id) :
    k = k' := by
  have hlen : k < (m.originations.map (fun own => own.2.route.id)).length := by
    rw [List.length_map]
    exact (List.getElem?_eq_some_iff.mp hk).1
  refine (List.getElem?_inj hlen h).mp ?_
  rw [List.getElem?_map, List.getElem?_map, hk, hk', Option.map_some, Option.map_some, hid]

variable [DecidableEq ι] {D : Deployment ι} {m m' : Mesh ι} {es : List (MeshEvent ι)}

/-- **A step that prepares a fresh header, or none,** keeps the pairs
distinct. -/
theorem DistinctIds.step (h : DistinctIds m) {a : MeshAct ι} (ha : PreparesFresh m a)
    {mes : List (MeshEvent ι)} (hs : MeshStep D m a m' mes) : DistinctIds m' := by
  cases hs with
  | restarted => exact h
  | @node i act n' nes hact hstep =>
    unfold DistinctIds Mesh.apply
    dsimp only
    by_cases hnew : ∃ c, .originated c ∈ nes
    · obtain ⟨c, hc⟩ := hnew
      obtain ⟨hwhich, hid, -⟩ := hstep.of_originated_mem hc
      have hfresh : FreshHeader m i := by
        rcases hwhich with ⟨content, rfl, hidle⟩ | ⟨saveRet, rfl, hack⟩
        · rw [(nodeAct_eq_originate hact).1] at ha
          exact ha hidle
        · rw [(nodeAct_eq_deliver hact).1] at ha
          exact ha hack
      rw [filterMap_origination_eq hstep hc, List.map_append, List.map_singleton, hid]
      refine List.nodup_append.mpr ⟨h, List.nodup_singleton _, fun id hmem id' hid' heq => ?_⟩
      rw [heq, List.mem_singleton.mp hid'] at hmem
      obtain ⟨own, hown, heq⟩ := List.mem_map.mp hmem
      exact hfresh own hown heq
    · rw [filterMap_origination_eq_nil (fun c hc => hnew ⟨c, hc⟩), List.append_nil]
      exact h

/-- In a run that prepares fresh headers only, the pairs are distinct. -/
theorem distinctIds_run {acts : List (MeshAct ι)}
    (hfresh : AllSteps (meshStep D) PreparesFresh D.boot acts)
    (hrun : run (meshStep D) D.boot acts = some m) : DistinctIds m := by
  have hboot : DistinctIds D.boot := List.nodup_nil
  exact run_invariant_of_allSteps (I := DistinctIds)
    (fun _ _ _ h ha hs' => h.step ha (MeshStep.of_meshStep hs')) hboot hfresh hrun

/-! ## Meshes that never restart -/

/-- How many headers a node has prepared. -/
def headers (m : Mesh ι) (i : ι) : ℕ := m.originations.countP (fun own => own.1 = i)

/-- **The counters of nodes that never restarted** count their headers. -/
structure Counted (D : Deployment ι) (m : Mesh ι) : Prop where
  selfId : ∀ i, (m.nodes i).routing.selfNodeId = D.nodeId i
  next : ∀ i, (m.nodes i).routing.nextMsgId.toNat = headers m i % 2 ^ 32
  src : ∀ own ∈ m.originations, own.2.route.src = D.nodeId own.1
  msgId : ∀ own ∈ m.originations, headers m own.1 ≤ 2 ^ 32 →
    own.2.route.msgId.toNat < headers m own.1

theorem counted_boot (D : Deployment ι) : Counted D D.boot where
  selfId := fun _ => rfl
  next := fun _ => rfl
  src := fun _ h => nomatch h
  msgId := fun _ h => nomatch h

/-- A counter that has not wrapped is at a fresh header. -/
theorem Counted.freshHeader (h : Counted D m) (hids : Function.Injective D.nodeId) {i : ι}
    (hfew : headers m i < 2 ^ 32) : FreshHeader m i := by
  intro own hown hid
  obtain ⟨hsrc, hmsgId⟩ := Prod.mk.injEq _ _ _ _ ▸ hid
  have hi : own.1 = i := hids ((h.src own hown).symm.trans (hsrc.trans (h.selfId i)))
  have hlt := h.msgId own hown (by rw [hi]; exact hfew.le)
  rw [hmsgId, h.next i, hi, Nat.mod_eq_of_lt hfew] at hlt
  exact absurd hlt (lt_irrefl _)

/-- The headers after a step: one more where one was prepared. -/
theorem headers_apply (m : Mesh ι) (i : ι) (n' : Node (Trail ι))
    (nes : List (NodeEvent (Trail ι))) (j : ι) :
    headers (m.apply i n' nes) j
      = headers m j + (nes.filterMap (origination i)).countP (fun own => own.1 = j) :=
  List.countP_append

section NodeStep

variable {i : ι} {act : NodeAct (Trail ι)} {n' : Node (Trail ι)}
  {nes : List (NodeEvent (Trail ι))}

/-- A header is counted by its node, and has the number counted before. -/
theorem Counted.originates (h : Counted D m)
    (hself : ∀ j, ((m.apply i n' nes).nodes j).routing.selfNodeId = D.nodeId j)
    (hstep : Step (D.platform i) (m.nodes i) act n' nes) {c : Copy (Trail ι)}
    (hc : .originated c ∈ nes)
    (hnext : n'.routing.nextMsgId = (m.nodes i).routing.nextMsgId + 1) :
    Counted D (m.apply i n' nes) := by
  obtain ⟨-, hid, -⟩ := hstep.of_originated_mem hc
  obtain ⟨hsrc, hmsgId⟩ := Prod.mk.injEq _ _ _ _ ▸ hid
  have hlist := filterMap_origination_eq hstep hc i
  have hone : ∀ j, headers (m.apply i n' nes) j = headers m j + if i = j then 1 else 0 := by
    intro j
    rw [headers_apply, hlist, List.countP_singleton]
    simp only [decide_eq_true_eq]
  refine ⟨hself, fun j => ?_, fun own hown => ?_, fun own hown hfew => ?_⟩
  · rw [hone]
    by_cases hji : j = i
    · rw [hji, Mesh.apply_nodes_self, hnext, UInt32.toNat_add, h.next i, if_pos rfl]
      exact Nat.mod_add_mod _ _ _
    · rw [Mesh.apply_nodes_of_ne hji, if_neg (Ne.symm hji), Nat.add_zero]
      exact h.next j
  · rcases List.mem_append.mp hown with hown | hown
    · exact h.src own hown
    · rw [hlist, List.mem_singleton] at hown
      rw [hown]
      exact hsrc.trans (h.selfId i)
  · rw [hone] at hfew ⊢
    rcases List.mem_append.mp hown with hown | hown
    · have hlt := h.msgId own hown (by omega)
      omega
    · -- the new header has the count as its number, which has not wrapped yet
      rw [hlist, List.mem_singleton] at hown
      rw [hown] at hfew ⊢
      dsimp only at hfew ⊢
      rw [if_pos rfl] at hfew ⊢
      rw [hmsgId, h.next i, Nat.mod_eq_of_lt (by omega)]
      omega

/-- Where no header is made, nothing is counted. -/
theorem Counted.originates_none (h : Counted D m)
    (hself : ∀ j, ((m.apply i n' nes).nodes j).routing.selfNodeId = D.nodeId j)
    (hnone : ∀ c, .originated c ∉ nes)
    (hnext : n'.routing.nextMsgId = (m.nodes i).routing.nextMsgId) :
    Counted D (m.apply i n' nes) := by
  have hlist := filterMap_origination_eq_nil (i := i) hnone
  have hsame : ∀ j, headers (m.apply i n' nes) j = headers m j := by
    intro j
    rw [headers_apply, hlist]
    rfl
  have horiginations : (m.apply i n' nes).originations = m.originations := by
    unfold Mesh.apply
    rw [hlist, List.append_nil]
  refine ⟨hself, fun j => ?_, ?_, ?_⟩
  · rw [hsame]
    by_cases hji : j = i
    · rw [hji, Mesh.apply_nodes_self, hnext, h.next i]
    · rw [Mesh.apply_nodes_of_ne hji, h.next j]
  · rw [horiginations]
    exact h.src
  · rw [horiginations]
    simp only [hsame]
    exact h.msgId

end NodeStep

theorem Counted.step (h : Counted D m) {a : MeshAct ι} (ha : ∀ i order, a ≠ .restart i order)
    {mes : List (MeshEvent ι)} (hs : MeshStep D m a m' mes) : Counted D m' := by
  have hself := hs.selfNodeId_eq h.selfId
  cases hs with
  | restarted hact => exact absurd hact (ha _ _)
  | node hact hstep =>
    rcases hstep.nextMsgId_cases with ⟨c, hc, hnext⟩ | ⟨hnone, hnext⟩
    · exact h.originates hself hstep hc hnext
    · exact h.originates_none hself hnone hnext

/-- Originations are only added. -/
theorem headers_le_of_run {acts : List (MeshAct ι)} (hrun : run (meshStep D) m acts = some m')
    (i : ι) : headers m i ≤ headers m' i := by
  refine run_invariant (I := fun s => headers m i ≤ headers s i) ?_ (le_refl _) hrun
  intro s a s' hle hs'
  obtain ⟨mes, hstep⟩ : ∃ mes, MeshStep D s a s' mes := ⟨_, MeshStep.of_meshStep hs'⟩
  cases hstep with
  | node => exact le_trans hle (by rw [headers_apply]; exact Nat.le_add_right _ _)
  | restarted => exact hle

/-- **A mesh whose nodes never restart** and prepare fewer than 2^32 headers
each prepares fresh headers only. -/
theorem allSteps_preparesFresh_of_no_restart (hids : Function.Injective D.nodeId)
    {acts : List (MeshAct ι)} (hno : ∀ a ∈ acts, ∀ i order, a ≠ .restart i order)
    (hm : Counted D m) (hrun : run (meshStep D) m acts = some m')
    (hfew : ∀ i, headers m' i < 2 ^ 32) : AllSteps (meshStep D) PreparesFresh m acts := by
  induction acts generalizing m with
  | nil => trivial
  | cons a acts ih =>
    have hfresh : ∀ i, FreshHeader m i := fun i =>
      hm.freshHeader hids (lt_of_le_of_lt (headers_le_of_run hrun i) (hfew i))
    obtain ⟨s, hs, hrest⟩ := run_cons_eq_some.mp hrun
    refine ⟨?_, fun s' hs' => ?_⟩
    · cases a with
      | originate i content => exact fun _ => hfresh i
      | deliver i saveRet => exact fun _ => hfresh i
      | _ => trivial
    · obtain rfl : s = s' := Option.some.inj (hs.symm.trans hs')
      exact ih (fun b hb => hno b (List.mem_cons_of_mem a hb))
        (hm.step (hno a List.mem_cons_self) (MeshStep.of_meshStep hs)) hrest

/-! ## The caches hold what was accepted -/

/-- **What a cache holds was accepted**: its history since the node started is
one of pairs whose messages the node accepted. -/
def SeenInv (m : Mesh ι) (es : List (MeshEvent ι)) : Prop :=
  ∀ j, ∃ hist, SeenHistory (m.nodes j).routing hist
    ∧ ∀ id ∈ hist, ∃ c, .node j (.accepted c) ∈ es ∧ c.msg.route.id = id
      ∧ ReceivedAt m.originations j c

omit [DecidableEq ι] in
/-- A node that does not move keeps its history. -/
theorem SeenInv.later (h : SeenInv m es) (j : ι) (new : List (ι × TsMsgLoraOutgoing))
    (more : List (MeshEvent ι)) :
    ∃ hist, SeenHistory (m.nodes j).routing hist
      ∧ ∀ id ∈ hist, ∃ c, .node j (.accepted c) ∈ es ++ more ∧ c.msg.route.id = id
        ∧ ReceivedAt (m.originations ++ new) j c := by
  obtain ⟨hist, hseen, haccepted⟩ := h j
  refine ⟨hist, hseen, fun id hid => ?_⟩
  obtain ⟨c, hc, hcid, hreceived⟩ := haccepted id hid
  exact ⟨c, List.mem_append_left _ hc, hcid, hreceived.append new⟩

theorem SeenInv.step (h : SeenInv m es) (hm : MeshInv D m es) {a : MeshAct ι}
    {mes : List (MeshEvent ι)} (hs : MeshStep D m a m' mes) : SeenInv m' (es ++ mes) := by
  intro j
  cases hs with
  | @restarted i order hact hperm hid =>
    by_cases hji : j = i
    · subst hji
      rw [Mesh.restart_nodes_self]
      exact ⟨[], seenHistory_init _, fun id hid => absurd hid List.not_mem_nil⟩
    · rw [Mesh.restart_nodes_of_ne hji]
      have hlater := h.later j [] [.restarted i]
      rwa [List.append_nil] at hlater
  | @node i act n' nes hact hstep =>
    by_cases hji : j = i
    · subst hji
      rw [Mesh.apply_nodes_self]
      obtain ⟨hist, hseen, haccepted⟩ := h.later j (nes.filterMap (origination j))
        (a.heard ++ nes.map (MeshEvent.node j))
      rcases hstep.seenCache_cases with ⟨c, hc, hrouting⟩ | ⟨hcache, hnext, hcount⟩
      -- what is marked as seen is either the message just accepted or nothing new
      · refine ⟨c.msg.route.id :: hist, by rw [hrouting]; exact hseen.markSeen _,
          fun id hid => ?_⟩
        rcases List.mem_cons.mp hid with rfl | hid
        · exact ⟨c, List.mem_append_right _ (mem_heard_append.mpr ⟨rfl, hc⟩), rfl,
            (hm.accepted hact hstep hc).append _⟩
        · exact haccepted id hid
      · exact ⟨hist, hseen.congr hcache hnext hcount, haccepted⟩
    · rw [Mesh.apply_nodes_of_ne hji]
      exact h.later j _ _

/-- Both invariants at the end of a run. -/
theorem seenInv_run {acts : List (MeshAct ι)} (hrun : run (meshStep D) D.boot acts = some m) :
    SeenInv m (trace (meshStep D) (meshEvents D) D.boot acts) := by
  have hboot : MeshInv D D.boot [] ∧ SeenInv D.boot [] :=
    ⟨meshInv_boot D, fun _ => ⟨[], seenHistory_init _, fun _ hid => absurd hid List.not_mem_nil⟩⟩
  have h := run_history (J := fun m es => MeshInv D m es ∧ SeenInv m es)
    (fun _ _ _ _ h hs' => ⟨h.1.step (MeshStep.of_meshStep hs'),
      h.2.step h.1 (MeshStep.of_meshStep hs')⟩)
    hboot hrun
  exact h.2

/-! ## Duplicates -/

/-- **Which runs mistake no fresh message for a duplicate.** In a run in which
every header that is prepared has a pair no header had before, whenever a
node drops a message as a duplicate, it has accepted a copy of the very same
origination. -/
theorem duplicate_was_accepted {acts : List (MeshAct ι)}
    (hrun : run (meshStep D) D.boot acts = some m)
    (hfresh : AllSteps (meshStep D) PreparesFresh D.boot acts) {a : MeshAct ι} {m' : Mesh ι}
    (hs : meshStep D m a = some m') {j : ι} {c : Copy (Trail ι)}
    (hdropped : .node j (.duplicate c) ∈ meshEvents D m a) :
    ∃ c', .node j (.accepted c') ∈ trace (meshStep D) (meshEvents D) D.boot acts
      ∧ c'.tag.origin = c.tag.origin := by
  have hm := meshInv_run hrun
  have hids := distinctIds_run hfresh hrun
  obtain ⟨hist, hseen, haccepted⟩ := seenInv_run hrun j
  obtain ⟨mes, hmes, hstep⟩ : ∃ mes, meshEvents D m a = mes ∧ MeshStep D m a m' mes :=
    ⟨_, rfl, MeshStep.of_meshStep hs⟩
  rw [hmes] at hdropped
  cases hstep with
  | restarted => cases List.mem_singleton.mp hdropped
  | @node i act n' nes hact hstep =>
    obtain ⟨rfl, hmem⟩ := mem_heard_append.mp hdropped
    obtain ⟨frame, rssi, snr, now, rfl, hparse, hsrc, hdup⟩ := hstep.of_duplicate_mem hmem
    obtain ⟨k, t, -, ht, rfl, htag⟩ := nodeAct_eq_receive hact
    rw [hm.selfId] at hsrc
    obtain ⟨own, horigin, hcopy, -⟩ := hm.receivedAt (List.mem_of_getElem? ht) hparse hsrc
    -- the pair was recognised, so a message with it was accepted
    have hid := hseen.mem_of_recognised ((tsRoutingIsDuplicate_iff _ _).mp hdup)
    obtain ⟨c', hc', hid', own', horigin', hcopy', -⟩ := haccepted _ hid
    refine ⟨c', hc', ?_⟩
    have hpair : own'.2.route.id = own.2.route.id := by
      have hthis : c.msg.route.id = own.2.route.id := Prod.ext hcopy.src hcopy.msgId
      have hthat : c'.msg.route.id = own'.2.route.id := Prod.ext hcopy'.src hcopy'.msgId
      rw [← hthat, hid', hthis]
    rw [htag]
    exact hids.eq_of_id_eq horigin' horigin hpair

/-- The origination of a message that a node accepts in an event. -/
def acceptedOrigin (j : ι) : MeshEvent ι → Option ℕ
  | .node i (.accepted c) => if i = j then some c.tag.origin else none
  | _ => none

/-- The origination of a message that a node drops as a duplicate. -/
def duplicateOrigin (j : ι) : MeshEvent ι → Option ℕ
  | .node i (.duplicate c) => if i = j then some c.tag.origin else none
  | _ => none

theorem exists_of_duplicateOrigin {j : ι} {k : ℕ} {es : List (MeshEvent ι)}
    (h : k ∈ es.filterMap (duplicateOrigin j)) :
    ∃ c, .node j (.duplicate c) ∈ es ∧ c.tag.origin = k := by
  obtain ⟨e, he, hk⟩ := List.mem_filterMap.mp h
  unfold duplicateOrigin at hk
  split at hk
  · next i c =>
    split at hk
    · next hij =>
      subst hij
      exact ⟨c, he, Option.some.inj hk⟩
    · cases hk
  · cases hk

theorem acceptedOrigin_mem {j : ι} {c : Copy (Trail ι)} {es : List (MeshEvent ι)}
    (h : .node j (.accepted c) ∈ es) : c.tag.origin ∈ es.filterMap (acceptedOrigin j) :=
  List.mem_filterMap.mpr ⟨_, h, if_pos rfl⟩

/-- A copy heard a second time is dropped for the first. -/
theorem duplicate_was_accepted_heardTwice : ∃ m m' c,
    run (meshStep twoNodes) twoNodes.boot (sendsHeartbeat 0 ++ hearsFrame 1 0) = some m
      ∧ meshStep twoNodes m (.receive 1 0 (-80) 5 62) = some m'
      ∧ .node 1 (.duplicate c) ∈ meshEvents twoNodes m (.receive 1 0 (-80) 5 62)
      ∧ ∃ c', .node 1 (.accepted c') ∈ trace (meshStep twoNodes) (meshEvents twoNodes)
          twoNodes.boot (sendsHeartbeat 0 ++ hearsFrame 1 0) ∧ c'.tag.origin = c.tag.origin := by
  have heval : (run (meshStep twoNodes) twoNodes.boot (sendsHeartbeat 0 ++ hearsFrame 1 0)).map
      (fun m => ((meshStep twoNodes m (.receive 1 0 (-80) 5 62)).isSome, m.originations.length,
        (meshEvents twoNodes m (.receive 1 0 (-80) 5 62)).filterMap (duplicateOrigin 1)))
      = some (true, 1, [0]) := by decide +kernel
  obtain ⟨m, hrun, hm⟩ := Option.map_eq_some_iff.mp heval
  simp only [Prod.mk.injEq] at hm
  obtain ⟨m', hs⟩ := Option.isSome_iff_exists.mp hm.1
  obtain ⟨c, hc, -⟩ := exists_of_duplicateOrigin (hm.2.2.symm ▸ List.mem_singleton_self 0)
  have hfresh : AllSteps (meshStep twoNodes) PreparesFresh twoNodes.boot
      (sendsHeartbeat 0 ++ hearsFrame 1 0) := by
    refine allSteps_preparesFresh_of_no_restart (by decide +kernel) ?_ (counted_boot _) hrun
      (fun i => ?_)
    · simp [sendsHeartbeat, hearsFrame]
    · refine lt_of_le_of_lt List.countP_le_length ?_
      rw [hm.2.1]
      decide
  exact ⟨m, m', c, hrun, hs, hc, duplicate_was_accepted hrun hfresh hs hc⟩

/-- A heartbeat that `j` hears, a restart, and the first heartbeat after it. -/
def heartbeatAfterRestart (i j : Fin 2) : List (MeshAct (Fin 2)) :=
  sendsHeartbeat i ++ hearsFrame j 0 ++ .restart i [] :: sendsHeartbeat i

/-- **The heartbeat after the restart is dropped for the one before it**,
which is the only message node 2 has accepted. -/
theorem heartbeatAfterRestart_dropped : ∃ m m' c,
    run (meshStep twoNodes) twoNodes.boot (heartbeatAfterRestart 0 1) = some m
      ∧ meshStep twoNodes m (.receive 1 1 (-80) 5 62) = some m'
      ∧ .node 1 (.duplicate c) ∈ meshEvents twoNodes m (.receive 1 1 (-80) 5 62)
      ∧ ∀ c', .node 1 (.accepted c') ∈ trace (meshStep twoNodes) (meshEvents twoNodes)
          twoNodes.boot (heartbeatAfterRestart 0 1) → c'.tag.origin ≠ c.tag.origin := by
  have heval : (run (meshStep twoNodes) twoNodes.boot (heartbeatAfterRestart 0 1)).map
      (fun m => ((meshStep twoNodes m (.receive 1 1 (-80) 5 62)).isSome,
        (meshEvents twoNodes m (.receive 1 1 (-80) 5 62)).filterMap (duplicateOrigin 1)))
      = some (true, [1]) := by decide +kernel
  have haccepted : (trace (meshStep twoNodes) (meshEvents twoNodes) twoNodes.boot
      (heartbeatAfterRestart 0 1)).filterMap (acceptedOrigin 1) = [0] := by decide +kernel
  obtain ⟨m, hrun, hm⟩ := Option.map_eq_some_iff.mp heval
  simp only [Prod.mk.injEq] at hm
  obtain ⟨m', hs⟩ := Option.isSome_iff_exists.mp hm.1
  obtain ⟨c, hc, horigin⟩ := exists_of_duplicateOrigin (hm.2.symm ▸ List.mem_singleton_self 1)
  refine ⟨m, m', c, hrun, hs, hc, fun c' hc' => ?_⟩
  have hzero := acceptedOrigin_mem hc'
  rw [haccepted, List.mem_singleton] at hzero
  rw [hzero, horigin]
  decide

end Terrascope
