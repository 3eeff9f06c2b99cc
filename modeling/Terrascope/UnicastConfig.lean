import Terrascope.MeshProvenance

/-!
# Configuration of one node over the mesh

A configuration request names the node it is for, and its answer the node
that asked. `TS_ROUTING_BROADCAST_ADDR` is a value like any other to
`config_keys`, whose range for `node_id` ends at 0xFFFF. To a node with that
id nothing can be sent alone, and no answer either.

With that id kept out of an exchange, it concerns two nodes: the request
changes the configuration of the one and its answer is delivered at the other
(`unicast_config_only`).
-/

namespace Terrascope

open Node Transition

variable {ι : Type}

/-! ## What a run shows -/

/-- **A step of the mesh, recorded**: the mesh before, what the step does, and
the mesh after. -/
structure MeshRecord (ι : Type) where
  before : Mesh ι
  events : List (MeshEvent ι)
  after : Mesh ι

/-- Node `j` applies a request in the step. -/
def MeshRecord.Applies (r : MeshRecord ι) (j : ι) (c : Copy (Trail ι)) : Prop :=
  .node j (.configApplied c) ∈ r.events

/-- Node `j` delivers a message on `ts_lora_in_chan` in the step. -/
def MeshRecord.Delivers (r : MeshRecord ι) (j : ι) (c : Copy (Trail ι)) : Prop :=
  .node j (.delivered c) ∈ r.events

/-- **Node `j` answers a request in the step**, by the acknowledgement that it
prepares when it applies it. -/
def MeshRecord.Answers (r : MeshRecord ι) (j : ι) (c ack : Copy (Trail ι)) : Prop :=
  r.Applies j c ∧ .node j (.originated ack) ∈ r.events

/-- **The message goes back to a request to node `d` alone**, which node `i`
originated. -/
def Copy.RequestTo (D : Deployment ι) (originations : List (ι × TsMsgLoraOutgoing))
    (c : Copy (Trail ι)) (i d : ι) : Prop :=
  ∃ msg, originations[c.tag.origin]? = some (i, msg) ∧ (∃ req, msg.data = .configSet req)
    ∧ msg.route.dst = D.nodeId d

/-- **A request to one node concerns that node and the one that asked.** -/
structure UnicastOnly (D : Deployment ι) (m : Mesh ι) (log : List (MeshRecord ι)) : Prop where
  /-- A live configuration is changed by a request, unless its node
  restarts. -/
  changed : ∀ r ∈ log, ∀ j,
    (r.after.nodes j).config.live ≠ (r.before.nodes j).config.live →
      .restarted j ∈ r.events ∨ ∃ c, r.Applies j c
  /-- A request to one node is applied at no other node. -/
  applied : ∀ r ∈ log, ∀ j c i d, r.Applies j c → c.RequestTo D m.originations i d → j = d
  /-- Its answer is delivered at no other node than the one that asked. -/
  answered : ∀ r ∈ log, ∀ j c ack i d, r.Answers j c ack →
    c.RequestTo D m.originations i d →
    ∀ r' ∈ log, ∀ j' c', r'.Delivers j' c' → c'.tag.origin = ack.tag.origin → j' = i

/-- **The condition on a step**: if a node originates a request to a node,
neither of the two has the id that stands for all nodes. -/
def BetweenUnicastIds (D : Deployment ι) : MeshAct ι → Prop
  | .originate i (.application dst (.configSet _)) => (∃ d, D.nodeId d = dst) →
    dst ≠ TS_ROUTING_BROADCAST_ADDR ∧ D.nodeId i ≠ TS_ROUTING_BROADCAST_ADDR
  | _ => True

/-! ## One step of a node -/

section NodeStep

variable {τ : Type} {P : Platform} {n n' : Node τ} {a : NodeAct τ} {es : List (NodeEvent τ)}

/-- **What is applied** was received, is for the node, and is a request; what
is originated with it goes to its source. -/
theorem Node.Step.of_configApplied_mem (hs : Step P n a n' es) {c : Copy τ}
    (hmem : .configApplied c ∈ es) :
    n.rx.received = some c ∧ tsRoutingIsForUs n.routing c.msg.route = true
      ∧ (∃ req, c.msg.data = .configSet req)
      ∧ ∀ ack, .originated ack ∈ es → ack.msg.route.dst = c.msg.route.src := by
  cases hs with
  | configured hrx hfor hdata config cfgRet hset route hroute =>
    rcases List.mem_cons.mp hmem with heq | hmem
    · cases heq
      refine ⟨by rw [hrx]; rfl, hfor, ⟨_, hdata⟩, fun ack hack => ?_⟩
      rcases List.mem_cons.mp hack with heq | hack
      · cases heq
      · cases List.mem_singleton.mp hack
        show route.dst = _
        rw [hroute]
        rfl
    · cases List.mem_singleton.mp hmem
  | _ => simp at hmem

/-- **What is delivered** was received and is for the node. -/
theorem Node.Step.of_delivered_mem (hs : Step P n a n' es) {c : Copy τ}
    (hmem : .delivered c ∈ es) :
    n.rx.received = some c ∧ tsRoutingIsForUs n.routing c.msg.route = true := by
  cases hs with
  | delivered hrx hfor hdata =>
    cases List.mem_singleton.mp hmem
    exact ⟨by rw [hrx]; rfl, hfor⟩
  | _ => simp at hmem

/-- **A configuration changes by requests.** -/
theorem Node.Step.config_cases (hs : Step P n a n' es) :
    n'.config = n.config ∨ ∃ c, .configApplied c ∈ es := by
  cases hs with
  | configured => exact Or.inr ⟨_, List.mem_cons_self⟩
  | _ => exact Or.inl rfl

/-- **A request that is originated** is an application's. -/
theorem Node.Step.of_originated_configSet (hs : Step P n a n' es) {c : Copy τ}
    (hmem : .originated c ∈ es) {req : TsMsgConfigSet} (hreq : c.msg.data = .configSet req) :
    ∃ tag, a = .originate (.application c.msg.route.dst (.configSet req)) tag := by
  cases hs with
  | @originated content tag hidle route hroute =>
    cases List.mem_singleton.mp hmem
    cases content with
    | application dst data =>
      obtain rfl : data = .configSet req := hreq
      rw [hroute]
      exact ⟨tag, rfl⟩
    | heartbeat now => cases hreq
    | sensor now temperature humidity pressure => cases hreq
  | configured hrx hfor hdata config cfgRet hset route hroute =>
    rcases List.mem_cons.mp hmem with heq | hmem
    · cases heq
    · cases List.mem_singleton.mp hmem
      cases hreq
  | _ => simp at hmem

end NodeStep

/-! ## One step of the mesh -/

/-- **The message goes back to one that was sent to node `j` or to all
nodes.** -/
def Copy.SentTo (D : Deployment ι) (originations : List (ι × TsMsgLoraOutgoing))
    (c : Copy (Trail ι)) (j : ι) : Prop :=
  ∃ own, originations[c.tag.origin]? = some own
    ∧ (own.2.route.dst = D.nodeId j ∨ own.2.route.dst = TS_ROUTING_BROADCAST_ADDR)

/-- **The message was answered** by node `j`: the answer goes back to an
origination of that node, which is sent to the source of the request. -/
def Copy.AnsweredBy (originations : List (ι × TsMsgLoraOutgoing)) (c ack : Copy (Trail ι))
    (j : ι) : Prop :=
  ∃ own, originations[c.tag.origin]? = some own
    ∧ originations[ack.tag.origin]? = some (j, ack.msg)
    ∧ ack.msg.route.dst = own.2.route.src

/-- **What a record shows of the requests in it**: what changes a
configuration, and where the messages that are applied, delivered and
answered go back to. -/
structure MeshRecord.Fits (D : Deployment ι) (originations : List (ι × TsMsgLoraOutgoing))
    (r : MeshRecord ι) : Prop where
  changed : ∀ j, (r.after.nodes j).config.live ≠ (r.before.nodes j).config.live →
    .restarted j ∈ r.events ∨ ∃ c, r.Applies j c
  applied : ∀ j c, r.Applies j c → c.SentTo D originations j
  delivered : ∀ j c, r.Delivers j c → c.SentTo D originations j
  answered : ∀ j c ack, r.Answers j c ack → c.AnsweredBy originations ack j

theorem Copy.SentTo.append {D : Deployment ι} {originations : List (ι × TsMsgLoraOutgoing)}
    {c : Copy (Trail ι)} {j : ι} (h : c.SentTo D originations j)
    (new : List (ι × TsMsgLoraOutgoing)) : c.SentTo D (originations ++ new) j := by
  obtain ⟨own, hown, hdst⟩ := h
  exact ⟨own, getElem?_append_of_eq_some hown new, hdst⟩

/-- A record fits a longer list of originations. -/
theorem MeshRecord.Fits.append {D : Deployment ι} {originations : List (ι × TsMsgLoraOutgoing)}
    {r : MeshRecord ι} (h : r.Fits D originations) (new : List (ι × TsMsgLoraOutgoing)) :
    r.Fits D (originations ++ new) where
  changed := h.changed
  applied := fun j c hc => (h.applied j c hc).append new
  delivered := fun j c hc => (h.delivered j c hc).append new
  answered := fun j c ack hc => by
    obtain ⟨own, hown, hack, hdst⟩ := h.answered j c ack hc
    exact ⟨own, getElem?_append_of_eq_some hown new, getElem?_append_of_eq_some hack new,
      hdst⟩

section MeshStep

variable {D : Deployment ι} {m m' : Mesh ι} {es : List (MeshEvent ι)} {i : ι}
  {act : NodeAct (Trail ι)} {n' : Node (Trail ι)} {nes : List (NodeEvent (Trail ι))}
  {c : Copy (Trail ι)}

/-- **A received message that is for the node** was sent to it or to all. -/
theorem MeshInv.sentTo (h : MeshInv D m es) (hrx : (m.nodes i).rx.received = some c)
    (hfor : tsRoutingIsForUs (m.nodes i).routing c.msg.route = true) :
    c.SentTo D m.originations i := by
  obtain ⟨own, hown, hcopy, -⟩ := (h.carries i).received c hrx
  have hdst := tsRoutingIsForUs_iff.mp hfor
  rw [hcopy.dst, h.selfId i] at hdst
  exact ⟨own, hown, hdst⟩

/-- **An answer** goes to the source of the request, under the next
origination. -/
theorem MeshInv.answeredBy (h : MeshInv D m es) {a : MeshAct ι}
    (hact : a.nodeAct m = some (i, act)) (hstep : Step (D.platform i) (m.nodes i) act n' nes)
    (hc : .configApplied c ∈ nes) {ack : Copy (Trail ι)} (hack : .originated ack ∈ nes) :
    c.AnsweredBy (m.originations ++ nes.filterMap (origination i)) ack i := by
  obtain ⟨hrx, -, -, hdst⟩ := hstep.of_configApplied_mem hc
  obtain ⟨own, hown, hcopy, -⟩ := (h.carries i).received c hrx
  obtain ⟨hnew, htag, -, -⟩ := h.originated hact hstep hack
  refine ⟨own, getElem?_append_of_eq_some hown _, ?_, (hdst ack hack).trans hcopy.src⟩
  rw [hnew, htag]
  exact List.getElem?_concat_length

variable [DecidableEq ι]

/-- **The record of a step fits** the originations after it. -/
theorem MeshInv.record_fits (h : MeshInv D m es) {a : MeshAct ι} {mes : List (MeshEvent ι)}
    (hs : MeshStep D m a m' mes) : MeshRecord.Fits D m'.originations ⟨m, mes, m'⟩ := by
  cases hs with
  | @node i act n' nes hact hstep =>
    refine ⟨fun j hne => ?_, fun j c hc => ?_, fun j c hc => ?_, fun j c ack hc => ?_⟩
    · by_cases hji : j = i
      · subst hji
        dsimp only at hne
        rw [Mesh.apply_nodes_self] at hne
        rcases hstep.config_cases with hsame | ⟨c, hc⟩
        · exact absurd (congrArg ConfigState.live hsame) hne
        · exact Or.inr ⟨c, mem_heard_append.mpr ⟨rfl, hc⟩⟩
      · dsimp only at hne
        rw [Mesh.apply_nodes_of_ne hji] at hne
        exact absurd rfl hne
    · obtain ⟨rfl, hmem⟩ := mem_heard_append.mp hc
      obtain ⟨hrx, hfor, -, -⟩ := hstep.of_configApplied_mem hmem
      exact (h.sentTo hrx hfor).append _
    · obtain ⟨rfl, hmem⟩ := mem_heard_append.mp hc
      obtain ⟨hrx, hfor⟩ := hstep.of_delivered_mem hmem
      exact (h.sentTo hrx hfor).append _
    · obtain ⟨rfl, hmem⟩ := mem_heard_append.mp hc.1
      exact h.answeredBy hact hstep hmem (mem_heard_append.mp hc.2).2
  | @restarted i order hact hperm hid =>
    -- a restart hears nothing and publishes nothing
    have hnone : ∀ {j e}, MeshEvent.node j e ∉ [MeshEvent.restarted i] := by simp
    refine ⟨fun j hne => Or.inl ?_, fun j c hc => absurd hc hnone, fun j c hc => absurd hc hnone,
      fun j c ack hc => absurd hc.1 hnone⟩
    by_cases hji : j = i
    · rw [hji]
      exact List.mem_cons_self
    · dsimp only at hne
      rw [Mesh.restart_nodes_of_ne hji] at hne
      exact absurd rfl hne

end MeshStep

/-! ## A run of the mesh -/

/-- **The requests to a node** are between ids that are not everyone's. -/
def UnicastRequests (D : Deployment ι) (originations : List (ι × TsMsgLoraOutgoing)) : Prop :=
  ∀ i msg d, (i, msg) ∈ originations → (∃ req, msg.data = .configSet req) →
    msg.route.dst = D.nodeId d →
    msg.route.dst ≠ TS_ROUTING_BROADCAST_ADDR ∧ D.nodeId i ≠ TS_ROUTING_BROADCAST_ADDR

/-- **The invariant**: what the log shows goes back to the originations, and
the requests among these are between unicast ids. -/
structure UnicastInv (D : Deployment ι) (m : Mesh ι) (log : List (MeshRecord ι)) : Prop where
  provenance : ∃ es, MeshInv D m es
  requests : UnicastRequests D m.originations
  fits : ∀ r ∈ log, r.Fits D m.originations

theorem unicastInv_boot (D : Deployment ι) : UnicastInv D D.boot [] where
  provenance := ⟨[], meshInv_boot D⟩
  requests := fun _ _ _ h => nomatch h
  fits := fun _ h => nomatch h

/-- **What the invariant says of a request**: with ids that are pairwise
distinct, a message that was sent to a node, and not to all, was sent to no
other. -/
theorem UnicastInv.unicastOnly {D : Deployment ι} {m : Mesh ι} {log : List (MeshRecord ι)}
    (h : UnicastInv D m log) (hids : Function.Injective D.nodeId) : UnicastOnly D m log := by
  obtain ⟨es, hinv⟩ := h.provenance
  refine ⟨fun r hr => (h.fits r hr).changed, fun r hr j c i d hc hreq => ?_,
    fun r hr j c ack i d hc hreq r' hr' j' c' hc' horigin => ?_⟩
  all_goals
    obtain ⟨msg, hmsg, hset, hdst⟩ := hreq
    obtain ⟨hunicast, hasker⟩ := h.requests i msg d (List.mem_of_getElem? hmsg) hset hdst
  · obtain ⟨own, hown, hto⟩ := (h.fits r hr).applied j c hc
    cases hmsg.symm.trans hown
    exact hids ((hto.resolve_right hunicast).symm.trans hdst)
  · obtain ⟨own, hown, hack, hback⟩ := (h.fits r hr).answered j c ack hc
    cases hmsg.symm.trans hown
    obtain ⟨own', hown', hto⟩ := (h.fits r' hr').delivered j' c' hc'
    rw [horigin] at hown'
    cases hack.symm.trans hown'
    -- the answer is sent to the id of the node that asked
    have hsrc := hback.trans (hinv.originator (i, msg) (List.mem_of_getElem? hmsg))
    rw [hsrc] at hto
    exact hids (hto.resolve_right hasker).symm

variable [DecidableEq ι]

/-- The record of a step. -/
def meshRecord (D : Deployment ι) (m : Mesh ι) (a : MeshAct ι) : List (MeshRecord ι) :=
  (meshStep D m a).elim [] (fun m' => [⟨m, meshEvents D m a, m'⟩])

/-- **The record of a run** from boot. -/
def meshLog (D : Deployment ι) (acts : List (MeshAct ι)) : List (MeshRecord ι) :=
  trace (meshStep D) (meshRecord D) D.boot acts

variable {D : Deployment ι} {m m' : Mesh ι} {log : List (MeshRecord ι)} {a : MeshAct ι}
  {mes : List (MeshEvent ι)}

/-- A step adds no request that is not between unicast ids. -/
theorem UnicastRequests.step (h : UnicastRequests D m.originations)
    (ha : BetweenUnicastIds D a) (hs : MeshStep D m a m' mes) :
    UnicastRequests D m'.originations := by
  cases hs with
  | @node i act n' nes hact hstep =>
    rintro i' msg d hmem ⟨req, hreq⟩ hdst
    rcases List.mem_append.mp hmem with hmem | hmem
    · exact h i' msg d hmem ⟨req, hreq⟩ hdst
    · obtain ⟨c, hc, heq⟩ := mem_filterMap_origination.mp hmem
      cases heq
      obtain ⟨tag, rfl⟩ := hstep.of_originated_configSet hc hreq
      obtain ⟨rfl, -⟩ := nodeAct_eq_originate hact
      exact ha ⟨d, hdst.symm⟩
  | restarted => exact h

/-- **Every step between unicast ids keeps the invariant.** -/
theorem UnicastInv.step (h : UnicastInv D m log) (ha : BetweenUnicastIds D a)
    (hs : MeshStep D m a m' mes) : UnicastInv D m' (log ++ [⟨m, mes, m'⟩]) := by
  obtain ⟨es, hinv⟩ := h.provenance
  have hlonger : ∃ new, m'.originations = m.originations ++ new := by
    cases hs with
    | node => exact ⟨_, rfl⟩
    | restarted => exact ⟨[], (List.append_nil _).symm⟩
  obtain ⟨new, hnew⟩ := hlonger
  refine ⟨⟨_, hinv.step hs⟩, h.requests.step ha hs, fun r hr => ?_⟩
  rcases List.mem_append.mp hr with hr | hr
  · rw [hnew]
    exact (h.fits r hr).append new
  · cases List.mem_singleton.mp hr
    exact hinv.record_fits hs

/-- **A unicast configuration change reaches one node only.** In every run of
a mesh whose nodes have pairwise distinct ids, if no request to a node is
originated with the id of all nodes at either end: live configurations change
by requests that were sent to their nodes, and the acknowledgement that
answers such a request is delivered at no other node than the one that
originated it. -/
theorem unicast_config_only (hids : Function.Injective D.nodeId) {acts : List (MeshAct ι)}
    (hin : AllSteps (meshStep D) (fun _ => BetweenUnicastIds D) D.boot acts)
    (hrun : run (meshStep D) D.boot acts = some m) : UnicastOnly D m (meshLog D acts) := by
  have hinv : UnicastInv D m ([] ++ meshLog D acts) := by
    refine run_history_of_allSteps (J := UnicastInv D) ?_ (unicastInv_boot D) hin hrun
    intro m log a m' h ha hs
    rw [meshRecord, hs]
    exact h.step ha (MeshStep.of_meshStep hs)
  exact hinv.unicastOnly hids

/-- Three nodes of which the first has id 1 and the last id 3. -/
def numberedNodes (middle : Int32) : Deployment Trio :=
  threeNodes (fun
    | .near => ConfigState.empty
    | .middle => configuredWith (cstr "node_id") middle
    | .far => configuredWith (cstr "node_id") 3)

/-- The first node asks a node to start with a TTL of 3, and the last one hears
it. -/
def asksForTtl (dst : UInt16) : List (MeshAct Trio) :=
  sendsOwn .near (.application dst (.configSet ⟨KeyBuf.ofText (cstr "routing_ttl"), 3⟩))
    ++ [.receive .far 0 (-80) 5 61, .deliver .far 0]

/-- The last node is asked, and nobody else. -/
theorem unicast_config_only_far : ∃ m,
    run (meshStep (numberedNodes 2)) (numberedNodes 2).boot (asksForTtl 3) = some m
      ∧ (m.nodes .far).cfg.routingTtl = 3
      ∧ UnicastOnly (numberedNodes 2) m (meshLog (numberedNodes 2) (asksForTtl 3)) := by
  have hrun : (run (meshStep (numberedNodes 2)) (numberedNodes 2).boot (asksForTtl 3)).map
      (fun m => (m.nodes .far).cfg.routingTtl) = some 3 := by decide +kernel
  obtain ⟨m, hm, httl⟩ := Option.map_eq_some_iff.mp hrun
  have hids : Function.Injective (numberedNodes 2).nodeId :=
    injective_trio (by decide +kernel) (by decide +kernel) (by decide +kernel)
  have hin : ∀ a ∈ asksForTtl 3, BetweenUnicastIds (numberedNodes 2) a := by
    simp only [asksForTtl, sendsOwn, List.cons_append, List.nil_append, List.forall_mem_cons]
    exact ⟨fun _ => ⟨by decide, by decide +kernel⟩, trivial, trivial, trivial, trivial, trivial,
      trivial, nofun⟩
  exact ⟨m, hm, httl, unicast_config_only hids (allSteps_of_forall _ hin) hm⟩

/-- A request that a node applies, by its origination. -/
def appliedAt : MeshEvent Trio → Option (Trio × ℕ)
  | .node j (.configApplied c) => some (j, c.tag.origin)
  | _ => none

/-- **A request to the node with id 0xFFFF is applied by node 3.** -/
theorem request_to_0xFFFF_applied_elsewhere :
    (tsConfigSet ConfigState.empty (cstr "node_id") 0xFFFF 0).2 = 0
      ∧ Function.Injective (numberedNodes 0xFFFF).nodeId
      ∧ (numberedNodes 0xFFFF).nodeId .middle = 0xFFFF
      ∧ ∃ m, run (meshStep (numberedNodes 0xFFFF)) (numberedNodes 0xFFFF).boot
          (asksForTtl 0xFFFF) = some m
        ∧ (m.nodes .far).cfg.routingTtl = 3
        ∧ ¬ UnicastOnly (numberedNodes 0xFFFF) m
          (meshLog (numberedNodes 0xFFFF) (asksForTtl 0xFFFF)) := by
  have hmiddle : (numberedNodes 0xFFFF).nodeId .middle = 0xFFFF := by decide +kernel
  have hrun : (run (meshStep (numberedNodes 0xFFFF)) (numberedNodes 0xFFFF).boot
      (asksForTtl 0xFFFF)).map (fun m => ((m.nodes .far).cfg.routingTtl, m.originations[0]?))
        = some (3, some (.near, ⟨⟨1, 0xFFFF, 0, 5, 0⟩,
          .configSet ⟨KeyBuf.ofText (cstr "routing_ttl"), 3⟩⟩)) := by decide +kernel
  have hlog : ((meshLog (numberedNodes 0xFFFF) (asksForTtl 0xFFFF)).flatMap
      MeshRecord.events).filterMap appliedAt = [(.far, 0)] := by decide +kernel
  obtain ⟨m, hm, hfacts⟩ := Option.map_eq_some_iff.mp hrun
  obtain ⟨httl, horigin⟩ := Prod.mk.inj hfacts
  refine ⟨by decide, injective_trio (by decide +kernel) (by decide +kernel) (by decide +kernel),
    hmiddle, m, hm, httl, fun honly => ?_⟩
  obtain ⟨e, he, happlied⟩ := List.mem_filterMap.mp (hlog ▸ List.mem_cons_self)
  obtain ⟨r, hr, hre⟩ := List.mem_flatMap.mp he
  unfold appliedAt at happlied
  split at happlied
  · next j c =>
    obtain ⟨rfl, hzero⟩ := Prod.mk.inj (Option.some.inj happlied)
    have hmsg := (congrArg (fun k => m.originations[k]?) hzero).trans horigin
    have hrequest : c.RequestTo (numberedNodes 0xFFFF) m.originations .near .middle :=
      ⟨_, hmsg, ⟨_, rfl⟩, hmiddle.symm⟩
    cases honly.applied r hr .far c .near .middle hre hrequest
  · cases happlied

end Terrascope
