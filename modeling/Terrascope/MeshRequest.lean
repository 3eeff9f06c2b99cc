import Terrascope.ConfigExchange
import Terrascope.UnicastConfig

/-!
# What an acknowledgement says

A node that asks another to change its configuration learns from the
acknowledgement alone whether it did. The acknowledgement carries the key and
the value of the request and what `ts_config_set` returned, and is found by
its source and its destination; nothing in it names the request.

`ack_answers_request` says that it can be relied on all the same. Whenever a
node delivers an acknowledgement, that node itself had originated a request
with this key and value, a copy of it had reached the node the
acknowledgement is from, and what it says is what `ts_config_set` returned
there – if no application makes acknowledgements up and no node has the id
of all nodes.
-/

namespace Terrascope

open Node Transition

/-! ## One step of a node -/

section NodeStep

variable {τ : Type} {P : Platform} {n n' : Node τ} {a : NodeAct τ} {es : List (NodeEvent τ)}

/-- **An acknowledgement that is originated** is an application's, or answers
the request applied in the same step. -/
theorem Node.Step.of_originated_configAck (hs : Step P n a n' es) {c : Copy τ}
    (hmem : .originated c ∈ es) {ack : TsMsgConfigAck} (hack : c.msg.data = .configAck ack) :
    (∃ tag, a = .originate (.application c.msg.route.dst (.configAck ack)) tag)
      ∨ ∃ saveRet request req, .configApplied request ∈ es
        ∧ n.rx.received = some request ∧ request.msg.data = .configSet req
        ∧ c.msg.route.dst = request.msg.route.src
        ∧ tsConfigSet n.config req.key.cstr req.value saveRet = (n'.config, ack.result)
        ∧ ack.key = KeyBuf.ofText (req.key.cstr.take (TS_MSG_CONFIG_KEY_MAX - 1))
        ∧ ack.value = req.value := by
  cases hs with
  | @originated content tag hidle route hroute =>
    cases List.mem_singleton.mp hmem
    cases content with
    | application dst data =>
      obtain rfl : data = .configAck ack := hack
      rw [hroute]
      exact Or.inl ⟨tag, rfl⟩
    | heartbeat now => cases hack
    | sensor now temperature humidity pressure => cases hack
  | configured hrx hfor hdata config cfgRet hset route hroute =>
    rcases List.mem_cons.mp hmem with heq | hmem
    · cases heq
    · cases List.mem_singleton.mp hmem
      obtain rfl := TsMsgData.configAck.inj hack
      refine Or.inr ⟨_, _, _, List.mem_cons_self, by rw [hrx]; rfl, hdata, ?_, hset, rfl, rfl⟩
      show route.dst = _
      rw [hroute]
      rfl
  | _ => simp at hmem

end NodeStep

/-! ## The answer to a request -/

variable {ι : Type}

/-- **The condition on a step**: an application does not make up an
acknowledgement. -/
def MeshAct.Genuine : MeshAct ι → Prop
  | .originate _ (.application _ (.configAck _)) => False
  | _ => True

/-- **Node `i` answers a request in the step by the message**: the request is a
copy of one that a node originated before, the message goes to the source of
the request, and what it says is what `ts_config_set` was called with and what
it returned. -/
structure MeshRecord.AnswersWith (D : Deployment ι) (r : MeshRecord ι) (i : ι)
    (msg : TsMsgLoraOutgoing) (ack : TsMsgConfigAck) (own : ι × TsMsgLoraOutgoing)
    (path : List ι) (request : TsMsgLoraOutgoing) (req : TsMsgConfigSet) : Prop where
  applied : ∃ tag, .node i (.configApplied ⟨request, tag⟩) ∈ r.events
  isRequest : request.data = .configSet req
  /-- The request was originated before the step. -/
  requested : own ∈ r.before.originations
  copy : CopyOf own path request
  requester : D.nodeId own.1 = request.route.src
  to_requester : msg.route.dst = request.route.src
  key : ack.key.cstr = req.key.cstr
  value : ack.value = req.value
  result : ∃ saveRet, tsConfigSet (r.before.nodes i).config req.key.cstr req.value saveRet
    = ((r.after.nodes i).config, ack.result)

/-- **Every acknowledgement originated so far answers a request.** -/
def AcksAnswer (D : Deployment ι) (originations : List (ι × TsMsgLoraOutgoing))
    (log : List (MeshRecord ι)) : Prop :=
  ∀ own ∈ originations, ∀ ack, own.2.data = .configAck ack →
    ∃ r ∈ log, ∃ asked path request req,
      r.AnswersWith D own.1 own.2 ack asked path request req

variable [DecidableEq ι] {D : Deployment ι} {m m' : Mesh ι}

/-- Every request received is a C string's. -/
theorem keyTerminated_run {acts : List (MeshAct ι)} (hrun : run (meshStep D) D.boot acts = some m)
    {j : ι} {c : Copy (Trail ι)} (hc : (m.nodes j).rx.received = some c) :
    c.msg.data.KeyTerminated :=
  (received_run (R := fun c => c.msg.data.KeyTerminated)
    (fun _ _ _ _ _ _ _ hparse => keyTerminated_of_loraInParse hparse) hrun j).received c hc

/-- **A step adds no acknowledgement but answers.** -/
theorem AcksAnswer.step {es mes : List (MeshEvent ι)} {log : List (MeshRecord ι)} {a : MeshAct ι}
    (h : AcksAnswer D m.originations log) (hm : MeshInv D m es)
    (hkey : ∀ j c, (m.nodes j).rx.received = some c → c.msg.data.KeyTerminated)
    (ha : a.Genuine) (hs : MeshStep D m a m' mes) :
    AcksAnswer D m'.originations (log ++ [⟨m, mes, m'⟩]) := by
  have hbefore : ∀ own ∈ m.originations, ∀ ack, own.2.data = .configAck ack →
      ∃ r ∈ log ++ [⟨m, mes, m'⟩], ∃ asked path request req,
        r.AnswersWith D own.1 own.2 ack asked path request req := fun own hown ack hack => by
    obtain ⟨r, hr, hanswers⟩ := h own hown ack hack
    exact ⟨r, List.mem_append_left _ hr, hanswers⟩
  cases hs with
  | @node i act n' nes hact hstep =>
    intro own hown ack hack
    rcases List.mem_append.mp hown with hown | hown
    · exact hbefore own hown ack hack
    · obtain ⟨c, hc, rfl⟩ := mem_filterMap_origination.mp hown
      rcases hstep.of_originated_configAck hc hack with
        ⟨tag, rfl⟩ | ⟨saveRet, request, req, happlied, hrx, hreq, hdst, hset, hkeyBuf, hvalue⟩
      · obtain ⟨rfl, -⟩ := nodeAct_eq_originate hact
        exact absurd ha id
      · obtain ⟨asked, hasked, hcopy, -⟩ := (hm.carries i).received request hrx
        have hown := List.mem_of_getElem? hasked
        have hterm : req.key.Terminated := by
          have hterm := hkey i request hrx
          rwa [hreq] at hterm
        refine ⟨_, List.mem_append_right _ (List.mem_singleton.mpr rfl), asked, request.tag.path,
          request.msg, req, ⟨request.tag, mem_heard_append.mpr ⟨rfl, happlied⟩⟩, hreq, hown, hcopy,
          ?_, hdst, ?_, hvalue, saveRet, ?_⟩
        · rw [hcopy.src, hm.originator asked hown]
        · rw [hkeyBuf]
          exact cstr_ackKey (KeyBuf.length_cstr_lt hterm)
        · rw [Mesh.apply_nodes_self]
          exact hset
  | restarted => exact hbefore

/-- … and so does a run. -/
theorem acksAnswer_run {acts : List (MeshAct ι)} (hacts : ∀ a ∈ acts, a.Genuine)
    (hrun : run (meshStep D) D.boot acts = some m) :
    AcksAnswer D m.originations (meshLog D acts) := by
  let Reached (m : Mesh ι) : Prop := ∃ pre, run (meshStep D) D.boot pre = some m
  have hstep : ∀ m log a m', Reached m ∧ AcksAnswer D m.originations log → a.Genuine →
      meshStep D m a = some m' →
      Reached m' ∧ AcksAnswer D m'.originations (log ++ meshRecord D m a) := by
    rintro m log a m' ⟨⟨pre, hpre⟩, h⟩ ha hs
    refine ⟨⟨pre ++ [a], run_append_eq_some.mpr ⟨m, hpre, run_cons_eq_some.mpr ⟨m', hs, rfl⟩⟩⟩, ?_⟩
    rw [meshRecord, hs]
    exact h.step (meshInv_run hpre) (fun _ _ hc => keyTerminated_run hpre hc) ha
      (MeshStep.of_meshStep hs)
  have hboot : Reached D.boot ∧ AcksAnswer D D.boot.originations [] :=
    ⟨⟨[], rfl⟩, fun own hown => absurd hown List.not_mem_nil⟩
  exact (run_history_of_allSteps (P := fun _ a => a.Genuine)
    (J := fun m log => Reached m ∧ AcksAnswer D m.originations log) hstep hboot
    (allSteps_of_forall _ hacts) hrun).2

/-- **An acknowledgement answers a request of the node it is delivered at, and
says what happened to it.** In every run of a mesh whose nodes have pairwise
distinct ids, none the id of all nodes, and in which no application originates
an acknowledgement: when node `j` delivers one, there was a step of the run
in which the node it is from applied a request that `j` itself had
originated, with the key and the value of the acknowledgement, and in which
`ts_config_set` returned its result. -/
theorem ack_answers_request (hids : Function.Injective D.nodeId)
    (hall : ∀ i, D.nodeId i ≠ TS_ROUTING_BROADCAST_ADDR) {acts : List (MeshAct ι)}
    (hacts : ∀ a ∈ acts, a.Genuine) (hrun : run (meshStep D) D.boot acts = some m)
    {a : MeshAct ι} (hs : meshStep D m a = some m') {j : ι} {c : Copy (Trail ι)}
    (hdelivered : .node j (.delivered c) ∈ meshEvents D m a) {ack : TsMsgConfigAck}
    (hack : c.msg.data = .configAck ack) :
    ∃ r ∈ meshLog D acts, ∃ i asked tag request req saveRet,
      D.nodeId i = c.msg.route.src
        ∧ .node i (.configApplied ⟨request, tag⟩) ∈ r.events
        ∧ request.data = .configSet req
        ∧ (j, asked) ∈ r.before.originations
        ∧ asked.data.Agrees request.data ∧ asked.route.id = request.route.id
        ∧ asked.route.dst = request.route.dst
        ∧ ack.key.cstr = req.key.cstr ∧ ack.value = req.value
        ∧ tsConfigSet (r.before.nodes i).config req.key.cstr req.value saveRet
          = ((r.after.nodes i).config, ack.result) := by
  have hm := meshInv_run hrun
  have hstep := MeshStep.of_meshStep hs
  generalize meshEvents D m a = mes at hstep hdelivered
  cases hstep with
  | @node l act n' nes hact hstep =>
    obtain ⟨rfl, hmem⟩ := mem_heard_append.mp hdelivered
    obtain ⟨hrx, hfor⟩ := hstep.of_delivered_mem hmem
    -- the acknowledgement as it was originated
    obtain ⟨own, hown, hcopy, -⟩ := (hm.carries j).received c hrx
    have hmemOwn := List.mem_of_getElem? hown
    have hagrees := hcopy.data
    rw [hack] at hagrees
    obtain ⟨ack', hack', hkey', hvalue', hresult'⟩ : ∃ ack', own.2.data = .configAck ack'
        ∧ ack'.key.cstr = ack.key.cstr ∧ ack'.value = ack.value ∧ ack'.result = ack.result := by
      cases hdata : own.2.data with
      | configAck ack' =>
        rw [hdata] at hagrees
        exact ⟨ack', rfl, hagrees⟩
      | _ =>
        rw [hdata] at hagrees
        exact absurd hagrees id
    -- and the request it was originated for
    obtain ⟨r, hr, asked, path, request, req, hanswers⟩ :=
      acksAnswer_run hacts hrun own hmemOwn ack' hack'
    obtain ⟨tag, happlied⟩ := hanswers.applied
    obtain ⟨saveRet, hset⟩ := hanswers.result
    have hback : c.msg.route.dst = D.nodeId asked.1 := by
      rw [hcopy.dst, hanswers.to_requester, hanswers.requester]
    have hj : asked.1 = j := by
      rcases tsRoutingIsForUs_iff.mp hfor with hself | hbroadcast
      · rw [hm.selfId j] at hself
        exact hids (hback.symm.trans hself)
      · exact absurd (hback.symm.trans hbroadcast) (hall asked.1)
    refine ⟨r, hr, own.1, asked.2, tag, request, req, saveRet, ?_, happlied, hanswers.isRequest,
      hj ▸ hanswers.requested, hanswers.copy.data, ?_, hanswers.copy.dst.symm, ?_, ?_, ?_⟩
    · rw [hcopy.src, hm.originator own hmemOwn]
    · exact Prod.ext hanswers.copy.src.symm hanswers.copy.msgId.symm
    · rw [← hkey', hanswers.key]
    · rw [← hvalue', hanswers.value]
    · rw [hset, hresult']
  | restarted => cases List.mem_singleton.mp hdelivered

/-- The first node asks the last one to start with a TTL of 3, and the answer
reaches it. -/
def asksAndHears : List (MeshAct Trio) :=
  asksForTtl 3 ++ [.inner .far .publishAck, .inner .far .outWait, .inner .far .outRead,
    .inner .far .outSend, .receive .near 1 (-80) 5 62]

/-- A delivered acknowledgement. -/
def deliveredAck : MeshEvent Trio → Option (Trio × TsMsgConfigAck)
  | .node j (.delivered ⟨⟨_, .configAck ack⟩, _⟩) => some (j, ack)
  | _ => none

/-- It says that the last node starts with a TTL of 3 now. -/
theorem ack_answers_request_far :
    ∃ r ∈ meshLog (numberedNodes 2) asksAndHears, ∃ i asked saveRet,
      (Trio.near, asked) ∈ r.before.originations
        ∧ tsConfigSet (r.before.nodes i).config (cstr "routing_ttl") 3 saveRet
          = ((r.after.nodes i).config, 0) := by
  have heval : (run (meshStep (numberedNodes 2)) (numberedNodes 2).boot asksAndHears).map
      (fun m => ((meshStep (numberedNodes 2) m (.deliver .near 0)).isSome,
        (meshEvents (numberedNodes 2) m (.deliver .near 0)).filterMap deliveredAck))
      = some (true, [(.near, ⟨KeyBuf.ofText (cstr "routing_ttl"), 3, 0⟩)]) := by decide +kernel
  obtain ⟨m, hrun, hfacts⟩ := Option.map_eq_some_iff.mp heval
  obtain ⟨hsome, hack⟩ := Prod.mk.inj hfacts
  obtain ⟨m', hs⟩ := Option.isSome_iff_exists.mp hsome
  obtain ⟨e, he, hdelivered⟩ := List.mem_filterMap.mp (hack ▸ List.mem_cons_self)
  unfold deliveredAck at hdelivered
  split at hdelivered
  · next j route ack tag =>
    obtain ⟨rfl, rfl⟩ := Prod.mk.inj (Option.some.inj hdelivered)
    have hids : Function.Injective (numberedNodes 2).nodeId :=
      injective_trio (by decide +kernel) (by decide +kernel) (by decide +kernel)
    have hall : ∀ i, (numberedNodes 2).nodeId i ≠ TS_ROUTING_BROADCAST_ADDR := by
      intro i
      cases i <;> decide +kernel
    have hacts : ∀ a ∈ asksAndHears, a.Genuine := by
      simp only [asksAndHears, asksForTtl, sendsOwn, List.cons_append, List.nil_append,
        List.forall_mem_cons]
      exact ⟨trivial, trivial, trivial, trivial, trivial, trivial, trivial, trivial, trivial,
        trivial, trivial, trivial, fun _ ha => absurd ha List.not_mem_nil⟩
    obtain ⟨r, hr, i, asked, tag', request, req, saveRet, -, -, -, hasked, -, -, -, hkey, hvalue,
      hset⟩ := ack_answers_request hids hall hacts hrun hs he rfl
    have hname : req.key.cstr = cstr "routing_ttl" := by
      rw [← hkey]
      decide
    rw [hname, ← hvalue] at hset
    exact ⟨r, hr, i, asked, saveRet, hasked, hset⟩
  · cases hdelivered

end Terrascope
