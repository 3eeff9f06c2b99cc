import Terrascope.NodeFlow
import Terrascope.RemoteConfig
import Terrascope.Simulation

/-!
# The configuration exchange

Seen from the other nodes, the configuration of a node is a small server. It
takes the requests it has accepted one after the other, applies each by
`ts_config_set` to what the one before left, and answers it (`serve`).

`FaithfulHistory` says that the receive task is this server: at any time of
any run the live configuration is the outcome of the requests served, the
answers published are what serving them returned, and nothing that happens
meanwhile – floods, duplicates, acknowledgements of other exchanges – adds to
either.
-/

namespace Terrascope

open Transition Node Simulation

/-! ## The server -/

/-- **A request**: who asks, and for which key to have which value. -/
structure ConfigRequest where
  src : UInt16
  key : CString
  value : Int32
deriving DecidableEq

/-- **An answer**: who is answered, the key and the value asked for, and what
came of it. -/
structure ConfigAnswer where
  dst : UInt16
  key : CString
  value : Int32
  result : Int32
deriving DecidableEq

/-- **A request is served**: the number that comes with it is what
`settings_save_one` returns if it is called. -/
def serve (config : ConfigState) : ConfigRequest × Int32 → ConfigState × ConfigAnswer
  | (r, saveRet) =>
    let (config', result) := tsConfigSet config r.key r.value saveRet
    (config', ⟨r.src, r.key, r.value, result⟩)

/-! ## The log of a run -/

variable {τ : Type} {P : Platform}

/-- **The log of a run**: what is done, each time with the step that does
it. -/
def nodeLog (P : Platform) (n : Node τ) (acts : List (NodeAct τ)) :
    List (NodeAct τ × NodeEvent τ) :=
  trace (Node.step P) (fun n a => (n.events P a).map (Prod.mk a)) n acts

/-- The request in a message. -/
def configRequest (msg : TsMsgLoraOutgoing) : Option ConfigRequest :=
  match msg.data with
  | .configSet req => some ⟨msg.route.src, req.key.cstr, req.value⟩
  | _ => none

/-- The request in a message to the node or to all nodes. -/
def requestTo (nodeId : UInt16) (msg : TsMsgLoraOutgoing) : Option ConfigRequest :=
  if msg.route.dst = nodeId ∨ msg.route.dst = TS_ROUTING_BROADCAST_ADDR then configRequest msg
  else none

/-- The answer in a message. -/
def configAnswer (msg : TsMsgLoraOutgoing) : Option ConfigAnswer :=
  match msg.data with
  | .configAck a => some ⟨msg.route.dst, a.key.cstr, a.value, a.result⟩
  | _ => none

/-- A request to the node is accepted. -/
def requestedOf (nodeId : UInt16) : NodeAct τ × NodeEvent τ → Option ConfigRequest
  | (_, .accepted c) => requestTo nodeId c.msg
  | _ => none

/-- `ts_config_set` runs, and `settings_save_one` would return `saveRet`. -/
def servedOf : NodeAct τ × NodeEvent τ → Option (ConfigRequest × Int32)
  | (.deliver saveRet _, .configApplied c) => (configRequest c.msg).map (fun r => (r, saveRet))
  | _ => none

/-- An answer is published on `ts_lora_out_chan`, other than by a producer. -/
def answeredOf : NodeAct τ × NodeEvent τ → Option ConfigAnswer
  | (.publishOwn _, _) => none
  | (_, .published c _) => configAnswer c.msg
  | _ => none

/-- The request that was accepted and is not served yet. -/
def Node.pendingRequest (n : Node τ) : List ConfigRequest :=
  match n.rx with
  | .accepted inMsg _ => (requestTo n.routing.selfNodeId inMsg.msg).toList
  | _ => []

/-- The answer that is prepared and not published yet. -/
def Node.pendingAnswer (n : Node τ) : List ConfigAnswer :=
  match n.rx with
  | .acking ack => (configAnswer ack.msg).toList
  | _ => []

/-- **What a message is published for.** -/
inductive Cause (log : List (NodeAct τ × NodeEvent τ)) (c : Copy τ) : Prop where
  /-- It is the forward of an accepted message that is not of the
  configuration kind. -/
  | forward {a : NodeAct τ} {m : Copy τ} (haccepted : (a, .accepted m) ∈ log)
      (hkind : m.msg.data.isConfig = false) (htag : m.tag = c.tag)
      (hfwd : forwardOf m.msg = some c.msg)
  /-- A producer made it. -/
  | own {content : Content} (horiginated : (.originate content c.tag, .originated c) ∈ log)
  /-- It answers a request that was applied. -/
  | answer {saveRet cfgRet : Int32} {m : Copy τ} {req : TsMsgConfigSet} {route : TsRouteHeader}
      (happlied : (.deliver saveRet c.tag, .configApplied m) ∈ log)
      (hreq : m.msg.data = .configSet req) (hack : c.msg = configAckMsg route req cfgRet)

/-- **The history of the exchange is faithful.** -/
structure FaithfulHistory (nodeId : UInt16) (config : ConfigState)
    (log : List (NodeAct τ × NodeEvent τ)) (n : Node τ) : Prop where
  /-- Every request accepted is served once, in the order of acceptance. -/
  requests : log.filterMap (requestedOf nodeId)
    = (log.filterMap servedOf).map Prod.fst ++ n.pendingRequest
  /-- The configuration is the outcome of serving them, and the answers
  published are what serving them returned. -/
  replay : exec serve config (log.filterMap servedOf)
    = (n.config, log.filterMap answeredOf ++ n.pendingAnswer)
  /-- No request is delivered on `ts_lora_in_chan`. -/
  delivers : ∀ a c, (a, .delivered c) ∈ log → ∀ req, c.msg.data ≠ .configSet req
  /-- Nothing is published on `ts_lora_out_chan` for a received
  acknowledgement. -/
  publishes : ∀ a c pub, (a, .published c pub) ∈ log → Cause log c

/-! ## One step of the node -/

/-- A message that is not for the node asks nothing of it. -/
theorem requestTo_of_not_for_us {r : RoutingState} {msg : TsMsgLoraOutgoing}
    (h : tsRoutingIsForUs r msg.route = false) : requestTo r.selfNodeId msg = none :=
  if_neg (fun hdst => Bool.eq_false_iff.mp h (tsRoutingIsForUs_iff.mpr hdst))

/-- A message of another kind asks nothing at all. -/
theorem requestTo_of_ne_configSet {nodeId : UInt16} {msg : TsMsgLoraOutgoing}
    (h : ∀ req, msg.data ≠ .configSet req) : requestTo nodeId msg = none := by
  have hnone : configRequest msg = none := by
    unfold configRequest
    split
    · next req hdata => exact absurd hdata (h req)
    · rfl
  rw [requestTo, hnone, ite_self]

/-- What is flooded answers nobody. -/
theorem configAnswer_of_not_isConfig {msg : TsMsgLoraOutgoing}
    (h : msg.data.isConfig = false) : configAnswer msg = none := by
  unfold configAnswer
  split
  · next a hdata =>
    rw [hdata] at h
    cases h
  · rfl

/-- **An acknowledgement carries the answer** of the server, if the key it
answers is a C string. -/
theorem configAnswer_configAckMsg {req : TsMsgConfigSet} (hkey : req.key.Terminated)
    (route : TsRouteHeader) (cfgRet : Int32) :
    configAnswer (configAckMsg route req cfgRet)
      = some ⟨route.dst, req.key.cstr, req.value, cfgRet⟩ := by
  have hcstr := cstr_ackKey (KeyBuf.length_cstr_lt hkey)
  rw [configAnswer, configAckMsg]
  dsimp only
  rw [hcstr]

section Step

variable {n n' : Node τ} {a : NodeAct τ} {es : List (NodeEvent τ)}

/-- **One step of the node is one step of the exchange, or none**: the
requests that wait and those accepted are those served and those that wait
afterwards, and likewise the answers. -/
theorem Node.Step.exchange (h : Step P n a n' es)
    (hkey : ∀ inMsg tag, n.rx = .accepted inMsg tag → inMsg.msg.data.KeyTerminated)
    (hpool : ∀ i, (n.pool i).Carries (fun c => c.msg.data.isConfig = false)) :
    let log := es.map (Prod.mk a)
    n.pendingRequest ++ log.filterMap (requestedOf n.routing.selfNodeId)
        = (log.filterMap servedOf).map Prod.fst ++ n'.pendingRequest
      ∧ ∃ answers, exec serve n.config (log.filterMap servedOf) = (n'.config, answers)
        ∧ n.pendingAnswer ++ answers = log.filterMap answeredOf ++ n'.pendingAnswer := by
  cases h with
  | @accepted frame tag rssi snr now msg hrx =>
    simp only [Node.pendingRequest, Node.pendingAnswer, hrx, List.map_cons, List.map_nil,
      List.filterMap_cons, List.filterMap_nil, requestedOf, servedOf, answeredOf, exec]
    refine ⟨?_, [], rfl, rfl⟩
    -- what is accepted starts to wait, unless it asks somebody else or asks nothing
    show _ = (requestTo n.routing.selfNodeId msg).toList
    cases requestTo n.routing.selfNodeId msg <;> rfl
  | @notForUs saveRet ackTag inMsg tag hrx hfor =>
    have hnone := requestTo_of_not_for_us hfor
    simp only [Node.pendingRequest, Node.pendingAnswer, hrx, hnone, List.map_nil,
      List.filterMap_nil, exec]
    exact ⟨rfl, [], rfl, rfl⟩
  | @delivered saveRet ackTag inMsg tag hrx hfor hdata =>
    have hnone : requestTo n.routing.selfNodeId inMsg.msg = none :=
      requestTo_of_ne_configSet hdata
    simp only [Node.pendingRequest, Node.pendingAnswer, hrx, hnone, List.map_cons, List.map_nil,
      List.filterMap_cons, List.filterMap_nil, requestedOf, servedOf, answeredOf, exec]
    exact ⟨rfl, [], rfl, rfl⟩
  | @configured saveRet ackTag inMsg tag req hrx hfor hdata config cfgRet hset route hroute =>
    have hterm : req.key.Terminated := by
      have h := hkey inMsg tag hrx
      rwa [hdata] at h
    have hdst : route.dst = inMsg.msg.route.src := by
      rw [hroute]
      rfl
    have hreq : configRequest inMsg.msg
        = some ⟨inMsg.msg.route.src, req.key.cstr, req.value⟩ := by
      rw [configRequest, hdata]
    have hto : requestTo n.routing.selfNodeId inMsg.msg = configRequest inMsg.msg :=
      if_pos (tsRoutingIsForUs_iff.mp hfor)
    -- the waiting request is served, and its answer waits in the receiver's place
    simp only [Node.pendingRequest, Node.pendingAnswer, hrx, hto, hreq, List.map_cons,
      List.map_nil, List.filterMap_cons, List.filterMap_nil, requestedOf, servedOf, answeredOf,
      Option.map_some, exec_cons, exec, serve, hset, configAnswer_configAckMsg hterm, hdst]
    exact ⟨rfl, _, rfl, rfl⟩
  | ackPublished hrx =>
    simp only [Node.pendingRequest, Node.pendingAnswer, hrx, List.map_cons, List.map_nil,
      List.filterMap_cons, List.filterMap_nil, requestedOf, servedOf, answeredOf, exec]
    refine ⟨trivial, [], rfl, ?_⟩
    cases configAnswer _ <;> rfl
  | forwardPublished c hrun =>
    -- a forward is no configuration message, so publishing it answers nobody
    have hnone := configAnswer_of_not_isConfig ((hpool _).publishing c hrun)
    simp [Node.pendingRequest, Node.pendingAnswer, exec, List.filterMap_cons, servedOf,
      requestedOf, answeredOf, hnone]
  | notRelayed hrx | poolFull hrx | relayed hrx =>
    simp [Node.pendingRequest, Node.pendingAnswer, hrx, exec, List.filterMap_cons, servedOf,
      requestedOf, answeredOf]
  | _ =>
    simp [Node.pendingRequest, Node.pendingAnswer, exec, List.filterMap_cons, servedOf,
      requestedOf, answeredOf]

/-- A node delivers no request. -/
theorem Node.Step.delivered_ne_configSet (h : Step P n a n' es) {c : Copy τ}
    (hmem : .delivered c ∈ es) (req : TsMsgConfigSet) : c.msg.data ≠ .configSet req := by
  cases h with
  | delivered hrx hfor hdata =>
    cases List.mem_singleton.mp hmem
    exact hdata req
  | _ => simp at hmem

/-- **What is originated** is a producer's, or answers the request applied. -/
theorem Node.Step.cause_of_originated (h : Step P n a n' es) {c : Copy τ}
    (hmem : .originated c ∈ es) : Cause (es.map (Prod.mk a)) c := by
  cases h with
  | originated hidle route hroute =>
    cases List.mem_singleton.mp hmem
    exact .own List.mem_cons_self
  | configured hrx hfor hdata config cfgRet hset route hroute =>
    rcases List.mem_cons.mp hmem with heq | hmem
    · cases heq
    · cases List.mem_singleton.mp hmem
      exact .answer List.mem_cons_self hdata rfl
  | _ => simp at hmem

end Step

/-! ## A run of the node -/

/-- A longer log has the causes of a shorter one. -/
theorem Cause.mono {log log' : List (NodeAct τ × NodeEvent τ)} {c : Copy τ} (h : Cause log c)
    (hsub : log ⊆ log') : Cause log' c := by
  cases h with
  | forward haccepted hkind htag hfwd => exact .forward (hsub haccepted) hkind htag hfwd
  | own horiginated => exact .own (hsub horiginated)
  | answer happlied hreq hack => exact .answer (hsub happlied) hreq hack

/-- A message that was accepted, with a C string for a key. -/
def AcceptedIn (log : List (NodeAct τ × NodeEvent τ)) (c : Copy τ) : Prop :=
  (∃ a, (a, .accepted c) ∈ log) ∧ c.msg.data.KeyTerminated

/-- **The invariant**: the history is faithful so far, and so is what the
node still carries. -/
structure ExchangeInv (nodeId : UInt16) (config : ConfigState) (n : Node τ)
    (log : List (NodeAct τ × NodeEvent τ)) : Prop where
  selfId : n.routing.selfNodeId = nodeId
  carries : n.Carries (AcceptedIn log) (Cause log) (fun _ _ => True)
  forwards : ∀ i, (n.pool i).Carries (fun c => c.msg.data.isConfig = false)
  history : FaithfulHistory nodeId config log n

variable {nodeId : UInt16} {config : ConfigState} {n n' : Node τ}
  {log : List (NodeAct τ × NodeEvent τ)}

theorem ExchangeInv.step (h : ExchangeInv nodeId config n log) {a : NodeAct τ}
    {es : List (NodeEvent τ)} (hs : Step P n a n' es) :
    ExchangeInv nodeId config n' (log ++ es.map (Prod.mk a)) := by
  have hmem : ∀ {e}, e ∈ es → (a, e) ∈ es.map (Prod.mk a) := fun he => List.mem_map_of_mem he
  have hold : log ⊆ log ++ es.map (Prod.mk a) := fun _ he => List.mem_append_left _ he
  have hcarries : n.Carries (AcceptedIn (log ++ es.map (Prod.mk a)))
      (Cause (log ++ es.map (Prod.mk a))) (fun _ _ => True) := by
    refine h.carries.mono (fun c hc => ?_) (fun c hc => hc.mono hold) (fun _ _ hc => hc)
    obtain ⟨⟨b, hb⟩, hkey⟩ := hc
    exact ⟨⟨b, hold hb⟩, hkey⟩
  obtain ⟨hrequests, answers, hexec, hanswers⟩ := hs.exchange (fun inMsg tag hrx =>
    (h.carries.received ⟨inMsg.msg, tag⟩ (by rw [hrx]; rfl)).2) h.forwards
  rw [h.selfId] at hrequests
  refine ⟨hs.selfNodeId_eq.trans h.selfId, ?_, ?_, ?_, ?_, fun b c hb => ?_,
    fun b c pub hb => ?_⟩
  · refine hcarries.step hs (fun c hc => ?_) (fun c hc => ?_) (fun msg fwd tag hc hfwd => ?_)
      (fun _ _ _ _ => trivial)
    · obtain ⟨frame, rssi, snr, now, -, hparse, -⟩ := hs.of_accepted_mem hc
      exact ⟨⟨a, List.mem_append_right _ (hmem hc)⟩, keyTerminated_of_loraInParse hparse⟩
    · exact (hs.cause_of_originated hc).mono (fun _ he => List.mem_append_right _ he)
    · obtain ⟨⟨b, hb⟩, -⟩ := hc
      exact .forward hb (forwardOf_eq_some hfwd).1 rfl hfwd
  · refine hs.pool_carries h.forwards (fun inMsg tag fwd _ hfwd => ?_)
    obtain ⟨hkind, -, rfl, -⟩ := forwardOf_eq_some hfwd
    exact hkind
  · -- what waits is served before what comes in
    rw [List.filterMap_append, List.filterMap_append, List.map_append, h.history.requests,
      List.append_assoc, List.append_assoc, hrequests]
  · rw [List.filterMap_append, List.filterMap_append, exec_append, h.history.replay]
    dsimp only
    rw [hexec, List.append_assoc, List.append_assoc, hanswers]
  · rcases List.mem_append.mp hb with hb | hb
    · exact h.history.delivers b c hb
    · obtain ⟨e, he, heq⟩ := List.mem_map.mp hb
      cases heq
      exact hs.delivered_ne_configSet he
  · rcases List.mem_append.mp hb with hb | hb
    · exact (h.history.publishes b c pub hb).mono hold
    · obtain ⟨e, he, heq⟩ := List.mem_map.mp hb
      cases heq
      exact hcarries.published hs he

/-- **The configuration exchange keeps a faithful history.** For every run of
a node from its initialisation, over whatever frames it receives and whatever
the settings calls return: its configuration is the fold of `ts_config_set`
over the requests to it that it has accepted, in their order – all but the
last, while that one is on its way; the answers it has published are those of
the same calls, one for one; it delivers no request; and what it publishes is
a forward of another kind, its own, or such an answer. -/
theorem config_exchange_faithful [Inhabited τ] {acts : List (NodeAct τ)}
    (hrun : run (Node.step P) (Node.boot config) acts = some n) :
    FaithfulHistory (tsConfigGet config.live).nodeId config (nodeLog P (Node.boot config) acts)
      n := by
  have hboot : ExchangeInv (tsConfigGet config.live).nodeId config
      (Node.boot config : Node τ) [] :=
    ⟨rfl, Node.carries_boot config, fun _ => ⟨(fun h => nomatch h), (fun _ h => nomatch h)⟩,
      ⟨rfl, rfl, (fun _ _ h => nomatch h), (fun _ _ _ h => nomatch h)⟩⟩
  have hinv : ExchangeInv (tsConfigGet config.live).nodeId config n
      ([] ++ nodeLog P (Node.boot config) acts) :=
    run_history (J := ExchangeInv (tsConfigGet config.live).nodeId config)
      (fun _ _ _ _ h hs => h.step (Step.of_step hs)) hboot hrun
  exact hinv.history

/-- Node 2 sets the hop limit of node 1 to 3. -/
theorem config_exchange_faithful_routingTtl :
    let acts : List (NodeAct Unit) := remoteSetActs (frameOf defaultPlatform
      ⟨⟨2, 1, 0, 5, 0⟩, .configSet ⟨KeyBuf.ofText (cstr "routing_ttl"), 3⟩⟩) () (-80) 5 60 0 ()
    ∃ n, run (Node.step defaultPlatform) (Node.boot ConfigState.empty) acts = some n
      ∧ n.cfg.routingTtl = 3
      ∧ FaithfulHistory (tsConfigGet ConfigState.empty.live).nodeId ConfigState.empty
        (nodeLog defaultPlatform (Node.boot ConfigState.empty) acts) n := by
  intro acts
  have hrun : (run (Node.step defaultPlatform) (Node.boot ConfigState.empty) acts).map
      (fun n => n.cfg.routingTtl) = some 3 := by decide +kernel
  obtain ⟨n, hn, httl⟩ := Option.map_eq_some_iff.mp hrun
  exact ⟨n, hn, httl, config_exchange_faithful hn⟩

end Terrascope
