import Terrascope.FrameSize
import Terrascope.Hearing
import Terrascope.MeshProvenance
import Terrascope.NodePass

/-!
# How far a broadcast gets

The TTL bounds how often a message is transmitted on its way. That the bound
is attained is another matter: a node on the way has to accept the message,
hold it in a slot, get it out of the slot, publish it and send it, and any of
these may come to nothing. Nodes that are at rest do all of it.

`broadcast_reaches_iff` puts the two together. From any state of a mesh of
one image, a broadcast can be delivered at the end of a path of nodes at rest
if and only if the path makes do with the TTL. That it can is a run built hop
by hop, by induction on the path; that it cannot otherwise holds of every
run, as a node does not relay what has no hop left (`HopLeft`).
-/

namespace Terrascope

open Node Transition

variable {τ : Type}

/-! ## The node in its mesh -/

section Mesh

variable {ι : Type} [DecidableEq ι] {D : Deployment ι} {m : Mesh ι}

/-- A node that has not done anything. -/
theorem Mesh.apply_nil (m : Mesh ι) (i : ι) : m.apply i (m.nodes i) [] = m := by
  unfold Mesh.apply
  rw [Function.update_eq_self, List.filterMap_nil, List.filterMap_nil, List.append_nil,
    List.append_nil]

/-- **What a node does in two parts.** -/
theorem Mesh.apply_apply (m : Mesh ι) (i : ι) (n₁ n₂ : Node (Trail ι))
    (es es' : List (NodeEvent (Trail ι))) :
    (m.apply i n₁ es).apply i n₂ es' = m.apply i n₂ (es ++ es') := by
  unfold Mesh.apply
  rw [Function.update_idem, List.filterMap_append, List.filterMap_append, List.append_assoc,
    List.append_assoc]

/-- **A node that can take its step does so.** -/
theorem meshStep_of_nodeAct {a : MeshAct ι} {i : ι} {act : NodeAct (Trail ι)}
    {n' : Node (Trail ι)} {es : List (NodeEvent (Trail ι))} (hact : a.nodeAct m = some (i, act))
    (hstep : (m.nodes i).stepEvents (D.platform i) act = some (n', es)) :
    meshStep D m a = some (m.apply i n' es)
      ∧ meshEvents D m a = a.heard ++ es.map (.node i) := by
  have hboth : meshStepEvents D m a
      = some (m.apply i n' es, a.heard ++ es.map (.node i)) := by
    cases a with
    | restart i' order => cases hact
    | _ =>
      simp only [meshStepEvents]
      rw [hact, Option.bind_some, hstep]
      rfl
  rw [meshStep, meshEvents, hboth]
  exact ⟨rfl, rfl⟩

/-- **A run of a node on its own is a run of the mesh.** -/
theorem runsTo_inner {i : ι} {acts : List InnerAct} {n' : Node (Trail ι)}
    {es : List (NodeEvent (Trail ι))}
    (h : RunsTo (Node.step (D.platform i)) (Node.events (D.platform i)) (m.nodes i)
      (acts.map InnerAct.act) n' es) :
    RunsTo (meshStep D) (meshEvents D) m (acts.map (.inner i)) (m.apply i n' es)
      (es.map (.node i)) := by
  induction acts generalizing m es with
  | nil =>
    obtain ⟨hrun, rfl⟩ := h
    cases hrun
    simp only [List.map_nil, trace, Mesh.apply_nil]
    exact .nil m
  | cons a acts ih =>
    obtain ⟨hrun, rfl⟩ := h
    obtain ⟨n₁, hs, hrun⟩ := run_cons_eq_some.mp hrun
    obtain ⟨hmesh, hevents⟩ := meshStep_of_nodeAct (a := .inner i a) (m := m) rfl
      (Node.step_eq_some hs)
    have htail : RunsTo (Node.step (D.platform i)) (Node.events (D.platform i))
        ((m.apply i n₁ ((m.nodes i).events (D.platform i) a.act)).nodes i)
        (acts.map InnerAct.act) n' (trace (Node.step (D.platform i)) (Node.events (D.platform i)) n₁
          (acts.map InnerAct.act)) := by
      rw [Mesh.apply_nodes_self]
      exact ⟨hrun, rfl⟩
    have hrest := ih htail
    rw [Mesh.apply_apply] at hrest
    rw [List.map_cons, List.map_cons, trace, hs, Option.elim_some, List.map_append]
    have hcons := hrest.cons hmesh
    rw [hevents] at hcons
    exact hcons

/-! ## One hop -/

variable {P : Platform}

/-- **A broadcast**: to all nodes, and not about the configuration. -/
structure TsMsgLoraOutgoing.Broadcast (msg : TsMsgLoraOutgoing) : Prop where
  dst : msg.route.dst = TS_ROUTING_BROADCAST_ADDR
  readable : msg.data.Readable
  flooded : msg.data.isConfig = false

omit [DecidableEq ι] in
/-- It does not depend on the rest of the header. -/
theorem TsMsgLoraOutgoing.Broadcast.congr {msg msg' : TsMsgLoraOutgoing} (h : msg.Broadcast)
    (hdst : msg'.route.dst = msg.route.dst) (hdata : msg'.data = msg.data) : msg'.Broadcast where
  dst := hdst.trans h.dst
  readable := hdata ▸ h.readable
  flooded := hdata ▸ h.flooded

/-- **A message is on the air**: one of the transmissions has its trail and is
read as it. -/
def OnAir (P : Platform) (m : Mesh ι) (trail : Trail ι) (msg : TsMsgLoraOutgoing) : Prop :=
  ∃ t ∈ m.air, t.trail = trail ∧ t.frame.length ≤ LORA_RX_BUFFER_SIZE
    ∧ loraInParse P t.frame = some msg

/-- What a node transmits is on the air. -/
theorem mem_air_apply {i : ι} {n' : Node (Trail ι)} {es : List (NodeEvent (Trail ι))}
    {c : Copy (Trail ι)} {pub : ℕ} {frame : List UInt8} (h : .transmitted c pub frame ∈ es) :
    ⟨i, c, pub, frame⟩ ∈ (m.apply i n' es).air :=
  List.mem_append_right _ (List.mem_filterMap.mpr ⟨_, h, rfl⟩)

/-- **A node to which a message is new**: it listens, and the message is of
another node and not recognised. -/
structure Node.Open (n : Node τ) (id : UInt16 × UInt32) : Prop where
  rx : n.rx = .listening
  other : id.1 ≠ n.routing.selfNodeId
  fresh : ¬ Recognised n.routing id

/-- **An image that lets every message through.** -/
structure Platform.Transparent (P : Platform) : Prop where
  lawful : P.zcbor.Lawful
  compact : P.zcbor.Compact
  mac : ∀ data, ∃ fullMac, P.mac data = some fullMac

omit [DecidableEq ι] in
/-- **Every broadcast is sent, fits and is read back** with the sender's key
id. -/
theorem Platform.Transparent.exists_frame (hP : P.Transparent) {msg : TsMsgLoraOutgoing}
    (hmsg : msg.Broadcast) :
    ∃ frame, loraOutFrame P msg = .ok frame ∧ frame.length ≤ LORA_RX_BUFFER_SIZE
      ∧ loraInParse P frame = some (msg.stamp P.keyId) := by
  have hknown : ∀ t, msg.data ≠ .unknown t := by
    rintro t ht
    have hread := hmsg.readable
    rw [ht] at hread
    exact hread
  obtain ⟨cbor, tag, -, -, hframe, htag, hcbor, -⟩ := loraOutFrame_of_compact hP.compact hP.mac hknown
  obtain ⟨data', hin, hagrees⟩ := loraInParse_loraOutFrame hP.lawful
    hmsg.readable.keyTerminated hframe
  refine ⟨cbor ++ tag, hframe, ?_, ?_⟩
  · rw [List.length_append, htag]
    show cbor.length + 8 ≤ 255
    omega
  · rw [hin, hagrees.eq_of_not_isConfig hmsg.flooded]
    rfl

/-- **A node accepts what is new to it**, and from then on has it to
deliver. -/
theorem exists_accepts (hP : ∀ i, D.platform i = P) {trail : Trail ι} {msg : TsMsgLoraOutgoing}
    (hair : OnAir P m trail msg) {j : ι} (hj : (m.nodes j).Open msg.route.id) :
    ∃ k n' es, meshStep D m (.receive j k (-80) 5 0) = some (m.apply j n' es)
      ∧ n' = { m.nodes j with
        routing := tsRoutingMarkSeen (m.nodes j).routing msg.route
        table := n'.table
        rx := .accepted ⟨msg, -80, 5⟩ trail } := by
  obtain ⟨t, hmem, rfl, hlen, hparse⟩ := hair
  obtain ⟨k, ht⟩ := List.getElem?_of_mem hmem
  rw [← hP j] at hparse
  have hdup : tsRoutingIsDuplicate (m.nodes j).routing msg.route = false :=
    Bool.eq_false_iff.mpr (fun h => hj.fresh ((tsRoutingIsDuplicate_iff _ _).mp h))
  have hstep := receive_of_new hj.rx hlen hparse hj.other hdup t.trail (-80) 5 0
  exact ⟨k, _, _, (meshStep_receive ht hstep).1, rfl⟩

/-- **A broadcast is delivered** by a node that has accepted it. -/
theorem stepEvents_deliver_broadcast {n : Node τ} {inMsg : TsMsgLoraIncoming} {tag : τ}
    (hrx : n.rx = .accepted inMsg tag) (hmsg : inMsg.msg.Broadcast) (ackTag : τ) :
    n.stepEvents P (.deliver 0 ackTag)
      = some ({ n with rx := .relaying inMsg tag }, [.delivered ⟨inMsg.msg, tag⟩]) := by
  have hfor : tsRoutingIsForUs n.routing inMsg.msg.route = true :=
    tsRoutingIsForUs_iff.mpr (Or.inr hmsg.dst)
  have hflooded := hmsg.flooded
  simp only [stepEvents, deliver, hrx, hfor, if_true]
  split
  · next req hreq =>
    rw [hreq] at hflooded
    cases hflooded
  · rfl

/-- The forward of a message that is not of the configuration kind and has
two hops left. -/
theorem forwardOf_of_two {msg : TsMsgLoraOutgoing} (hdata : msg.data.isConfig = false)
    (httl : 2 ≤ msg.route.ttl.toNat) :
    forwardOf msg = some { msg with route := { msg.route with ttl := msg.route.ttl - 1 } }
      ∧ (msg.route.ttl - 1).toNat = msg.route.ttl.toNat - 1 := by
  have hone : (1 : UInt8) ≤ msg.route.ttl := UInt8.le_iff_toNat_le.mpr (le_trans (by decide) httl)
  have hsub : (msg.route.ttl - 1).toNat = msg.route.ttl.toNat - 1 :=
    UInt8.toNat_sub_of_le _ _ hone
  have hne : msg.route.ttl ≠ 0 := fun h => by
    rw [h] at httl
    cases httl
  have hpos : 0 < msg.route.ttl - 1 := by
    rw [UInt8.lt_iff_toNat_lt, hsub]
    show 0 < msg.route.ttl.toNat - 1
    omega
  refine ⟨?_, hsub⟩
  unfold forwardOf tsRoutingDecrementTtl
  rw [hdata, if_neg hne]
  simp only [Bool.false_eq_true, if_false, true_and, if_pos hpos]

/-- **One hop**: a node at rest transmits what is on the air once more, under
its own name and with one hop less. -/
theorem exists_hop (hP : ∀ i, D.platform i = P) (hopen : P.Transparent) {trail : Trail ι}
    {msg : TsMsgLoraOutgoing} (hair : OnAir P m trail msg) {j : ι}
    (hj : (m.nodes j).Open msg.route.id) (hidle : (m.nodes j).Idle) (hmsg : msg.Broadcast)
    (httl : 2 ≤ msg.route.ttl.toNat) :
    ∃ acts m' fwd, run (meshStep D) m acts = some m' ∧ (∀ l, l ≠ j → m'.nodes l = m.nodes l)
      ∧ OnAir P m' ⟨trail.origin, trail.path ++ [j]⟩ fwd
      ∧ fwd = { msg with route := { msg.route with ttl := msg.route.ttl - 1 } } := by
  obtain ⟨k, n₁, es₁, haccept, hn₁⟩ := exists_accepts hP hair hj
  obtain ⟨hfwd, -⟩ := forwardOf_of_two hmsg.flooded httl
  set fwd : TsMsgLoraOutgoing := { msg with route := { msg.route with ttl := msg.route.ttl - 1 } }
    with hfwdDef
  obtain ⟨t₀, -, -, -, hparse⟩ := hair
  have hkey : fwd.stamp P.keyId = fwd := by
    have hkeyId := (loraInParse_eq_some hparse).2
    rw [hfwdDef, TsMsgLoraOutgoing.stamp, ← hkeyId]
  obtain ⟨frame, hframe, hlen, hin⟩ := hopen.exists_frame (hmsg.congr rfl rfl : fwd.Broadcast)
  rw [hkey] at hin
  -- the node's part: deliver, then the way of the forward
  have hrx : n₁.rx = .accepted ⟨msg, -80, 5⟩ trail := by rw [hn₁]
  have hdeliver := stepEvents_deliver_broadcast (P := P) hrx hmsg ⟨(m.apply j n₁ es₁).originations.length, []⟩
  obtain ⟨i, hfind, hwork⟩ := hidle.slot
  obtain ⟨acts, n₃, hpass⟩ := exists_runsTo_relayPass (P := P)
    (n := { n₁ with rx := .relaying ⟨msg, -80, 5⟩ trail }) rfl
    (by rw [hn₁]; exact hidle.bus) (i := i) (by rw [hn₁]; exact hfind)
    (by rw [hn₁]; exact hwork) hfwd hframe
  -- and the mesh around it
  obtain ⟨hmeshDeliver, -⟩ := meshStep_of_nodeAct (D := D) (m := m.apply j n₁ es₁)
    (a := .deliver j 0) rfl (by rw [Mesh.apply_nodes_self]; exact hdeliver)
  rw [← hP j] at hpass
  have hinner := runsTo_inner (m := (m.apply j n₁ es₁).apply j
    { n₁ with rx := .relaying ⟨msg, -80, 5⟩ trail } [.delivered ⟨msg, trail⟩])
    (by rw [Mesh.apply_nodes_self]; exact hpass)
  rw [Mesh.apply_apply, Mesh.apply_apply] at hinner
  rw [Mesh.apply_apply] at hmeshDeliver
  refine ⟨_, _, fwd, run_cons_eq_some.mpr ⟨_, haccept, run_cons_eq_some.mpr
    ⟨_, hmeshDeliver, hinner.1⟩⟩, fun l hl => Mesh.apply_nodes_of_ne hl _ _, ?_, rfl⟩
  have hsent : .transmitted ⟨fwd, trail⟩ (n₁.bus.chan.pubs + 1) frame
      ∈ es₁ ++ [.delivered ⟨msg, trail⟩] ++ [.scheduled ⟨fwd, trail⟩,
        .published ⟨fwd, trail⟩ (n₁.bus.chan.pubs + 1),
        .transmitted ⟨fwd, trail⟩ (n₁.bus.chan.pubs + 1) frame] := by simp
  exact ⟨_, mem_air_apply hsent, rfl, hlen, hin⟩

/-- **A whole path**: from what is on the air, a run in which the nodes of a
path relay one after another, each a node at rest. -/
theorem exists_path (hP : ∀ i, D.platform i = P) (hopen : P.Transparent) {trail : Trail ι}
    {msg : TsMsgLoraOutgoing} (hair : OnAir P m trail msg)
    (hmsg : msg.Broadcast) {path : List ι} (hnodup : path.Nodup)
    (hopenAt : ∀ j ∈ path, (m.nodes j).Open msg.route.id)
    (hidle : ∀ j ∈ path, (m.nodes j).Idle)
    (httl : path.length ≤ msg.route.ttl.toNat - 1) :
    ∃ acts m' msg', run (meshStep D) m acts = some m' ∧ (∀ l, l ∉ path → m'.nodes l = m.nodes l)
      ∧ OnAir P m' ⟨trail.origin, trail.path ++ path⟩ msg'
      ∧ msg'.route.dst = msg.route.dst ∧ msg'.route.id = msg.route.id ∧ msg'.data = msg.data := by
  induction path generalizing m trail msg with
  | nil =>
    refine ⟨[], m, msg, rfl, fun _ _ => rfl, ?_, rfl, rfl, rfl⟩
    rw [List.append_nil]
    exact hair
  | cons j path ih =>
    obtain ⟨hj, hnodup⟩ := List.nodup_cons.mp hnodup
    rw [List.length_cons] at httl
    have htwo : 2 ≤ msg.route.ttl.toNat := by omega
    obtain ⟨acts, m₁, fwd, hrun, hothers, hair₁, rfl⟩ :=
      exists_hop hP hopen hair (hopenAt j List.mem_cons_self) (hidle j List.mem_cons_self) hmsg
        htwo
    have hsub := (forwardOf_of_two hmsg.flooded htwo).2
    have hsame : ∀ l ∈ path, m₁.nodes l = m.nodes l := fun l hl =>
      hothers l (fun h => hj (h ▸ hl))
    have hopen₁ : ∀ l ∈ path, (m₁.nodes l).Open msg.route.id := fun l hl => by
      rw [hsame l hl]
      exact hopenAt l (List.mem_cons_of_mem j hl)
    have hidle₁ : ∀ l ∈ path, (m₁.nodes l).Idle := fun l hl => by
      rw [hsame l hl]
      exact hidle l (List.mem_cons_of_mem j hl)
    obtain ⟨acts', m', msg', hrun', hothers', hair', hdst', hid', hdata'⟩ :=
      ih hair₁ (hmsg.congr rfl rfl) hnodup hopen₁ hidle₁ (by rw [hsub]; omega)
    refine ⟨acts ++ acts', m', msg', run_append_eq_some.mpr ⟨m₁, hrun, hrun'⟩, fun l hl => ?_,
      ?_, hdst', hid', hdata'⟩
    · rw [List.mem_cons, not_or] at hl
      rw [hothers' l hl.2, hothers l hl.1]
    · rw [List.append_assoc] at hair'
      exact hair'

/-- **What is on the air can be delivered** by a node to which it is new. -/
theorem exists_delivery (hP : ∀ i, D.platform i = P) {trail : Trail ι} {msg : TsMsgLoraOutgoing}
    (hair : OnAir P m trail msg) {j : ι} (hj : (m.nodes j).Open msg.route.id)
    (hmsg : msg.Broadcast) :
    ∃ acts m' a m'', run (meshStep D) m acts = some m' ∧ meshStep D m' a = some m''
      ∧ .node j (.delivered ⟨msg, trail⟩) ∈ meshEvents D m' a := by
  obtain ⟨k, n₁, es, haccept, hn₁⟩ := exists_accepts hP hair hj
  have hrx : n₁.rx = .accepted ⟨msg, -80, 5⟩ trail := by rw [hn₁]
  have hdeliver := stepEvents_deliver_broadcast (P := P) hrx hmsg ⟨(m.apply j n₁ es).originations.length, []⟩
  obtain ⟨hmesh, hevents⟩ := meshStep_of_nodeAct (D := D) (m := m.apply j n₁ es)
    (a := .deliver j 0) rfl (by rw [Mesh.apply_nodes_self, hP j]; exact hdeliver)
  refine ⟨[.receive j k (-80) 5 0], m.apply j n₁ es, .deliver j 0, _,
    run_cons_eq_some.mpr ⟨_, haccept, rfl⟩, hmesh, ?_⟩
  rw [hevents]
  exact mem_heard_append.mpr ⟨rfl, List.mem_singleton.mpr rfl⟩

/-! ## The first transmission -/

/-- The message made of it is a broadcast. -/
def Content.Broadcast (content : Content) : Prop :=
  ∀ route, route.dst = content.dst → (content.msg route).Broadcast

omit [DecidableEq ι] in
/-- The header is the one given. -/
theorem Content.msg_route (content : Content) (route : TsRouteHeader) :
    (content.msg route).route = route := by
  cases content <;> rfl

/-- **What an origination does to the mesh.** -/
theorem meshStep_originate {i : ι} {content : Content} {m₁ : Mesh ι}
    (h : meshStep D m (.originate i content) = some m₁) :
    ∃ route n₁, route = (tsRoutingPrepareHeader (m.nodes i).cfg (m.nodes i).routing .zero
        content.dst).2
      ∧ n₁ = { m.nodes i with
          routing := n₁.routing
          producing := Function.update (m.nodes i).producing content.producer
            (some ⟨content.msg route, ⟨m.originations.length, []⟩⟩) }
      ∧ m₁ = m.apply i n₁ [.originated ⟨content.msg route, ⟨m.originations.length, []⟩⟩] := by
  have hs := MeshStep.of_meshStep h
  generalize meshEvents D m (.originate i content) = mes at hs
  cases hs with
  | node hact hstep =>
    cases hact
    cases hstep with
    | originated hidle route hroute => exact ⟨route, _, hroute, rfl, rfl⟩
  | restarted hact => cases hact

/-- **The originator transmits**, from an outgoing bus at rest. -/
theorem exists_first (hP : ∀ i, D.platform i = P) (hopen : P.Transparent) {i : ι}
    {who : Producer} {own : Copy (Trail ι)} (hown : (m.nodes i).producing who = some own)
    (hbus : (m.nodes i).bus.Idle) (hmsg : own.msg.Broadcast) :
    ∃ acts m', run (meshStep D) m acts = some m' ∧ (∀ l, l ≠ i → m'.nodes l = m.nodes l)
      ∧ OnAir P m' ⟨own.tag.origin, own.tag.path ++ [i]⟩ (own.msg.stamp P.keyId) := by
  obtain ⟨frame, hframe, hlen, hin⟩ := hopen.exists_frame hmsg
  let n₁ : Node (Trail ι) := { m.nodes i with
    producing := Function.update (m.nodes i).producing who none
    bus := ((m.nodes i).bus.publish own).1 }
  have hpublish : (m.nodes i).stepEvents P (.publishOwn who)
      = some (n₁, [.published own ((m.nodes i).bus.chan.pubs + 1)]) := by
    simp only [stepEvents, publishOwn, hown]
    rfl
  have hpass := runsTo_cons hpublish (runsTo_outPass (n := n₁) (publish_of_idle hbus own) hframe)
  rw [← hP i] at hpass
  have hacts : RunsTo (Node.step (D.platform i)) (Node.events (D.platform i)) (m.nodes i)
      ([InnerAct.publishOwn who, .outWait, .outRead, .outSend].map InnerAct.act) _ _ := hpass
  have hinner := runsTo_inner hacts
  refine ⟨_, _, hinner.1, fun l hl => Mesh.apply_nodes_of_ne hl _ _, ?_⟩
  have hsent : .transmitted own ((m.nodes i).bus.chan.pubs + 1) frame
      ∈ ([.published own ((m.nodes i).bus.chan.pubs + 1)] : List (NodeEvent (Trail ι)))
        ++ [.transmitted own ((m.nodes i).bus.chan.pubs + 1) frame] := by simp
  exact ⟨_, mem_air_apply hsent, rfl, hlen, hin⟩

/-! ## What gets no further -/

/-- **A message that was relayed has a hop left.** The nodes relay nothing
else. -/
def HopLeft (c : Copy (Trail ι)) : Prop := 2 ≤ c.tag.path.length → 0 < c.msg.route.ttl.toNat

omit [DecidableEq ι] in
/-- The nodes receive nothing else. -/
theorem MeshInv.hopLeft {es : List (MeshEvent ι)} (h : MeshInv D m es) {j : ι}
    {t : Transmission ι} (ht : t ∈ m.air) {msg : TsMsgLoraOutgoing}
    (hparse : loraInParse (D.platform j) t.frame = some msg) : HopLeft ⟨msg, t.trail⟩ := by
  intro htwo
  obtain ⟨⟨⟨own, -, -, hhop⟩, -⟩, hframe⟩ := h.air t ht
  obtain ⟨hroute, -⟩ := agrees_of_loraInParse (D.lawful t.sender) (D.zcbor_eq j t.sender)
    hframe hparse
  have hpath : t.copy.tag.path ≠ [] := fun hnil => by
    rw [Transmission.trail, hnil] at htwo
    simp at htwo
  rw [hroute]
  exact hhop hpath

/-- **What is delivered has come no further than its TTL.** -/
theorem length_le_of_delivered {acts : List (MeshAct ι)} {m' : Mesh ι} {a : MeshAct ι} {j : ι}
    {c : Copy (Trail ι)} {own : ι × TsMsgLoraOutgoing}
    (hrun : run (meshStep D) D.boot acts = some m) (hs : meshStep D m a = some m')
    (hc : .node j (.delivered c) ∈ meshEvents D m a)
    (hown : m.originations[c.tag.origin]? = some own) :
    c.tag.path.length ≤ max 1 own.2.route.ttl.toNat := by
  obtain ⟨mes, hmes⟩ : ∃ mes, meshEvents D m a = mes := ⟨_, rfl⟩
  have hstep := MeshStep.of_meshStep hs
  rw [hmes] at hstep hc
  cases hstep with
  | node hact hstep =>
    obtain ⟨rfl, hmem⟩ := mem_heard_append.mp hc
    obtain ⟨own', horigin, hcopy, -⟩ := ((meshInv_run hrun).carries j).delivered hstep hmem
    have hhop := (received_run (fun _ _ h _ _ ht _ hparse => h.hopLeft ht hparse) hrun
      _).delivered hstep hmem
    obtain rfl : own' = own := Option.some.inj (horigin.symm.trans hown)
    have httl := hcopy.ttl
    by_cases htwo : 2 ≤ c.tag.path.length
    · have hpos := hhop htwo
      omega
    · omega
  | restarted => cases List.mem_singleton.mp hc

/-! ## The radius -/

/-- **A broadcast gets as far as its TTL says, and no further.** Take any
state of any run of a mesh of one image, an originator whose outgoing bus is
at rest and that originates a broadcast, and a path of distinct nodes at
rest, to all of which the message is new and of which the last need only
listen. Then the message can be delivered to the last node over the path if
and only if the path has no more transmitting nodes than the TTL, one where
the TTL is zero. -/
theorem broadcast_reaches_iff {acts : List (MeshAct ι)}
    (hrun : run (meshStep D) D.boot acts = some m) (hids : Function.Injective D.nodeId)
    (hP : ∀ i, D.platform i = P) (hopen : P.Transparent) {content : Content}
    (hcontent : content.Broadcast) {i : ι} {m₁ : Mesh ι}
    (horig : meshStep D m (.originate i content) = some m₁) (hbus : (m.nodes i).bus.Idle)
    {path : List ι} {j : ι} (hnodup : (i :: (path ++ [j])).Nodup)
    (hidle : ∀ l ∈ path, (m.nodes l).Idle) (hrx : (m.nodes j).rx = .listening)
    (hnew : ∀ l ∈ path ++ [j], ¬ Recognised (m.nodes l).routing
      ((m.nodes i).routing.selfNodeId, (m.nodes i).routing.nextMsgId)) :
    (∃ acts' m₂ a m₃ msg, run (meshStep D) m₁ acts' = some m₂ ∧ meshStep D m₂ a = some m₃
        ∧ .node j (.delivered ⟨msg, ⟨m.originations.length, i :: path⟩⟩) ∈ meshEvents D m₂ a)
      ↔ (i :: path).length ≤ max 1 (m.nodes i).cfg.routingTtl.toNat := by
  obtain ⟨route, n₁, hroute, hn₁, hm₁⟩ := meshStep_originate horig
  have hown : m₁.originations[m.originations.length]? = some (i, content.msg route) := by
    rw [hm₁]
    simp [Mesh.apply, origination]
  have httl : route.ttl = (m.nodes i).cfg.routingTtl := by
    rw [hroute]
    rfl
  constructor
  · rintro ⟨acts', m₂, a, m₃, msg, hrun', hs, hdelivered⟩
    have hfrom : run (meshStep D) D.boot (acts ++ .originate i content :: acts') = some m₂ :=
      run_append_eq_some.mpr ⟨m, hrun, run_cons_eq_some.mpr ⟨m₁, horig, hrun'⟩⟩
    have hlen := length_le_of_delivered hfrom hs hdelivered (originations_run hrun' hown)
    rw [Content.msg_route, httl] at hlen
    exact hlen
  · intro hlen
    rw [List.length_cons] at hlen
    obtain ⟨hi, hnodup⟩ := List.nodup_cons.mp hnodup
    obtain ⟨hpath, -, hj⟩ := List.nodup_append.mp hnodup
    have hm := meshInv_run hrun
    have hself : (m.nodes i).routing.selfNodeId = D.nodeId i := hm.selfId i
    have hid : route.id = ((m.nodes i).routing.selfNodeId, (m.nodes i).routing.nextMsgId) := by
      rw [hroute]
      rfl
    -- the message is new to whoever has not moved since
    have hopenAt : ∀ m' : Mesh ι, ∀ l ∈ path ++ [j], m'.nodes l = m.nodes l →
        (m.nodes l).rx = .listening → (m'.nodes l).Open route.id := by
      intro m' l hl hsame hlistens
      rw [hsame, hid]
      refine ⟨hlistens, ?_, hnew l hl⟩
      rw [hself, hm.selfId l]
      exact fun heq => hi (hids heq ▸ hl)
    have hsame₁ : ∀ l ∈ path ++ [j], m₁.nodes l = m.nodes l := fun l hl => by
      have hli : l ≠ i := fun h => hi (h ▸ hl)
      rw [hm₁, Mesh.apply_nodes_of_ne hli]
    have hown₁ : (m₁.nodes i).producing content.producer
        = some ⟨content.msg route, ⟨m.originations.length, []⟩⟩ := by
      rw [hm₁, Mesh.apply_nodes_self, hn₁]
      exact Function.update_self _ _ _
    have hbus₁ : (m₁.nodes i).bus.Idle := by
      rw [hm₁, Mesh.apply_nodes_self, hn₁]
      exact hbus
    have hmsg : (content.msg route).Broadcast := hcontent route (by rw [hroute]; rfl)
    obtain ⟨acts₁, m₂, hrun₁, hothers₁, hair₁⟩ := exists_first hP hopen hown₁ hbus₁ hmsg
    have hsame₂ : ∀ l ∈ path ++ [j], m₂.nodes l = m.nodes l := fun l hl =>
      (hothers₁ l (fun h => hi (h ▸ hl))).trans (hsame₁ l hl)
    -- the way along the path
    have hpathMem : ∀ l ∈ path, l ∈ path ++ [j] := fun l hl => List.mem_append_left _ hl
    have hstamp : ((content.msg route).stamp P.keyId).route.id = route.id := by
      show (content.msg route).route.id = route.id
      rw [content.msg_route]
    have hhops : path.length ≤ (content.msg route).route.ttl.toNat - 1 := by
      rw [content.msg_route, httl]
      omega
    obtain ⟨acts₂, m₃, msg, hrun₂, hothers₂, hair₂, hdst₂, hid₂, hdata₂⟩ :=
      exists_path hP hopen hair₁ (hmsg.congr rfl rfl) hpath
        (fun l hl => by
          rw [hstamp]
          exact hopenAt m₂ l (hpathMem l hl) (hsame₂ l (hpathMem l hl)) (hidle l hl).rx)
        (fun l hl => by
          rw [hsame₂ l (hpathMem l hl)]
          exact hidle l hl) hhops
    -- and the delivery at its end
    have hjMem : j ∈ path ++ [j] := List.mem_append_right _ List.mem_cons_self
    have hjPath : j ∉ path := fun h => hj j h j List.mem_cons_self rfl
    have hsame₃ : m₃.nodes j = m.nodes j := (hothers₂ j hjPath).trans (hsame₂ j hjMem)
    have hopen₃ : (m₃.nodes j).Open msg.route.id := by
      rw [hid₂, hstamp]
      exact hopenAt m₃ j hjMem hsame₃ hrx
    obtain ⟨acts₃, m₄, a, m₅, hrun₃, hstep, hdelivered⟩ := exists_delivery hP hair₂ hopen₃
      (hmsg.congr hdst₂ hdata₂)
    exact ⟨acts₁ ++ (acts₂ ++ acts₃), m₄, a, m₅, msg, run_append_eq_some.mpr ⟨m₂, hrun₁,
      run_append_eq_some.mpr ⟨m₃, hrun₂, hrun₃⟩⟩, hstep, hdelivered⟩

end Mesh

/-- A node that has booted recognises nothing. -/
theorem not_recognised_init (nodeId : UInt16) (id : UInt16 × UInt32) :
    ¬ Recognised (tsRoutingInit nodeId) id := by
  rintro ⟨i, hi, -⟩
  exact absurd hi (Nat.not_lt_zero _)

/-- Nodes 1, 2 and 3, the first of which starts with a TTL of 2. -/
def lineOfThree : Deployment Trio :=
  threeNodes (fun
    | .near => configuredWith (cstr "routing_ttl") 2
    | .middle => configuredWith (cstr "node_id") 2
    | .far => configuredWith (cstr "node_id") 3)

/-- Its heartbeat gets to node 3 over node 2. -/
theorem broadcast_reaches_iff_lineOfThree : ∃ m₁,
    meshStep lineOfThree lineOfThree.boot (.originate .near (.heartbeat 60)) = some m₁
      ∧ ∃ acts m₂ a m₃ msg, run (meshStep lineOfThree) m₁ acts = some m₂
        ∧ meshStep lineOfThree m₂ a = some m₃
        ∧ .node .far (.delivered ⟨msg, ⟨0, [.near, .middle]⟩⟩)
          ∈ meshEvents lineOfThree m₂ a := by
  have hids : Function.Injective lineOfThree.nodeId :=
    injective_trio (by decide +kernel) (by decide +kernel) (by decide +kernel)
  have hbroadcast : (Content.heartbeat 60).Broadcast := fun route hdst => ⟨hdst, trivial, rfl⟩
  have hrun : run (meshStep lineOfThree) lineOfThree.boot [] = some lineOfThree.boot := rfl
  have hline : (Trio.near :: ([.middle] ++ [.far])).Nodup := by decide
  refine ⟨_, rfl, (broadcast_reaches_iff (P := defaultPlatform) hrun hids
    (fun _ => rfl) ⟨Zcbor.lawful_reference, Zcbor.compact_reference, fun _ => ⟨_, rfl⟩⟩ hbroadcast rfl
    ⟨rfl, rfl⟩ hline (fun l _ => Node.idle_boot _) rfl (fun l _ => not_recognised_init _ _)).mpr ?_⟩
  decide +kernel

end Terrascope
