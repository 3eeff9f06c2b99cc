import Terrascope.RootedPaths
import Terrascope.Mesh

/-!
# Where the messages of a mesh come from

Every hop decodes a message, stores it, publishes it, stamps it, encodes and
signs it again. `CopyOf` is what survives all of this: a copy has the type,
the header but for TTL and key id, and the payload of its origination, and
its TTL and its trail add up to the same sum everywhere on the way. The
trail starts at the originator and never returns to it.

`MeshInv` says so of every message in every node, on every bus and on the
air, in every reachable state of the mesh, restarts included.
-/

namespace Terrascope

open Node Transition RootedPaths

variable {ι : Type}

/-! ## Copies of an origination -/

/-- **A copy of an originated message**, transmitted or to be transmitted by
the nodes of the path. -/
structure CopyOf (own : ι × TsMsgLoraOutgoing) (path : List ι) (msg : TsMsgLoraOutgoing) :
    Prop where
  src : msg.route.src = own.2.route.src
  dst : msg.route.dst = own.2.route.dst
  msgId : msg.route.msgId = own.2.route.msgId
  data : own.2.data.Agrees msg.data
  /-- Every hop but the first costs one. -/
  ttl : msg.route.ttl.toNat + path.length = own.2.route.ttl.toNat + 1
  /-- The originator transmits first and never again. -/
  path : Rooted own.1 path

/-- **A received message** at node `j`: a copy of another node's. -/
def ReceivedAt (originations : List (ι × TsMsgLoraOutgoing)) (j : ι)
    (c : Copy (Trail ι)) : Prop :=
  ∃ own, originations[c.tag.origin]? = some own ∧ CopyOf own c.tag.path c.msg ∧ own.1 ≠ j

/-- **A message to be sent** by node `j`, which is the next on its path. A
relayed one has a hop left. -/
def SentBy (originations : List (ι × TsMsgLoraOutgoing)) (j : ι)
    (c : Copy (Trail ι)) : Prop :=
  ∃ own, originations[c.tag.origin]? = some own ∧ CopyOf own (c.tag.path ++ [j]) c.msg
    ∧ (c.tag.path ≠ [] → 0 < c.msg.route.ttl.toNat)

/-- A message that is on its way out was published under its number. -/
def PublishedBy (originations : List (ι × TsMsgLoraOutgoing)) (es : List (MeshEvent ι))
    (j : ι) (c : Copy (Trail ι)) (pub : ℕ) : Prop :=
  SentBy originations j c ∧ .node j (.published c pub) ∈ es

/-- **The invariant of the mesh**, between a state and the log of what was
seen so far. -/
structure MeshInv (D : Deployment ι) (m : Mesh ι) (es : List (MeshEvent ι)) : Prop where
  selfId : ∀ j, (m.nodes j).routing.selfNodeId = D.nodeId j
  originator : ∀ own ∈ m.originations, own.2.route.src = D.nodeId own.1
  logged : ∀ own ∈ m.originations, ∃ c, .node own.1 (.originated c) ∈ es ∧ c.msg = own.2
  carries : ∀ j, (m.nodes j).Carries (ReceivedAt m.originations j) (SentBy m.originations j)
    (PublishedBy m.originations es j)
  published : ∀ j c pub, .node j (.published c pub) ∈ es → SentBy m.originations j c
  air : ∀ t ∈ m.air, PublishedBy m.originations es t.sender t.copy t.pub
    ∧ loraOutFrame (D.platform t.sender) t.copy.msg = .ok t.frame

/-! More originations and a longer log change nothing for what was there. -/

theorem getElem?_append_of_eq_some {α : Type} {l : List α} {k : ℕ} {a : α}
    (h : l[k]? = some a) (new : List α) : (l ++ new)[k]? = some a := by
  rw [List.getElem?_append_left (List.getElem?_eq_some_iff.mp h).1, h]

theorem ReceivedAt.append {originations : List (ι × TsMsgLoraOutgoing)} {j : ι}
    {c : Copy (Trail ι)} (h : ReceivedAt originations j c)
    (new : List (ι × TsMsgLoraOutgoing)) : ReceivedAt (originations ++ new) j c := by
  obtain ⟨own, horigin, hcopy⟩ := h
  exact ⟨own, getElem?_append_of_eq_some horigin new, hcopy⟩

theorem SentBy.append {originations : List (ι × TsMsgLoraOutgoing)} {j : ι}
    {c : Copy (Trail ι)} (h : SentBy originations j c) (new : List (ι × TsMsgLoraOutgoing)) :
    SentBy (originations ++ new) j c := by
  obtain ⟨own, horigin, hcopy⟩ := h
  exact ⟨own, getElem?_append_of_eq_some horigin new, hcopy⟩

theorem PublishedBy.append {originations : List (ι × TsMsgLoraOutgoing)}
    {es : List (MeshEvent ι)} {j : ι} {c : Copy (Trail ι)} {pub : ℕ}
    (h : PublishedBy originations es j c pub) (new : List (ι × TsMsgLoraOutgoing))
    (more : List (MeshEvent ι)) : PublishedBy (originations ++ new) (es ++ more) j c pub :=
  ⟨h.1.append new, List.mem_append_left _ h.2⟩

/-! ## One hop -/

/-- **What a node receives is a copy** of the message the frame is of: the
key id is the sender's, the rest is as it was. -/
theorem CopyOf.received {D : Deployment ι} {own : ι × TsMsgLoraOutgoing} {path : List ι}
    {i j : ι} {msg msg' : TsMsgLoraOutgoing} {frame : List UInt8} (h : CopyOf own path msg)
    (hout : loraOutFrame (D.platform i) msg = .ok frame)
    (hin : loraInParse (D.platform j) frame = some msg') : CopyOf own path msg' := by
  obtain ⟨hroute, hdata⟩ := agrees_of_loraInParse (D.lawful i) (D.zcbor_eq j i) hout hin
  refine ⟨?_, ?_, ?_, h.data.trans hdata, ?_, h.path⟩
  · rw [hroute]
    exact h.src
  · rw [hroute]
    exact h.dst
  · rw [hroute]
    exact h.msgId
  · rw [hroute]
    exact h.ttl

/-- **The forward of a received message** is a copy that has gone one node
further. -/
theorem ReceivedAt.forward {originations : List (ι × TsMsgLoraOutgoing)} {j : ι}
    {msg fwd : TsMsgLoraOutgoing} {tag : Trail ι} (h : ReceivedAt originations j ⟨msg, tag⟩)
    (hfwd : forwardOf msg = some fwd) : SentBy originations j ⟨fwd, tag⟩ := by
  obtain ⟨own, horigin, hcopy, hj⟩ := h
  obtain ⟨-, htwo, rfl, hsub⟩ := forwardOf_eq_some hfwd
  refine ⟨own, horigin, ⟨hcopy.src, hcopy.dst, hcopy.msgId, hcopy.data, ?_,
    hcopy.path.concat hj⟩, fun _ => ?_⟩
  · have httl := hcopy.ttl
    rw [hsub, List.length_append, List.length_singleton]
    dsimp only at httl ⊢
    omega
  · dsimp only at hsub ⊢
    omega

/-! ## One step of the mesh -/

variable {D : Deployment ι} {m m' : Mesh ι} {es : List (MeshEvent ι)}

theorem meshInv_boot (D : Deployment ι) : MeshInv D D.boot [] where
  selfId := fun _ => rfl
  originator := fun _ h => nomatch h
  logged := fun _ h => nomatch h
  carries := fun j => Node.carries_boot (D.config j)
  published := fun _ _ _ h => nomatch h
  air := fun _ h => nomatch h

/-- **What is read from a frame on the air** by a node with another id is a
received message. -/
theorem MeshInv.receivedAt (h : MeshInv D m es) {j : ι} {t : Transmission ι}
    (ht : t ∈ m.air) {msg : TsMsgLoraOutgoing}
    (hparse : loraInParse (D.platform j) t.frame = some msg)
    (hsrc : msg.route.src ≠ D.nodeId j) :
    ReceivedAt m.originations j ⟨msg, t.trail⟩ := by
  obtain ⟨⟨⟨own, horigin, hcopy, -⟩, -⟩, hframe⟩ := h.air t ht
  have hmsg := hcopy.received hframe hparse
  refine ⟨own, horigin, hmsg, ?_⟩
  rintro rfl
  exact hsrc (hmsg.src.trans (h.originator own (List.mem_of_getElem? horigin)))

/-- What a node accepts is a received message. -/
theorem MeshInv.accepted (h : MeshInv D m es) {a : MeshAct ι} {i : ι}
    {act : NodeAct (Trail ι)} {n' : Node (Trail ι)} {nes : List (NodeEvent (Trail ι))}
    (hact : a.nodeAct m = some (i, act)) (hstep : Step (D.platform i) (m.nodes i) act n' nes)
    {c : Copy (Trail ι)} (hmem : .accepted c ∈ nes) : ReceivedAt m.originations i c := by
  obtain ⟨frame, rssi, snr, now, rfl, hparse, hsrc, -, -⟩ := hstep.of_accepted_mem hmem
  obtain ⟨k, t, -, ht, rfl, htag⟩ := nodeAct_eq_receive hact
  rw [h.selfId i] at hsrc
  have hreceived := h.receivedAt (List.mem_of_getElem? ht) hparse hsrc
  rwa [← htag] at hreceived

/-- **A step that originates a message** adds one origination … -/
theorem filterMap_origination_eq {P : Platform} {n n' : Node (Trail ι)} {act : NodeAct (Trail ι)}
    {nes : List (NodeEvent (Trail ι))} (hstep : Step P n act n' nes) {c : Copy (Trail ι)}
    (hmem : .originated c ∈ nes) (i : ι) : nes.filterMap (origination i) = [(i, c.msg)] := by
  obtain ⟨-, -, hes⟩ := hstep.of_originated_mem hmem
  rcases hes with rfl | ⟨req, rfl⟩ <;> rfl

/-- … and a step that originates none adds none. -/
theorem filterMap_origination_eq_nil {i : ι} {nes : List (NodeEvent (Trail ι))}
    (h : ∀ c, .originated c ∉ nes) : nes.filterMap (origination i) = [] := by
  refine List.filterMap_eq_nil_iff.mpr (fun e he => ?_)
  cases e with
  | originated c => exact absurd he (h c)
  | _ => rfl

/-- A new message has the next number, and no node has transmitted it. -/
theorem tag_eq_of_originated {a : MeshAct ι} {i : ι} {act : NodeAct (Trail ι)}
    {n' : Node (Trail ι)} {nes : List (NodeEvent (Trail ι))}
    (hact : a.nodeAct m = some (i, act)) (hstep : Step (D.platform i) (m.nodes i) act n' nes)
    {c : Copy (Trail ι)} (hmem : .originated c ∈ nes) :
    c.tag = ⟨m.originations.length, []⟩ := by
  obtain ⟨hwhich, -, -⟩ := hstep.of_originated_mem hmem
  rcases hwhich with ⟨content, rfl, -⟩ | ⟨saveRet, rfl, -⟩
  · exact (nodeAct_eq_originate hact).2
  · exact (nodeAct_eq_deliver hact).2

/-- **What a node originates** is the next origination, and a message to be
sent. -/
theorem MeshInv.originated (h : MeshInv D m es) {a : MeshAct ι} {i : ι}
    {act : NodeAct (Trail ι)} {n' : Node (Trail ι)} {nes : List (NodeEvent (Trail ι))}
    (hact : a.nodeAct m = some (i, act)) (hstep : Step (D.platform i) (m.nodes i) act n' nes)
    {c : Copy (Trail ι)} (hmem : .originated c ∈ nes) :
    nes.filterMap (origination i) = [(i, c.msg)] ∧ c.tag = ⟨m.originations.length, []⟩
      ∧ c.msg.route.src = D.nodeId i
      ∧ SentBy (m.originations ++ nes.filterMap (origination i)) i c := by
  obtain ⟨-, hid, -⟩ := hstep.of_originated_mem hmem
  have htag := tag_eq_of_originated hact hstep hmem
  have hnew := filterMap_origination_eq hstep hmem i
  have hsrc : c.msg.route.src = D.nodeId i := by
    rw [← h.selfId i]
    exact congrArg Prod.fst hid
  refine ⟨hnew, htag, hsrc, (i, c.msg), ?_, ⟨rfl, rfl, rfl, .refl _, ?_, ?_⟩, fun hne => ?_⟩
  · rw [hnew, htag]
    exact List.getElem?_concat_length
  · rw [htag]
    rfl
  · rw [htag]
    exact rooted_singleton i
  · rw [htag] at hne
    exact absurd rfl hne

/-- The originations of a step are its events. -/
theorem mem_filterMap_origination {i : ι} {nes : List (NodeEvent (Trail ι))}
    {own : ι × TsMsgLoraOutgoing} :
    own ∈ nes.filterMap (origination i) ↔ ∃ c, .originated c ∈ nes ∧ (i, c.msg) = own := by
  rw [List.mem_filterMap]
  constructor
  · rintro ⟨e, he, hown⟩
    cases e with
    | originated c => exact ⟨c, he, Option.some.inj hown⟩
    | _ => cases hown
  · rintro ⟨c, hc, rfl⟩
    exact ⟨_, hc, rfl⟩

/-- … and so are its transmissions. -/
theorem mem_filterMap_transmission {i : ι} {nes : List (NodeEvent (Trail ι))}
    {t : Transmission ι} : t ∈ nes.filterMap (transmission i)
      ↔ ∃ c pub frame, .transmitted c pub frame ∈ nes ∧ ⟨i, c, pub, frame⟩ = t := by
  rw [List.mem_filterMap]
  constructor
  · rintro ⟨e, he, ht⟩
    cases e with
    | transmitted c pub frame => exact ⟨c, pub, frame, he, Option.some.inj ht⟩
    | _ => cases ht
  · rintro ⟨c, pub, frame, hc, rfl⟩
    exact ⟨_, hc, rfl⟩

/-- A node that restarts carries nothing. -/
theorem carries_restart {rxP outP : Copy (Trail ι) → Prop} {busP : Copy (Trail ι) → ℕ → Prop}
    (n : Node (Trail ι)) (order : List (Sigma fun _ : CString => List UInt8)) :
    (n.restart order).Carries rxP outP busP := by
  have hboot : (Node.boot (tsConfigInit n.config 0 0 order).1 : Node (Trail ι)).Carries
    rxP outP busP := Node.carries_boot _
  exact ⟨hboot.received, hboot.ack, hboot.pool, hboot.own,
    ⟨⟨hboot.bus.oneChannel.queued, hboot.bus.oneChannel.notified⟩,
      fun hout => absurd hout (lt_irrefl 0), hboot.bus.sending⟩⟩

/-- The nodes that do not move carry what they did, seen later. -/
theorem MeshInv.carries_later (h : MeshInv D m es) (j : ι)
    (new : List (ι × TsMsgLoraOutgoing)) (more : List (MeshEvent ι)) :
    (m.nodes j).Carries (ReceivedAt (m.originations ++ new) j)
      (SentBy (m.originations ++ new) j)
      (PublishedBy (m.originations ++ new) (es ++ more) j) :=
  (h.carries j).mono (fun _ hc => hc.append new) (fun _ hc => hc.append new)
    (fun _ _ hc => hc.append new more)

variable [DecidableEq ι]

/-- A restart loses what a node carries and keeps the rest. -/
theorem MeshInv.restarted (h : MeshInv D m es) {i : ι}
    {order : List (Sigma fun _ : CString => List UInt8)}
    (hself : ∀ j, ((m.restart i order).nodes j).routing.selfNodeId = D.nodeId j) :
    MeshInv D (m.restart i order) (es ++ [.restarted i]) := by
  refine ⟨hself, h.originator, fun own hown => ?_, fun j => ?_, fun j c pub hpub => ?_,
    fun t ht => ?_⟩
  · obtain ⟨c, hc, hmsg⟩ := h.logged own hown
    exact ⟨c, List.mem_append_left _ hc, hmsg⟩
  · by_cases hji : j = i
    · rw [hji, Mesh.restart_nodes_self]
      exact carries_restart _ _
    · rw [Mesh.restart_nodes_of_ne hji]
      have hlater := h.carries_later j [] [.restarted i]
      rwa [List.append_nil] at hlater
  · rcases List.mem_append.mp hpub with hpub | hpub
    · exact h.published j c pub hpub
    · cases List.mem_singleton.mp hpub
  · -- what is on the air outlives its sender's restart
    obtain ⟨hpub, hframe⟩ := h.air t ht
    have hlater := hpub.append [] [.restarted i]
    rw [List.append_nil] at hlater
    exact ⟨hlater, hframe⟩

/-- **Every step of the mesh keeps the invariant.** -/
theorem MeshInv.step (h : MeshInv D m es) {a : MeshAct ι} {mes : List (MeshEvent ι)}
    (hs : MeshStep D m a m' mes) : MeshInv D m' (es ++ mes) := by
  have hself := hs.selfNodeId_eq h.selfId
  cases hs with
  | @node i act n' nes hact hstep =>
    have hmoved := h.carries_later i (nes.filterMap (origination i))
      (a.heard ++ nes.map (MeshEvent.node i))
    refine ⟨hself, fun own hown => ?_, fun own hown => ?_, fun j => ?_, fun j c pub hpub => ?_,
      fun t ht => ?_⟩
    · rcases List.mem_append.mp hown with hown | hown
      · exact h.originator own hown
      · obtain ⟨c, hc, rfl⟩ := mem_filterMap_origination.mp hown
        exact (h.originated hact hstep hc).2.2.1
    · rcases List.mem_append.mp hown with hown | hown
      · obtain ⟨c, hc, hmsg⟩ := h.logged own hown
        exact ⟨c, List.mem_append_left _ hc, hmsg⟩
      · obtain ⟨c, hc, rfl⟩ := mem_filterMap_origination.mp hown
        exact ⟨c, List.mem_append_right _ (mem_heard_append.mpr ⟨rfl, hc⟩), rfl⟩
    -- the node that stepped keeps its copies traceable, the others' logs only grow
    · by_cases hji : j = i
      · subst hji
        rw [Mesh.apply_nodes_self]
        refine hmoved.step hstep (fun c hc => (h.accepted hact hstep hc).append _)
          (fun c hc => (h.originated hact hstep hc).2.2.2) (fun msg fwd tag hc hfwd => ?_)
          (fun c pub hc hpub => ⟨hc, ?_⟩)
        · exact hc.forward hfwd
        · exact List.mem_append_right _ (mem_heard_append.mpr ⟨rfl, hpub⟩)
      · rw [Mesh.apply_nodes_of_ne hji]
        exact h.carries_later j _ _
    · rcases List.mem_append.mp hpub with hpub | hpub
      · exact (h.published j c pub hpub).append _
      · obtain ⟨rfl, hmem⟩ := mem_heard_append.mp hpub
        exact hmoved.published hstep hmem
    · rcases List.mem_append.mp ht with ht | ht
      · obtain ⟨hpub, hframe⟩ := h.air t ht
        exact ⟨hpub.append _ _, hframe⟩
      · obtain ⟨c, pub, frame, hc, rfl⟩ := mem_filterMap_transmission.mp ht
        exact hmoved.transmitted hstep hc
  | restarted => exact h.restarted hself

/-- The invariant at the end of a run. -/
theorem meshInv_run {acts : List (MeshAct ι)} (hrun : run (meshStep D) D.boot acts = some m) :
    MeshInv D m (trace (meshStep D) (meshEvents D) D.boot acts) :=
  run_history (J := MeshInv D) (fun _ _ _ _ h hs' => h.step (MeshStep.of_meshStep hs'))
    (meshInv_boot D) hrun

/-- **What holds of everything that is read from the air** holds of every
message a node has received. -/
theorem received_run {R : Copy (Trail ι) → Prop}
    (hread : ∀ m es, MeshInv D m es → ∀ j, ∀ t ∈ m.air, ∀ msg,
      loraInParse (D.platform j) t.frame = some msg → R ⟨msg, t.trail⟩)
    {acts : List (MeshAct ι)} (hrun : run (meshStep D) D.boot acts = some m) (j : ι) :
    (m.nodes j).Carries R (fun _ => True) (fun _ _ => True) := by
  let Received (m : Mesh ι) : Prop :=
    ∀ j, (m.nodes j).Carries R (fun _ => True) (fun _ _ => True)
  have hstep : ∀ m es a m', MeshInv D m es → Received m → meshStep D m a = some m' →
      Received m' := by
    intro m es a m' hm h hs
    have hstep := MeshStep.of_meshStep hs
    generalize meshEvents D m a = mes at hstep
    cases hstep with
    | @node i act n' nes hact hstep =>
      refine Mesh.forall_apply (p := fun _ n => n.Carries R (fun _ => True) (fun _ _ => True))
        ?_ (fun j _ => h j)
      refine (h i).step hstep (fun c hc => ?_) (fun _ _ => trivial) (fun _ _ _ _ _ => trivial)
        (fun _ _ _ _ => trivial)
      obtain ⟨frame, rssi, snr, now, rfl, hparse, -⟩ := hstep.of_accepted_mem hc
      obtain ⟨k, t, -, ht, rfl, htag⟩ := nodeAct_eq_receive hact
      have hc := hread m es hm i t (List.mem_of_getElem? ht) c.msg hparse
      rwa [← htag] at hc
    | restarted =>
      exact Mesh.forall_restart (p := fun _ n => n.Carries R (fun _ => True) (fun _ _ => True))
        (carries_restart _ _) (fun j _ => h j)
  have hboot : MeshInv D D.boot [] ∧ Received D.boot :=
    ⟨meshInv_boot D, fun _ => Node.carries_boot _⟩
  exact (run_history (J := fun m es => MeshInv D m es ∧ Received m)
    (fun m es a m' h hs' => ⟨h.1.step (MeshStep.of_meshStep hs'), hstep m es a m' h.1 h.2 hs'⟩)
    hboot hrun).2 j

/-- An origination keeps its number. -/
theorem originations_run {acts : List (MeshAct ι)} {k : ℕ} {own : ι × TsMsgLoraOutgoing}
    (hrun : run (meshStep D) m acts = some m') (h : m.originations[k]? = some own) :
    m'.originations[k]? = some own :=
  run_invariant (I := fun m => m.originations[k]? = some own)
    (fun m a m' h hs' => by
      have hstep := MeshStep.of_meshStep hs'
      generalize meshEvents D m a = mes at hstep
      cases hstep with
      | node => exact getElem?_append_of_eq_some h _
      | restarted => exact h) h hrun

/-! ## Integrity -/

/-- **The message was originated**, as far as the log goes, by the node that
its source names: with its type, destination, message id and payload, and
with at least its TTL. -/
def OriginatedIn (D : Deployment ι) (es : List (MeshEvent ι)) (msg : TsMsgLoraOutgoing) :
    Prop :=
  ∃ i own, .node i (.originated own) ∈ es ∧ D.nodeId i = msg.route.src
    ∧ own.msg.route.src = msg.route.src ∧ own.msg.route.msgId = msg.route.msgId
    ∧ own.msg.route.dst = msg.route.dst ∧ own.msg.data.type = msg.data.type
    ∧ own.msg.data.Agrees msg.data ∧ msg.route.ttl ≤ own.msg.route.ttl

omit [DecidableEq ι] in
/-- A copy that has gone over one node at least has at most the TTL of its
origination. -/
theorem MeshInv.originatedIn (h : MeshInv D m es) {own : ι × TsMsgLoraOutgoing}
    {path : List ι} {msg : TsMsgLoraOutgoing} (hown : own ∈ m.originations)
    (hcopy : CopyOf own path msg) : OriginatedIn D es msg := by
  obtain ⟨c, hc, hmsg⟩ := h.logged own hown
  refine ⟨own.1, c, hc, ?_, ?_, ?_, ?_, ?_, ?_, ?_⟩
  · rw [hcopy.src, h.originator own hown]
  · rw [hmsg, hcopy.src]
  · rw [hmsg, hcopy.msgId]
  · rw [hmsg, hcopy.dst]
  · rw [hmsg]
    exact hcopy.data.type_eq
  · rw [hmsg]
    exact hcopy.data
  · have hpath := hcopy.path.length_pos
    have httl := hcopy.ttl
    rw [hmsg, UInt8.le_iff_toNat_le]
    omega

/-- **Messages come through the mesh as they were originated.** In every
state of every run of a mesh, whatever a node has in its contention pool, and
whatever it delivers in the next step, was originated before by the node that
its source names, with the same message id, destination, type and payload,
and with a TTL that is not smaller. -/
theorem flooded_message_originated {acts : List (MeshAct ι)}
    (hrun : run (meshStep D) D.boot acts = some m) :
    let es := trace (meshStep D) (meshEvents D) D.boot acts
    (∀ j i, ((m.nodes j).pool i).occupied = true →
      OriginatedIn D es ((m.nodes j).pool i).copy.msg)
    ∧ ∀ a m' j c, meshStep D m a = some m' → .node j (.delivered c) ∈ meshEvents D m a →
      OriginatedIn D es c.msg := by
  have h := meshInv_run hrun
  refine ⟨fun j i hocc => ?_, fun a m' j c hs hdelivered => ?_⟩
  · obtain ⟨own, horigin, hcopy, -⟩ := ((h.carries j).pool i).held hocc
    exact h.originatedIn (List.mem_of_getElem? horigin) hcopy
  · obtain ⟨mes, hmes, hstep⟩ : ∃ mes, meshEvents D m a = mes ∧ MeshStep D m a m' mes :=
      ⟨_, rfl, MeshStep.of_meshStep hs⟩
    rw [hmes] at hdelivered
    cases hstep with
    | @node i act n' nes hact hstep =>
      obtain ⟨rfl, hmem⟩ := mem_heard_append.mp hdelivered
      obtain ⟨own, horigin, hcopy, -⟩ := (h.carries j).delivered hstep hmem
      exact h.originatedIn (List.mem_of_getElem? horigin) hcopy
    | restarted => cases List.mem_singleton.mp hdelivered

/-- The heartbeat of node 1 in the pool of node 2. -/
theorem flooded_message_originated_heartbeat : ∃ m,
    run (meshStep twoNodes) twoNodes.boot (sendsHeartbeat 0 ++ hearsFrame 1 0) = some m
      ∧ ((m.nodes 1).pool 0).copy.msg.route = ⟨1, 0xFFFF, 0, 4, 0⟩
      ∧ OriginatedIn twoNodes (trace (meshStep twoNodes) (meshEvents twoNodes) twoNodes.boot
          (sendsHeartbeat 0 ++ hearsFrame 1 0)) ((m.nodes 1).pool 0).copy.msg := by
  have hslot : (run (meshStep twoNodes) twoNodes.boot (sendsHeartbeat 0 ++ hearsFrame 1 0)).map
      (fun m => (((m.nodes 1).pool 0).occupied, ((m.nodes 1).pool 0).copy.msg.route))
      = some (true, ⟨1, 0xFFFF, 0, 4, 0⟩) := by decide +kernel
  obtain ⟨m, hrun, hm⟩ := Option.map_eq_some_iff.mp hslot
  obtain ⟨hocc, hroute⟩ := Prod.mk.injEq _ _ _ _ ▸ hm
  exact ⟨m, hrun, hroute, (flooded_message_originated hrun).1 1 0 hocc⟩

end Terrascope
