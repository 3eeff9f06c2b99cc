import Terrascope.NodeFlow

/-!
# The mesh

Nodes around a shared medium. A transmission stays on the air for good, and
any node may receive it at any time, early, late or never, which takes in
loss, delay, reordering and every topology. Nothing else is on the air.

What a node does is `Node.stepEvents`; the mesh adds where its inputs come
from – frames from the air, tags for what it originates – and where its
outputs go. The tag of a message is its **trail**: the origination it goes
back to and the nodes that transmitted it so far. No code reads it.

A node may restart: it runs its initialisation again over the settings it
has stored, and what was in RAM is gone. It comes up under the id it had, as
ids identify the nodes of a mesh.
-/

namespace Terrascope

open Node

/-! ## States -/

/-- **Where a message has been**: the number of its origination and the nodes
that transmitted it, the originator first. -/
structure Trail (ι : Type) where
  origin : ℕ
  path : List ι
deriving DecidableEq

instance {ι : Type} : Inhabited (Trail ι) := ⟨⟨0, []⟩⟩

/-- **A frame on the air**, with the node that sent it, the message it was
made of and the number of the publication that message is from. -/
structure Transmission (ι : Type) where
  sender : ι
  copy : Copy (Trail ι)
  pub : ℕ
  frame : List UInt8

/-- The trail of the message, the sender included. -/
def Transmission.trail {ι : Type} (t : Transmission ι) : Trail ι :=
  ⟨t.copy.tag.origin, t.copy.tag.path ++ [t.sender]⟩

/-- The nodes, everything transmitted so far, and every message originated so
far with its originator. The last is a record that no step reads but to
number the next origination. -/
structure Mesh (ι : Type) where
  nodes : ι → Node (Trail ι)
  air : List (Transmission ι)
  originations : List (ι × TsMsgLoraOutgoing)

/-- **What a mesh is made of**: the image each node runs and the
configuration it boots with, over one and the same CBOR library. -/
structure Deployment (ι : Type) where
  platform : ι → Platform
  config : ι → ConfigState
  zcbor_eq : ∀ i j, (platform i).zcbor = (platform j).zcbor
  lawful : ∀ i, (platform i).zcbor.Lawful

variable {ι : Type}

/-- The id of a node. -/
def Deployment.nodeId (D : Deployment ι) (i : ι) : UInt16 :=
  (tsConfigGet (D.config i).live).nodeId

/-- Every node has booted and nothing has happened. -/
def Deployment.boot (D : Deployment ι) : Mesh ι := ⟨fun i => Node.boot (D.config i), [], []⟩

/-! ## Steps -/

/-- The steps of a node that take nothing from outside. -/
inductive InnerAct where
  | publishAck
  | relay
  | handler (slot : Fin TS_CONTENTION_POOL_SIZE) (act : HandlerAct)
  | publishOwn (who : Producer)
  | dropOwn
  | outWait
  | outRead
  | outSend
  | age (now : UInt32)

/-- The step of the node. -/
def InnerAct.act {τ : Type} : InnerAct → NodeAct τ
  | .publishAck => .publishAck
  | .relay => .relay
  | .handler slot act => .handler slot act
  | .publishOwn who => .publishOwn who
  | .dropOwn => .dropOwn
  | .outWait => .outWait
  | .outRead => .outRead
  | .outSend => .outSend
  | .age now => .age now

/-- **A step of the mesh.** -/
inductive MeshAct (ι : Type) where
  /-- A node receives one of the transmissions. -/
  | receive (i : ι) (air : ℕ) (rssi : Int16) (snr : Int8) (now : UInt32)
  | deliver (i : ι) (saveRet : Int32)
  | originate (i : ι) (content : Content)
  | inner (i : ι) (act : InnerAct)
  /-- A node restarts; `order` is what `settings_load` goes through. -/
  | restart (i : ι) (order : List (Sigma fun _ : CString => List UInt8))

/-- **What can be seen of a step**: the events of a node, and that a node
was handed a transmission or has restarted. -/
inductive MeshEvent (ι : Type) where
  | node (i : ι) (event : NodeEvent (Trail ι))
  | received (i : ι) (air : ℕ)
  | restarted (i : ι)

/-- The node that takes a step and the step it takes. -/
def MeshAct.nodeAct (m : Mesh ι) : MeshAct ι → Option (ι × NodeAct (Trail ι))
  | .receive i k rssi snr now =>
    (m.air[k]?).map (fun t => (i, .receive t.frame t.trail rssi snr now))
  | .deliver i saveRet => some (i, .deliver saveRet ⟨m.originations.length, []⟩)
  | .originate i content => some (i, .originate content ⟨m.originations.length, []⟩)
  | .inner i act => some (i, act.act)
  | .restart _ _ => none

/-- A reception is an event of its own. -/
def MeshAct.heard : MeshAct ι → List (MeshEvent ι)
  | .receive i k _ _ _ => [.received i k]
  | _ => []

/-- The transmission a node's event makes. -/
def transmission (i : ι) : NodeEvent (Trail ι) → Option (Transmission ι)
  | .transmitted c pub frame => some ⟨i, c, pub, frame⟩
  | _ => none

/-- The origination a node's event is. -/
def origination (i : ι) : NodeEvent (Trail ι) → Option (ι × TsMsgLoraOutgoing)
  | .originated c => some (i, c.msg)
  | _ => none

/-- `main` once more, over the settings stored: RAM is as after boot, and the
publications go on being numbered from where they were. -/
def Node.restart (n : Node (Trail ι)) (order : List (Sigma fun _ : CString => List UInt8)) :
    Node (Trail ι) :=
  let n' : Node (Trail ι) := Node.boot (tsConfigInit n.config 0 0 order).1
  { n' with bus := { n'.bus with chan := { n'.bus.chan with pubs := n.bus.chan.pubs } } }

/-! What the mesh hands to a node. -/

/-- What a node receives is on the air, and its trail goes with it. -/
theorem nodeAct_eq_receive {m : Mesh ι} {a : MeshAct ι} {i : ι} {frame : List UInt8}
    {tag : Trail ι} {rssi : Int16} {snr : Int8} {now : UInt32}
    (h : a.nodeAct m = some (i, .receive frame tag rssi snr now)) :
    ∃ k t, a = .receive i k rssi snr now ∧ m.air[k]? = some t ∧ frame = t.frame
      ∧ tag = t.trail := by
  cases a with
  | receive i' k rssi' snr' now' =>
    obtain ⟨t, ht, heq⟩ := Option.map_eq_some_iff.mp h
    cases heq
    exact ⟨k, t, rfl, ht, rfl, rfl⟩
  | inner i' act => cases act <;> cases h
  | _ => cases h

/-- A new message has a new origination. -/
theorem nodeAct_eq_originate {m : Mesh ι} {a : MeshAct ι} {i : ι} {content : Content}
    {tag : Trail ι} (h : a.nodeAct m = some (i, .originate content tag)) :
    a = .originate i content ∧ tag = ⟨m.originations.length, []⟩ := by
  cases a with
  | originate i' content' =>
    cases h
    exact ⟨rfl, rfl⟩
  | receive i' k rssi snr now =>
    obtain ⟨t, ht, heq⟩ := Option.map_eq_some_iff.mp h
    cases heq
  | inner i' act => cases act <;> cases h
  | _ => cases h

/-- … and so has an acknowledgement. -/
theorem nodeAct_eq_deliver {m : Mesh ι} {a : MeshAct ι} {i : ι} {saveRet : Int32}
    {ackTag : Trail ι} (h : a.nodeAct m = some (i, .deliver saveRet ackTag)) :
    a = .deliver i saveRet ∧ ackTag = ⟨m.originations.length, []⟩ := by
  cases a with
  | deliver i' saveRet' =>
    cases h
    exact ⟨rfl, rfl⟩
  | receive i' k rssi snr now =>
    obtain ⟨t, ht, heq⟩ := Option.map_eq_some_iff.mp h
    cases heq
  | inner i' act => cases act <;> cases h
  | _ => cases h

/-- The events of the node that took the step. -/
theorem mem_heard_append {a : MeshAct ι} {i j : ι} {e : NodeEvent (Trail ι)}
    {es : List (NodeEvent (Trail ι))} :
    .node j e ∈ a.heard ++ es.map (MeshEvent.node i) ↔ j = i ∧ e ∈ es := by
  have hheard : MeshEvent.node j e ∉ a.heard := by
    cases a <;> simp [MeshAct.heard]
  rw [List.mem_append, or_iff_right hheard, List.mem_map]
  constructor
  · rintro ⟨e', he', heq⟩
    cases heq
    exact ⟨rfl, he'⟩
  · rintro ⟨rfl, he⟩
    exact ⟨e, he, rfl⟩

variable [DecidableEq ι]

/-- The mesh after a step of one node. -/
def Mesh.apply (m : Mesh ι) (i : ι) (n' : Node (Trail ι)) (es : List (NodeEvent (Trail ι))) :
    Mesh ι where
  nodes := Function.update m.nodes i n'
  air := m.air ++ es.filterMap (transmission i)
  originations := m.originations ++ es.filterMap (origination i)

/-- The mesh after a restart of one node. -/
def Mesh.restart (m : Mesh ι) (i : ι) (order : List (Sigma fun _ : CString => List UInt8)) :
    Mesh ι where
  nodes := Function.update m.nodes i ((m.nodes i).restart order)
  air := m.air
  originations := m.originations

/-- **One step of the mesh, with what can be seen of it.** -/
def meshStepEvents (D : Deployment ι) (m : Mesh ι) (a : MeshAct ι) :
    Option (Mesh ι × List (MeshEvent ι)) :=
  match a with
  | .restart i order =>
    if order.Perm (m.nodes i).config.store.entries
        ∧ ((m.nodes i).restart order).routing.selfNodeId = D.nodeId i then
      some (m.restart i order, [.restarted i])
    else none
  | a => (a.nodeAct m).bind (fun (i, act) =>
    ((m.nodes i).stepEvents (D.platform i) act).map (fun (n', es) =>
      (m.apply i n' es, a.heard ++ es.map (.node i))))

/-- The mesh after a step. -/
def meshStep (D : Deployment ι) (m : Mesh ι) (a : MeshAct ι) : Option (Mesh ι) :=
  (meshStepEvents D m a).map Prod.fst

/-- What can be seen of a step. -/
def meshEvents (D : Deployment ι) (m : Mesh ι) (a : MeshAct ι) : List (MeshEvent ι) :=
  (meshStepEvents D m a).elim [] Prod.snd

/-! ## What a step can do -/

/-- **A step of the mesh is a step of one of its nodes**, on what the mesh
hands it, or a restart. -/
inductive MeshStep (D : Deployment ι) (m : Mesh ι) (a : MeshAct ι) :
    Mesh ι → List (MeshEvent ι) → Prop where
  | node {i : ι} {act : NodeAct (Trail ι)} {n' : Node (Trail ι)}
      {es : List (NodeEvent (Trail ι))} (hact : a.nodeAct m = some (i, act))
      (hstep : Step (D.platform i) (m.nodes i) act n' es) :
      MeshStep D m a (m.apply i n' es) (a.heard ++ es.map (.node i))
  | restarted {i : ι} {order : List (Sigma fun _ : CString => List UInt8)}
      (hact : a = .restart i order) (hperm : order.Perm (m.nodes i).config.store.entries)
      (hid : ((m.nodes i).restart order).routing.selfNodeId = D.nodeId i) :
      MeshStep D m a (m.restart i order) [.restarted i]

theorem MeshStep.of_meshStepEvents {D : Deployment ι} {m m' : Mesh ι} {a : MeshAct ι}
    {es : List (MeshEvent ι)} (h : meshStepEvents D m a = some (m', es)) :
    MeshStep D m a m' es := by
  unfold meshStepEvents at h
  split at h
  · next i order =>
    split at h
    · next hguard =>
      cases h
      exact .restarted rfl hguard.1 hguard.2
    · cases h
  · obtain ⟨⟨i, act⟩, hact, h⟩ := Option.bind_eq_some_iff.mp h
    obtain ⟨⟨n', nes⟩, hstep, h⟩ := Option.map_eq_some_iff.mp h
    cases h
    exact .node hact (Step.of_stepEvents hstep)

/-- The step relation at a step and its events. -/
theorem MeshStep.of_meshStep {D : Deployment ι} {m m' : Mesh ι} {a : MeshAct ι}
    (h : meshStep D m a = some m') : MeshStep D m a m' (meshEvents D m a) := by
  unfold meshStep at h
  obtain ⟨⟨m₁, es⟩, hs, rfl⟩ := Option.map_eq_some_iff.mp h
  unfold meshEvents
  rw [hs]
  exact .of_meshStepEvents hs

/-- **A node that can take a frame from the air does so.** -/
theorem meshStep_receive {D : Deployment ι} {m : Mesh ι} {i : ι} {k : ℕ} {t : Transmission ι}
    {rssi : Int16} {snr : Int8} {now : UInt32} {n' : Node (Trail ι)}
    {es : List (NodeEvent (Trail ι))} (ht : m.air[k]? = some t)
    (hstep : (m.nodes i).stepEvents (D.platform i) (.receive t.frame t.trail rssi snr now)
      = some (n', es)) :
    meshStep D m (.receive i k rssi snr now) = some (m.apply i n' es)
      ∧ meshEvents D m (.receive i k rssi snr now) = .received i k :: es.map (.node i) := by
  have hboth : meshStepEvents D m (.receive i k rssi snr now)
      = some (m.apply i n' es, .received i k :: es.map (.node i)) := by
    simp only [meshStepEvents, MeshAct.nodeAct, ht, Option.map_some, Option.bind_some, hstep]
    rfl
  rw [meshStep, meshEvents, hboth]
  exact ⟨rfl, rfl⟩

/-- A node that does not move is as it was. -/
theorem Mesh.apply_nodes_of_ne {m : Mesh ι} {i j : ι} (h : j ≠ i) (n' : Node (Trail ι))
    (es : List (NodeEvent (Trail ι))) : (m.apply i n' es).nodes j = m.nodes j :=
  Function.update_of_ne h _ _

@[simp] theorem Mesh.apply_nodes_self (m : Mesh ι) (i : ι) (n' : Node (Trail ι))
    (es : List (NodeEvent (Trail ι))) : (m.apply i n' es).nodes i = n' :=
  Function.update_self _ _ _

theorem Mesh.restart_nodes_of_ne {m : Mesh ι} {i j : ι} (h : j ≠ i)
    (order : List (Sigma fun _ : CString => List UInt8)) :
    (m.restart i order).nodes j = m.nodes j :=
  Function.update_of_ne h _ _

@[simp] theorem Mesh.restart_nodes_self (m : Mesh ι) (i : ι)
    (order : List (Sigma fun _ : CString => List UInt8)) :
    (m.restart i order).nodes i = (m.nodes i).restart order :=
  Function.update_self _ _ _

/-- **What holds of the node that moved and of the others** holds of all. -/
theorem Mesh.forall_apply {m : Mesh ι} {i : ι} {n' : Node (Trail ι)}
    {es : List (NodeEvent (Trail ι))} {p : ι → Node (Trail ι) → Prop} (hi : p i n')
    (h : ∀ j, j ≠ i → p j (m.nodes j)) (j : ι) : p j ((m.apply i n' es).nodes j) :=
  (Function.forall_update_iff m.nodes p).mpr ⟨hi, h⟩ j

theorem Mesh.forall_restart {m : Mesh ι} {i : ι}
    {order : List (Sigma fun _ : CString => List UInt8)} {p : ι → Node (Trail ι) → Prop}
    (hi : p i ((m.nodes i).restart order)) (h : ∀ j, j ≠ i → p j (m.nodes j)) (j : ι) :
    p j ((m.restart i order).nodes j) :=
  (Function.forall_update_iff m.nodes p).mpr ⟨hi, h⟩ j

/-- **Nodes keep their ids**, restarts included. -/
theorem MeshStep.selfNodeId_eq {D : Deployment ι} {m m' : Mesh ι} {a : MeshAct ι}
    {es : List (MeshEvent ι)} (hs : MeshStep D m a m' es)
    (h : ∀ j, (m.nodes j).routing.selfNodeId = D.nodeId j) (j : ι) :
    (m'.nodes j).routing.selfNodeId = D.nodeId j := by
  cases hs with
  | @node i act n' nes hact hstep =>
    exact Mesh.forall_apply (p := fun j n => n.routing.selfNodeId = D.nodeId j)
      (hstep.selfNodeId_eq.trans (h i)) (fun j _ => h j) j
  | restarted hact hperm hid =>
    exact Mesh.forall_restart (p := fun j n => n.routing.selfNodeId = D.nodeId j) hid
      (fun j _ => h j) j

/-! ## Two nodes -/

/-- Nodes 1 and 2, built and configured by default but for the id of the
second. -/
def twoNodes : Deployment (Fin 2) where
  platform := fun _ => defaultPlatform
  config := fun i =>
    if i = 0 then ConfigState.empty
    else (tsConfigSet ConfigState.empty (cstr "node_id") 2 0).1
  zcbor_eq := fun _ _ => rfl
  lawful := fun _ => Zcbor.lawful_reference

/-- A node prepares a heartbeat and sends it. -/
def sendsHeartbeat (i : Fin 2) : List (MeshAct (Fin 2)) :=
  [.originate i (.heartbeat 60), .inner i (.publishOwn .heartbeat), .inner i .outWait,
    .inner i .outRead, .inner i .outSend]

/-- A node receives a transmission and is done with it. -/
def hearsFrame (i : Fin 2) (air : ℕ) : List (MeshAct (Fin 2)) :=
  [.receive i air (-80) 5 61, .deliver i 0, .inner i .relay]

/-- The delay of a slot is over, and what it holds goes out. -/
def forwardsSlot (i : Fin 2) (slot : Fin TS_CONTENTION_POOL_SIZE) : List (MeshAct (Fin 2)) :=
  [.inner i (.handler slot .expire), .inner i (.handler slot .start),
    .inner i (.handler slot .claim), .inner i (.handler slot .publish),
    .inner i (.handler slot .ret), .inner i .outWait, .inner i .outRead, .inner i .outSend]

/-! ## Three nodes -/

/-- Three nodes, of which the second may lie between the others. -/
inductive Trio where
  | near
  | middle
  | far
deriving DecidableEq

/-- They are built by default and boot with a configuration each. -/
def threeNodes (config : Trio → ConfigState) : Deployment Trio where
  platform := fun _ => defaultPlatform
  config := config
  zcbor_eq := fun _ _ => rfl
  lawful := fun _ => Zcbor.lawful_reference

/-- The default configuration with one key set. -/
def configuredWith (key : CString) (value : Int32) : ConfigState :=
  (tsConfigSet ConfigState.empty key value 0).1

/-- Three ids are distinct pair by pair. -/
theorem injective_trio {f : Trio → UInt16} (hnear : f .near ≠ f .middle)
    (hfar : f .near ≠ f .far) (hmiddle : f .middle ≠ f .far) : Function.Injective f := by
  intro i j hij
  cases i <;> cases j <;> first | rfl | exact absurd hij ‹_› | exact absurd hij.symm ‹_›

/-- A node prepares a message and sends it. -/
def sendsOwn (i : Trio) (content : Content) : List (MeshAct Trio) :=
  [.originate i content, .inner i (.publishOwn content.producer), .inner i .outWait,
    .inner i .outRead, .inner i .outSend]

/-- A node receives a transmission, holds it in a slot and forwards it. -/
def relaysFrame (i : Trio) (air : ℕ) (slot : Fin TS_CONTENTION_POOL_SIZE) :
    List (MeshAct Trio) :=
  [.receive i air (-80) 5 61, .deliver i 0, .inner i .relay, .inner i (.handler slot .expire),
    .inner i (.handler slot .start), .inner i (.handler slot .claim),
    .inner i (.handler slot .publish), .inner i (.handler slot .ret), .inner i .outWait,
    .inner i .outRead, .inner i .outSend]

end Terrascope
