import Terrascope.Sensors
import Terrascope.UnicastConfig

/-!
# Where telemetry comes from

The sensor work prepares a message, reads the sensor into it and publishes it,
or gives it up when the sensor cannot be read. Between the first and the last
of these every other thread may run, but none of them sees the message: a node
goes on as it would without one (`Step.withoutReading`). So all there is of
telemetry in a mesh, in slots, on buses and on the air, is of readings that
succeeded, and `telemetry_measured` says what a node that delivers one can tell
from it.
-/

namespace Terrascope

open Node Transition

variable {ι τ : Type}

/-! ## The sensor work of a node -/

/-- The step is one of `periodic_work_handler`. -/
def NodeAct.isSensorWork : NodeAct τ → Bool
  | .originate (.sensor _ _ _ _) _ => true
  | .publishOwn .sensor => true
  | .dropOwn => true
  | _ => false

/-- The node without the message that the sensor work has prepared. -/
def Node.withoutReading (n : Node τ) : Node τ :=
  { n with producing := Function.update n.producing .sensor none }

/-- It carries what it carried. -/
theorem Node.Carries.withoutReading {rxP outP : Copy τ → Prop} {busP : Copy τ → ℕ → Prop}
    {n : Node τ} (h : n.Carries rxP outP busP) : n.withoutReading.Carries rxP outP busP :=
  ⟨h.received, h.ack, h.pool, h.own_update (fun _ hc => nomatch hc), h.bus⟩

theorem producer_ne_sensor {content : Content} {tag : τ}
    (h : (NodeAct.originate content tag).isSensorWork = false) : content.producer ≠ .sensor := by
  cases content with
  | sensor => cases h
  | heartbeat | application => simp [Content.producer]

/-- **The other threads do not see the reading**: their steps are the same
without it, and leave it as it is. -/
theorem Node.Step.withoutReading {P : Platform} {n n' : Node τ} {a : NodeAct τ}
    {es : List (NodeEvent τ)} (hs : Step P n a n' es) (ha : a.isSensorWork = false) :
    Step P n.withoutReading a n'.withoutReading es
      ∧ n'.producing .sensor = n.producing .sensor := by
  cases hs with
  | dropped hrx hlen hparse => exact ⟨.dropped hrx hlen hparse, rfl⟩
  | ownSource hrx hlen hparse hsrc => exact ⟨.ownSource hrx hlen hparse hsrc, rfl⟩
  | duplicate hrx hlen hparse hsrc hdup => exact ⟨.duplicate hrx hlen hparse hsrc hdup, rfl⟩
  | accepted hrx hlen hparse hsrc hdup => exact ⟨.accepted hrx hlen hparse hsrc hdup, rfl⟩
  | notForUs hrx hfor => exact ⟨.notForUs hrx hfor, rfl⟩
  | configured hrx hfor hdata config cfgRet hset route hroute =>
    exact ⟨.configured (n := n.withoutReading) hrx hfor hdata config cfgRet hset route hroute, rfl⟩
  | delivered hrx hfor hdata => exact ⟨.delivered hrx hfor hdata, rfl⟩
  | ackPublished hrx => exact ⟨.ackPublished hrx, rfl⟩
  | notRelayed hrx hfwd => exact ⟨.notRelayed hrx hfwd, rfl⟩
  | poolFull hrx hfwd hfull => exact ⟨.poolFull hrx hfwd hfull, rfl⟩
  | relayed hrx hfwd i hfind hfree work hwork =>
    exact ⟨.relayed (n := n.withoutReading) hrx hfwd i hfind hfree work hwork, rfl⟩
  | handled hslot hpub => exact ⟨.handled hslot hpub, rfl⟩
  | forwardPublished c hrun => exact ⟨.forwardPublished c hrun, rfl⟩
  | @originated content tag hidle route hroute =>
    have hne := producer_ne_sensor ha
    refine ⟨?_, Function.update_of_ne hne.symm _ _⟩
    have hstep : Step P n.withoutReading (.originate content tag) _ _ :=
      .originated ((Function.update_of_ne hne _ _).trans hidle) route hroute
    rwa [Node.withoutReading, Function.update_comm hne.symm] at hstep
  | @ownPublished who own hown =>
    have hne : who ≠ .sensor := by
      rintro rfl
      cases ha
    refine ⟨?_, Function.update_of_ne hne.symm _ _⟩
    have hstep : Step P n.withoutReading (.publishOwn who) _ _ :=
      .ownPublished own ((Function.update_of_ne hne _ _).trans hown)
    rwa [Node.withoutReading, Function.update_comm hne.symm] at hstep
  | ownDropped => cases ha
  | waited hbus => exact ⟨.waited hbus, rfl⟩
  | read hbus => exact ⟨.read hbus, rfl⟩
  | sent hbus hframe => exact ⟨.sent hbus hframe, rfl⟩
  | notSent hbus hframe => exact ⟨.notSent hbus hframe, rfl⟩
  | aged => exact ⟨.aged, rfl⟩

/-! ## A mesh whose nodes measure -/

/-- **A reading**: when its work began, and what the sensor is going to say. -/
structure Reading where
  now : UInt32
  backend : SensorBackend
deriving DecidableEq, Repr

namespace Reading

/-- What `ts_sensor_backend_read` returns, and what it makes of the message. -/
def result (r : Reading) : Int32 × TsMsgTelemetry := tsSensorBackendRead r.backend ⟨r.now, 0, 0, 0⟩

/-- The message that `periodic_work_handler` prepares, with what is read into it. -/
def content (r : Reading) : Content :=
  .sensor r.now r.result.2.temperature r.result.2.humidity r.result.2.pressure

/-- How `periodic_work_handler` goes on: it returns, or publishes. -/
def ending (r : Reading) : InnerAct := if r.result.1 ≠ 0 then .dropOwn else .publishOwn .sensor

/-- The time in the message is that of the reading. -/
theorem data_msg_content (r : Reading) (route : TsRouteHeader) :
    (r.content.msg route).data = .telemetry r.result.2 := by
  have htime : r.result.2.timestamp = r.now := tsSensorBackendRead_timestamp _ _
  change TsMsgData.telemetry ⟨r.now, _, _, _⟩ = _
  rw [← htime]

end Reading

/-- A mesh, and the reading that the sensor work of each node is at. -/
structure SensingMesh (ι : Type) where
  mesh : Mesh ι
  reading : ι → Option Reading

/-- **A step**: the sensor work of a node begins or ends, or anything else
happens. -/
inductive SensingAct (ι : Type) where
  | takeReading (i : ι) (r : Reading)
  | finish (i : ι)
  | other (a : MeshAct ι)

namespace SensingMesh

/-- The step of the mesh. -/
def meshAct (s : SensingMesh ι) : SensingAct ι → Option (MeshAct ι)
  | .takeReading i r => some (.originate i r.content)
  | .finish i => (s.reading i).map (fun r => .inner i r.ending)
  | .other a => if (a.nodeAct s.mesh).any (fun x => x.2.isSensorWork) then none else some a

variable [DecidableEq ι]

/-- What the sensor work of each node is at after a step. A restart ends it. -/
def readingAfter (s : SensingMesh ι) : SensingAct ι → ι → Option Reading
  | .takeReading i r => Function.update s.reading i (some r)
  | .finish i => Function.update s.reading i none
  | .other (.restart i _) => Function.update s.reading i none
  | .other _ => s.reading

/-- **One step.** -/
def step (D : Deployment ι) (s : SensingMesh ι) (a : SensingAct ι) : Option (SensingMesh ι) :=
  (s.meshAct a).bind (fun b => (meshStep D s.mesh b).map (fun m => ⟨m, s.readingAfter a⟩))

/-- What can be seen of it. -/
def events (D : Deployment ι) (s : SensingMesh ι) (a : SensingAct ι) : List (MeshEvent ι) :=
  (s.meshAct a).elim [] (meshEvents D s.mesh)

/-- Every node has booted. -/
def boot (D : Deployment ι) : SensingMesh ι := ⟨D.boot, fun _ => none⟩

/-- **A step of the mesh**, with what becomes of the readings. -/
theorem step_eq_some {D : Deployment ι} {s s' : SensingMesh ι} {a : SensingAct ι}
    (hs : s.step D a = some s') :
    ∃ b, s.meshAct a = some b ∧ MeshStep D s.mesh b s'.mesh (s.events D a)
      ∧ s'.reading = s.readingAfter a := by
  obtain ⟨b, hb, hs⟩ := Option.bind_eq_some_iff.mp hs
  obtain ⟨m, hm, rfl⟩ := Option.map_eq_some_iff.mp hs
  refine ⟨b, hb, ?_, rfl⟩
  rw [events, hb]
  exact MeshStep.of_meshStep hm

end SensingMesh

/-- **The sensors keep to their range**, and telemetry is the sensor work's:
an application originates none. -/
def SensingAct.Genuine : SensingAct ι → Prop
  | .takeReading _ r => r.backend.InRange
  | .other (.originate _ (.application _ data)) => ∀ tel, data ≠ .telemetry tel
  | _ => True

/-- Only the sensor work originates telemetry. -/
theorem SensingAct.Genuine.originate_ne_telemetry {m : Mesh ι} {a : MeshAct ι} {i : ι}
    {act : NodeAct (Trail ι)} (ha : (SensingAct.other a).Genuine)
    (hact : a.nodeAct m = some (i, act)) (hwork : act.isSensorWork = false) :
    ∀ content tag, act = .originate content tag → ∀ route tel,
      (content.msg route).data ≠ .telemetry tel := by
  rintro content tag rfl route tel
  obtain ⟨rfl, -⟩ := nodeAct_eq_originate hact
  cases content with
  | heartbeat now => exact TsMsgData.noConfusion
  | sensor => cases hwork
  | application dst data => exact ha tel

/-! ## Telemetry in transit -/

section Transit

variable {D : Deployment ι} {acts : List (SensingAct ι)}

/-- **The telemetry is of a reading that succeeded**, of the node that its
source names. -/
def Measured (D : Deployment ι) (acts : List (SensingAct ι)) (msg : TsMsgLoraOutgoing) : Prop :=
  ∀ tel, msg.data = .telemetry tel →
    ∃ i r, .takeReading i r ∈ acts ∧ D.nodeId i = msg.route.src ∧ r.result = (0, tel)

theorem Measured.append {msg : TsMsgLoraOutgoing} (h : Measured D acts msg)
    (new : List (SensingAct ι)) : Measured D (acts ++ new) msg := by
  intro tel htel
  obtain ⟨i, r, hmem, hrest⟩ := h tel htel
  exact ⟨i, r, List.mem_append_left new hmem, hrest⟩

/-- It stays so with the source and the data. -/
theorem Measured.of_agrees {msg msg' : TsMsgLoraOutgoing} (h : Measured D acts msg)
    (hsrc : msg'.route.src = msg.route.src) (hdata : msg.data.Agrees msg'.data) :
    Measured D acts msg' := by
  intro tel htel
  rw [htel] at hdata
  have hmsg : msg.data = .telemetry tel := by
    cases hd : msg.data with
    | telemetry tel₀ =>
      rw [hd] at hdata
      exact congrArg _ hdata
    | _ =>
      rw [hd] at hdata
      exact absurd hdata id
  rw [hsrc]
  exact h tel hmsg

theorem measured_of_ne {msg : TsMsgLoraOutgoing} (h : ∀ tel, msg.data ≠ .telemetry tel) :
    Measured D acts msg :=
  fun tel htel => absurd htel (h tel)

/-- **Where there is telemetry in a node**, it was measured; only the message
that the sensor work is at has still to be published or given up. -/
structure Node.AllMeasured (D : Deployment ι) (acts : List (SensingAct ι)) (i : ι)
    (reading : Option Reading) (n : Node (Trail ι)) : Prop where
  reading : ∀ c, n.producing .sensor = some c → ∃ r, reading = some r
    ∧ .takeReading i r ∈ acts ∧ c.msg.data = .telemetry r.result.2
    ∧ c.msg.route.src = D.nodeId i
  carries : n.withoutReading.Carries (fun c => Measured D acts c.msg)
    (fun c => Measured D acts c.msg) (fun c _ => Measured D acts c.msg)

variable {i : ι} {reading : Option Reading} {n n' : Node (Trail ι)} {P : Platform}
  {act : NodeAct (Trail ι)} {es : List (NodeEvent (Trail ι))}

theorem Node.AllMeasured.append (h : n.AllMeasured D acts i reading) (new : List (SensingAct ι)) :
    n.AllMeasured D (acts ++ new) i reading where
  reading := fun c hc => by
    obtain ⟨r, hr, hmem, hrest⟩ := h.reading c hc
    exact ⟨r, hr, List.mem_append_left new hmem, hrest⟩
  carries := h.carries.mono (fun _ hc => hc.append new) (fun _ hc => hc.append new)
    (fun _ _ hc => hc.append new)

/-- **A reading is begun.** -/
theorem Node.AllMeasured.takeReading (h : n.AllMeasured D acts i reading) {r : Reading}
    {tag : Trail ι} (hself : n.routing.selfNodeId = D.nodeId i) (hmem : .takeReading i r ∈ acts)
    (hs : Step P n (.originate r.content tag) n' es) :
    n'.AllMeasured D acts i (some r) ∧ ∀ c pub frame, .transmitted c pub frame ∉ es := by
  cases hs with
  | originated hidle route hroute =>
    refine ⟨⟨fun c hc => ⟨r, rfl, hmem, ?_⟩, ?_⟩, by simp⟩
    · change Function.update n.producing .sensor (some ⟨r.content.msg route, tag⟩) .sensor
        = some c at hc
      rw [Function.update_self] at hc
      cases hc
      refine ⟨r.data_msg_content route, ?_⟩
      change route.src = _
      rw [hroute, ← hself]
      rfl
    · have hcarries := h.carries
      refine ⟨hcarries.received, hcarries.ack, hcarries.pool, fun who c hc => ?_, hcarries.bus⟩
      rw [Node.withoutReading, show r.content.producer = Producer.sensor from rfl,
        Function.update_idem] at hc
      exact hcarries.own who c hc

/-- **A reading is ended**: what is published was measured. -/
theorem Node.AllMeasured.finish {r : Reading} (h : n.AllMeasured D acts i (some r))
    (hs : Step P n r.ending.act n' es) :
    n'.AllMeasured D acts i none ∧ ∀ c pub frame, .transmitted c pub frame ∉ es := by
  have hgone : ∀ c, Function.update n.producing .sensor none .sensor ≠ some c := by
    intro c hc
    rw [Function.update_self] at hc
    cases hc
  have hown : ∀ who c, Function.update (Function.update n.producing .sensor none) .sensor none who
      = some c → Measured D acts c.msg := by
    intro who c hc
    rw [Function.update_idem] at hc
    exact h.carries.own who c hc
  by_cases hret : r.result.1 = 0
  · rw [show r.ending.act = (.publishOwn .sensor : NodeAct (Trail ι)) by
      simp [Reading.ending, hret, InnerAct.act]] at hs
    cases hs with
    | ownPublished own howned =>
      obtain ⟨r', hr, hmem, hdata, hsrc⟩ := h.reading own howned
      cases hr
      have hmeasured : Measured D acts own.msg := by
        intro tel htel
        have heq : r.result.2 = tel := TsMsgData.telemetry.inj (hdata.symm.trans htel)
        exact ⟨i, r, hmem, hsrc.symm, Prod.ext hret heq⟩
      refine ⟨⟨fun c hc => absurd hc (hgone c), h.carries.received, h.carries.ack, h.carries.pool,
        hown, h.carries.bus.publish hmeasured⟩, by simp⟩
  · rw [show r.ending.act = (.dropOwn : NodeAct (Trail ι)) by
      simp [Reading.ending, hret, InnerAct.act]] at hs
    cases hs with
    | ownDropped own howned =>
      exact ⟨⟨fun c hc => absurd hc (hgone c), h.carries.received, h.carries.ack, h.carries.pool,
        hown, h.carries.bus⟩, by simp⟩

/-- No step but the sensor work's originates telemetry. -/
theorem Node.Step.originated_ne_telemetry (hs : Step P n act n' es)
    (happ : ∀ content tag, act = .originate content tag → ∀ route tel,
      (content.msg route).data ≠ .telemetry tel)
    {c : Copy (Trail ι)} (hc : .originated c ∈ es) (tel : TsMsgTelemetry) :
    c.msg.data ≠ .telemetry tel := by
  cases hs with
  | originated =>
    cases List.mem_singleton.mp hc
    exact happ _ _ rfl _ tel
  | configured =>
    rcases List.mem_cons.mp hc with hc | hc
    · cases hc
    · cases List.mem_singleton.mp hc
      exact TsMsgData.noConfusion
  | _ => simp at hc

/-- **Anything else** passes on what was measured. -/
theorem Node.AllMeasured.other (h : n.AllMeasured D acts i reading) (hs : Step P n act n' es)
    (hwork : act.isSensorWork = false)
    (happ : ∀ content tag, act = .originate content tag → ∀ route tel,
      (content.msg route).data ≠ .telemetry tel)
    (haccepted : ∀ c, .accepted c ∈ es → Measured D acts c.msg) :
    n'.AllMeasured D acts i reading ∧ ∀ c pub frame, .transmitted c pub frame ∈ es →
      Measured D acts c.msg ∧ loraOutFrame P c.msg = .ok frame := by
  obtain ⟨hwithout, hsame⟩ := hs.withoutReading hwork
  refine ⟨⟨fun c hc => h.reading c (hsame ▸ hc), ?_⟩,
    fun c pub frame hc => h.carries.transmitted hwithout hc⟩
  refine h.carries.step hwithout haccepted
    (fun c hc => measured_of_ne (hs.originated_ne_telemetry happ hc))
    (fun msg fwd tag hmsg hfwd => ?_) (fun _ _ hc _ => hc)
  obtain ⟨-, -, rfl, -⟩ := forwardOf_eq_some hfwd
  exact hmsg.of_agrees rfl (.refl _)

end Transit

/-! ## Over every run -/

section Runs

variable {D : Deployment ι} {acts : List (SensingAct ι)} {s s' : SensingMesh ι}

/-- **Where there is telemetry in a mesh**, it was measured. -/
structure SensingMesh.AllMeasured (D : Deployment ι) (acts : List (SensingAct ι))
    (s : SensingMesh ι) : Prop where
  selfId : ∀ j, (s.mesh.nodes j).routing.selfNodeId = D.nodeId j
  nodes : ∀ j, (s.mesh.nodes j).AllMeasured D acts j (s.reading j)
  air : ∀ t ∈ s.mesh.air, Measured D acts t.copy.msg
    ∧ loraOutFrame (D.platform t.sender) t.copy.msg = .ok t.frame

namespace SensingMesh.AllMeasured

/-- There is none at first. -/
theorem init : (SensingMesh.boot D).AllMeasured D [] where
  selfId := fun _ => rfl
  nodes := fun _ => ⟨(fun _ hc => nomatch hc), (Node.carries_boot _).withoutReading⟩
  air := fun _ ht => absurd ht List.not_mem_nil

theorem append (h : s.AllMeasured D acts) (new : List (SensingAct ι)) :
    s.AllMeasured D (acts ++ new) where
  selfId := h.selfId
  nodes := fun j => (h.nodes j).append new
  air := fun t ht => ⟨(h.air t ht).1.append new, (h.air t ht).2⟩

/-- **What a node accepts** was measured. -/
theorem accepted (h : s.AllMeasured D acts) {b : MeshAct ι} {i : ι} {act : NodeAct (Trail ι)}
    {n' : Node (Trail ι)} {es : List (NodeEvent (Trail ι))}
    (hact : b.nodeAct s.mesh = some (i, act))
    (hs : Step (D.platform i) (s.mesh.nodes i) act n' es) {c : Copy (Trail ι)}
    (hc : .accepted c ∈ es) : Measured D acts c.msg := by
  obtain ⟨frame, rssi, snr, now, rfl, hparse, -⟩ := hs.of_accepted_mem hc
  obtain ⟨k, t, -, ht, rfl, -⟩ := nodeAct_eq_receive hact
  obtain ⟨hmeasured, hframe⟩ := h.air t (List.mem_of_getElem? ht)
  obtain ⟨hroute, hdata⟩ := agrees_of_loraInParse (D.lawful t.sender)
    (D.zcbor_eq i t.sender) hframe hparse
  exact hmeasured.of_agrees (by rw [hroute]; rfl) hdata

variable [DecidableEq ι]

/-- A node that took a step. -/
theorem apply (h : s.AllMeasured D acts) {i : ι} {reading : Option Reading}
    {n' : Node (Trail ι)} {es : List (NodeEvent (Trail ι))}
    (hself : ∀ j, ((s.mesh.apply i n' es).nodes j).routing.selfNodeId = D.nodeId j)
    (hn' : n'.AllMeasured D acts i reading)
    (hsent : ∀ c pub frame, .transmitted c pub frame ∈ es →
      Measured D acts c.msg ∧ loraOutFrame (D.platform i) c.msg = .ok frame) :
    AllMeasured D acts ⟨s.mesh.apply i n' es, Function.update s.reading i reading⟩ := by
  refine ⟨hself, fun j => ?_, fun t ht => ?_⟩
  · by_cases hji : j = i
    · subst hji
      simp only [Mesh.apply_nodes_self, Function.update_self]
      exact hn'
    · simp only [Mesh.apply_nodes_of_ne hji, Function.update_of_ne hji]
      exact h.nodes j
  · rcases List.mem_append.mp ht with ht | ht
    · exact h.air t ht
    · obtain ⟨c, pub, frame, hc, rfl⟩ := mem_filterMap_transmission.mp ht
      exact hsent c pub frame hc

/-- A node that restarted. -/
theorem restart (h : s.AllMeasured D acts) {i : ι}
    {order : List (Sigma fun _ : CString => List UInt8)}
    (hself : ∀ j, ((s.mesh.restart i order).nodes j).routing.selfNodeId = D.nodeId j) :
    AllMeasured D acts ⟨s.mesh.restart i order, Function.update s.reading i none⟩ := by
  refine ⟨hself, fun j => ?_, h.air⟩
  by_cases hji : j = i
  · subst hji
    simp only [Mesh.restart_nodes_self, Function.update_self]
    exact ⟨(fun _ hc => nomatch hc), (carries_restart _ _).withoutReading⟩
  · simp only [Mesh.restart_nodes_of_ne hji, Function.update_of_ne hji]
    exact h.nodes j

/-- **Every step keeps it.** -/
theorem step (h : s.AllMeasured D acts) {a : SensingAct ι} (ha : a.Genuine)
    (hs : s.step D a = some s') : s'.AllMeasured D (acts ++ [a]) := by
  obtain ⟨b, hb, hstep, hreading⟩ := SensingMesh.step_eq_some hs
  have hself := hstep.selfNodeId_eq h.selfId
  have hlater := h.append [a]
  have hmem : a ∈ acts ++ [a] := List.mem_append_right acts (List.mem_singleton_self a)
  obtain ⟨mesh, reading⟩ := s'
  obtain rfl : reading = s.readingAfter a := hreading
  generalize s.events D a = mes at hstep
  cases a with
  | takeReading i r =>
    cases hb
    cases hstep with
    | node hact hst =>
      cases hact
      obtain ⟨hn', hquiet⟩ := (hlater.nodes i).takeReading (h.selfId i) hmem hst
      exact hlater.apply hself hn' (fun c pub frame hc => absurd hc (hquiet c pub frame))
    | restarted hact => cases hact
  | finish i =>
    obtain ⟨r, hr, rfl⟩ := Option.map_eq_some_iff.mp hb
    cases hstep with
    | node hact hst =>
      cases hact
      have hnode := hlater.nodes i
      rw [hr] at hnode
      obtain ⟨hn', hquiet⟩ := hnode.finish hst
      exact hlater.apply hself hn' (fun c pub frame hc => absurd hc (hquiet c pub frame))
    | restarted hact => cases hact
  | other a =>
    obtain ⟨hnot, rfl⟩ : (a.nodeAct s.mesh).any (fun x => x.2.isSensorWork) ≠ true ∧ a = b := by
      rw [SensingMesh.meshAct] at hb
      split at hb
      · cases hb
      · next hnot => exact ⟨hnot, Option.some.inj hb⟩
    cases hstep with
    | @node i act n' nes hact hst =>
      rw [hact, Option.any_some] at hnot
      have hwork : act.isSensorWork = false := Bool.eq_false_iff.mpr hnot
      have happ := ha.originate_ne_telemetry hact hwork
      obtain ⟨hn', hsent⟩ := (hlater.nodes i).other hst hwork happ
        (fun c hc => hlater.accepted hact hst hc)
      have hkeep : s.readingAfter (.other a) = s.reading := by
        cases a with
        | restart => cases hact
        | _ => rfl
      have happly := hlater.apply hself hn' hsent
      rwa [Function.update_eq_self, ← hkeep] at happly
    | restarted hact =>
      subst hact
      exact hlater.restart hself

end SensingMesh.AllMeasured

/-- **Telemetry was measured.** In every run of a mesh whose sensors keep to
their range, restarts included: when a node delivers telemetry, a node with the
id of its source has taken a reading that succeeded, at the time that the
telemetry names, and the telemetry is what the backend made of it. With a BME280
all of the driver's calls had returned zero, and the three values are those of
the driver, truncated toward zero, with no overflow on the way. A reading that
fails is never heard of. -/
theorem telemetry_measured [DecidableEq ι] (hacts : ∀ a ∈ acts, a.Genuine)
    (hrun : run (SensingMesh.step D) (SensingMesh.boot D) acts = some s) {a : SensingAct ι}
    (hs : s.step D a = some s') {j : ι} {c : Copy (Trail ι)}
    (hdelivered : .node j (.delivered c) ∈ s.events D a) {tel : TsMsgTelemetry}
    (htel : c.msg.data = .telemetry tel) :
    ∃ i r, .takeReading i r ∈ acts ∧ D.nodeId i = c.msg.route.src ∧ tel.timestamp = r.now
      ∧ r.result = (0, tel) ∧ r.backend.Reports tel := by
  have hall : s.AllMeasured D ([] ++ trace (SensingMesh.step D) (fun _ a => [a])
      (SensingMesh.boot D) acts) :=
    run_history_of_allSteps (P := fun _ a => a.Genuine)
      (J := fun s acts => s.AllMeasured D acts) (fun _ _ _ _ h ha hs => h.step ha hs)
      .init (allSteps_of_forall _ hacts) hrun
  rw [List.nil_append, trace_label hrun] at hall
  obtain ⟨b, -, hstep, -⟩ := SensingMesh.step_eq_some hs
  generalize s.events D a = mes at hstep hdelivered
  generalize s'.mesh = m' at hstep
  cases hstep with
  | @node i act n' nes hact hst =>
    obtain ⟨rfl, hmem⟩ := mem_heard_append.mp hdelivered
    have hmeasured : Measured D acts c.msg :=
      (hall.nodes j).carries.received c (hst.of_delivered_mem hmem).1
    obtain ⟨i, r, hr, hsrc, hresult⟩ := hmeasured tel htel
    have htime : r.result.2.timestamp = r.now := tsSensorBackendRead_timestamp _ _
    rw [hresult] at htime
    exact ⟨i, r, hr, hsrc, htime, hresult, SensorBackend.InRange.reports (hacts _ hr) hresult⟩
  | restarted => cases List.mem_singleton.mp hdelivered

end Runs

/-! ## A reading that arrives -/

/-- 3.2755 degrees below zero, 45.6789 percent and 101.325 kilopascals. -/
def frostyBme280 : Bme280 :=
  ⟨true, 0, (0, ⟨-3, -275500⟩), (0, ⟨45, 678900⟩), (0, ⟨101, 325000⟩)⟩

/-- The device of a node does not answer, and then it does. Another node receives
what is sent. -/
def failsThenReports (i j : Fin 2) : List (SensingAct (Fin 2)) :=
  [.takeReading i ⟨1, .bme280 { frostyBme280 with sampleFetch := -Errno.EIO }⟩, .finish i,
    .takeReading i ⟨61, .bme280 frostyBme280⟩, .finish i, .other (.inner i .outWait),
    .other (.inner i .outRead), .other (.inner i .outSend), .other (.receive j 0 (-80) 5 61)]

/-- Delivered telemetry and its source. -/
def deliveredTelemetry : MeshEvent (Fin 2) → Option (UInt16 × TsMsgTelemetry)
  | .node _ (.delivered ⟨⟨route, .telemetry tel⟩, _⟩) => some (route.src, tel)
  | _ => none

theorem inRange_frosty : frostyBme280.InRange where
  ambientTemp := fun _ => ⟨⟨by decide, by decide⟩, by decide, by decide⟩
  humidity := fun _ => ⟨⟨by decide, by decide⟩, by decide, by decide⟩
  press := fun _ => ⟨⟨by decide, by decide⟩, by decide, by decide⟩

/-- The second node hears of the second reading, whatever the first one was. -/
theorem telemetry_measured_frosty : ∃ i r, .takeReading i r ∈ failsThenReports 0 1
    ∧ twoNodes.nodeId i = 1 ∧ r.result = (0, ⟨61, -327, 4567, 101325⟩)
    ∧ r.backend.Reports ⟨61, -327, 4567, 101325⟩ := by
  have heval : (run (SensingMesh.step twoNodes) (SensingMesh.boot twoNodes)
      (failsThenReports 0 1)).map (fun s => ((s.step twoNodes (.other (.deliver 1 0))).isSome,
        (s.events twoNodes (.other (.deliver 1 0))).filterMap deliveredTelemetry))
      = some (true, [(1, ⟨61, -327, 4567, 101325⟩)]) := by decide +kernel
  obtain ⟨s, hrun, hfacts⟩ := Option.map_eq_some_iff.mp heval
  obtain ⟨hsome, htel⟩ := Prod.mk.inj hfacts
  obtain ⟨s', hs⟩ := Option.isSome_iff_exists.mp hsome
  obtain ⟨e, he, hdelivered⟩ := List.mem_filterMap.mp (htel ▸ List.mem_cons_self)
  have hacts : ∀ a ∈ failsThenReports 0 1, a.Genuine := by
    simp only [failsThenReports, List.forall_mem_cons]
    exact ⟨⟨inRange_frosty.ambientTemp, inRange_frosty.humidity, inRange_frosty.press⟩, trivial,
      inRange_frosty, trivial, trivial, trivial, trivial, trivial,
      fun _ ha => absurd ha List.not_mem_nil⟩
  unfold deliveredTelemetry at hdelivered
  split at hdelivered
  · obtain ⟨hsrc, htel⟩ := Prod.mk.inj (Option.some.inj hdelivered)
    obtain ⟨i, r, hr, hid, -, hresult, hreports⟩ := telemetry_measured hacts hrun hs he rfl
    rw [htel] at hresult hreports
    exact ⟨i, r, hr, hid.trans hsrc, hresult, hreports⟩
  · cases hdelivered

end Terrascope
