import Terrascope.MeshProvenance

/-!
# The direct flag

A neighbour is marked direct when a message of it comes in with the receiver's
own `routing_ttl`, on the assumption that all nodes start with the same. Over
the mesh each node has its own, and `ts_config_set` changes it on one node
alone. A relayed message then has the receiver's TTL by coincidence, and its
originator, who may be far out of range, is marked direct.

The flag is sound in every state of a run exactly when no message comes in
that way (`direct_sound_iff`).
-/

namespace Terrascope

open Node Transition

variable {ι : Type}

/-! ## What the flag should mean -/

/-- **Node `j` has received a frame that node `i` transmitted.** -/
def HeardFrom (m : Mesh ι) (es : List (MeshEvent ι)) (j i : ι) : Prop :=
  ∃ k t, .received j k ∈ es ∧ m.air[k]? = some t ∧ t.sender = i

/-- **The flag is sound**: a node that `ts_routing_table_lookup` calls direct
was heard itself. -/
def DirectSound (D : Deployment ι) : Mesh ι × List (MeshEvent ι) → Prop
  | (m, es) => ∀ j i nb, tsRoutingTableLookup (m.nodes j).table (D.nodeId i) = .ok nb →
    nb.direct = true → HeardFrom m es j i

/-- **A frame that the node accepts**, and the message in it. -/
structure Accepts {τ : Type} (P : Platform) (n : Node τ) (frame : List UInt8)
    (msg : TsMsgLoraOutgoing) : Prop where
  listening : n.rx = .listening
  short : frame.length ≤ LORA_RX_BUFFER_SIZE
  parse : loraInParse P frame = some msg
  other : msg.route.src ≠ n.routing.selfNodeId
  unseen : tsRoutingIsDuplicate n.routing msg.route = false

/-- **The TTL tells the truth**: a message that is accepted with the receiver's
own TTL was transmitted by its originator, or that one was heard before. -/
def TtlTellsDirect (D : Deployment ι) : Mesh ι × List (MeshEvent ι) → MeshAct ι → Prop
  | (m, es), .receive j k _ _ _ => ∀ t msg i, m.air[k]? = some t →
    Accepts (D.platform j) (m.nodes j) t.frame msg →
    msg.route.ttl = (m.nodes j).cfg.routingTtl → msg.route.src = D.nodeId i →
    t.sender = i ∨ HeardFrom m es j i
  | _, _ => True

/-- What was heard stays heard. -/
theorem HeardFrom.append {m m' : Mesh ι} {es : List (MeshEvent ι)} {j i : ι}
    (h : HeardFrom m es j i) {new : List (Transmission ι)} (hair : m'.air = m.air ++ new)
    (more : List (MeshEvent ι)) : HeardFrom m' (es ++ more) j i := by
  obtain ⟨k, t, hk, ht, hi⟩ := h
  refine ⟨k, t, List.mem_append_left _ hk, ?_, hi⟩
  rw [hair]
  exact getElem?_append_of_eq_some ht new

/-! ## One step of a node -/

/-- **A step of a node makes no new entry**, unless it accepts a frame. -/
theorem Node.Step.table_cases {τ : Type} {P : Platform} {n n' : Node τ} {a : NodeAct τ}
    {es : List (NodeEvent τ)} (hs : Step P n a n' es) :
    (∃ frame tag rssi snr now msg, a = .receive frame tag rssi snr now ∧ Accepts P n frame msg
        ∧ n'.table = (tsRoutingTableUpdate n.cfg now n.table msg.route.src rssi snr
          msg.route.ttl).1)
      ∨ (UniqueIds n.table → UniqueIds n'.table)
        ∧ ∀ e, (n'.table e).occupied = true → n'.table e = n.table e := by
  cases hs with
  | accepted hrx hlen hparse hsrc hdup =>
    exact Or.inl ⟨_, _, _, _, _, _, rfl, ⟨hrx, hlen, hparse, hsrc, hdup⟩, rfl⟩
  | aged => exact Or.inr ⟨fun h => h.age _ _, fun _ hocc => eq_of_aged hocc⟩
  | _ => exact Or.inr ⟨id, fun _ _ => rfl⟩

/-! ## One step of the mesh -/

variable {D : Deployment ι} {m m' : Mesh ι} {es : List (MeshEvent ι)}

/-- A node restarts with an empty table. -/
theorem restart_table (n : Node (Trail ι)) (order : List (Sigma fun _ : CString => List UInt8)) :
    (n.restart order).table = tsRoutingTableInit := rfl

/-- **An entry that was there is sound as it was.** -/
theorem DirectSound.of_entry (h : DirectSound D (m, es)) {j i : ι}
    (hu : UniqueIds (m.nodes j).table) {e : Fin TS_ROUTING_TABLE_SIZE}
    (hocc : ((m.nodes j).table e).occupied = true)
    (hid : ((m.nodes j).table e).nodeId = D.nodeId i)
    (hdirect : ((m.nodes j).table e).direct = true) : HeardFrom m es j i :=
  h j i _ (hid ▸ hu.lookup hocc) hdirect

variable [DecidableEq ι]

/-- **Every step keeps the ids of the tables unique.** -/
theorem uniqueIds_step (h : ∀ j, UniqueIds (m.nodes j).table) {a : MeshAct ι}
    {mes : List (MeshEvent ι)} (hs : MeshStep D m a m' mes) (j : ι) :
    UniqueIds (m'.nodes j).table := by
  cases hs with
  | @node i act n' nes hact hstep =>
    refine Mesh.forall_apply (p := fun _ n => UniqueIds n.table) ?_ (fun j _ => h j) j
    rcases hstep.table_cases with ⟨_, _, _, _, _, _, -, -, htable⟩ | ⟨hkeep, -⟩
    · rw [htable]
      exact (h i).update
    · exact hkeep (h i)
  | @restarted i order hact hperm hid =>
    refine Mesh.forall_restart (p := fun _ n => UniqueIds n.table) ?_ (fun j _ => h j) j
    rw [restart_table]
    exact uniqueIds_init

/-- **A step in which the TTL tells the truth keeps the flag sound.** -/
theorem DirectSound.step (h : DirectSound D (m, es)) (hu : ∀ j, UniqueIds (m.nodes j).table)
    {a : MeshAct ι} (ha : TtlTellsDirect D (m, es) a) {mes : List (MeshEvent ι)}
    (hs : MeshStep D m a m' mes) : DirectSound D (m', es ++ mes) := by
  intro j i nb hlookup hdirect
  obtain ⟨e, hocc, hid, rfl⟩ := lookup_eq_ok hlookup
  cases hs with
  | @node i' act n' nes hact hstep =>
    have hkept : HeardFrom m es j i → HeardFrom (m.apply i' n' nes)
        (es ++ (a.heard ++ nes.map (.node i'))) j i := fun hold => hold.append rfl _
    by_cases hji : j = i'
    · subst hji
      rw [Mesh.apply_nodes_self] at hocc hid hdirect
      rcases hstep.table_cases with ⟨frame, tag, rssi, snr, now, msg, rfl, hacc, htable⟩ |
        ⟨-, hold⟩
      · obtain ⟨k, t, rfl, ht, rfl, -⟩ := nodeAct_eq_receive hact
        rw [htable] at hocc hid hdirect
        rcases entry_of_update e with heq | ⟨hsrc, hflag⟩
        · rw [heq] at hocc hid hdirect
          exact hkept (h.of_entry (hu j) hocc hid hdirect)
        -- direct now: by this frame's own hop count, or already before it
        · rcases hflag hdirect with httl | ⟨hocc', hid', hdirect'⟩
          · rcases ha t msg i ht hacc httl (hsrc.symm.trans hid) with hsender | hold
            · refine ⟨k, t, ?_, ?_, hsender⟩
              · exact List.mem_append_right _ (List.mem_append_left _ List.mem_cons_self)
              · exact getElem?_append_of_eq_some ht _
            · exact hkept hold
          · exact hkept (h.of_entry (hu j) hocc' (hid'.trans (hsrc.symm.trans hid)) hdirect')
      -- nothing else a node does adds an entry, aging only removes some
      · have heq := hold e hocc
        rw [heq] at hocc hid hdirect
        exact hkept (h.of_entry (hu j) hocc hid hdirect)
    · rw [Mesh.apply_nodes_of_ne hji] at hocc hid hdirect
      exact hkept (h.of_entry (hu j) hocc hid hdirect)
  | @restarted i' order hact hperm hself =>
    by_cases hji : j = i'
    · rw [hji, Mesh.restart_nodes_self, restart_table] at hocc
      cases hocc
    · rw [Mesh.restart_nodes_of_ne hji] at hocc hid hdirect
      exact (h.of_entry (hu j) hocc hid hdirect).append (List.append_nil _).symm _

/-- **A step in which the TTL does not tell the truth** is one, and the flag is
not sound after it. -/
theorem not_directSound_of_not_ttlTellsDirect (hu : ∀ j, UniqueIds (m.nodes j).table)
    {a : MeshAct ι} (ha : ¬ TtlTellsDirect D (m, es) a) :
    ∃ m', meshStep D m a = some m' ∧ ¬ DirectSound D (m', es ++ meshEvents D m a) := by
  cases a with
  | receive j k rssi snr now =>
    simp only [TtlTellsDirect, not_forall] at ha
    obtain ⟨t, msg, i, ht, hacc, httl, hsrc, hnot⟩ := ha
    have hstep := receive_of_new hacc.listening hacc.short hacc.parse hacc.other hacc.unseen
      t.trail rssi snr now
    obtain ⟨hs, hes⟩ := meshStep_receive ht hstep
    refine ⟨_, hs, fun hsound => hnot ?_⟩
    obtain ⟨e, hocc, hid, hdirect⟩ := exists_entry_of_update (m.nodes j).cfg now
      (m.nodes j).table msg.route.src rssi snr msg.route.ttl
    have hlookup := (hu j).update.lookup hocc
    rw [hid.trans hsrc] at hlookup
    rw [hes] at hsound
    obtain ⟨k', t', hk', ht', hsender⟩ := hsound j i _
      (by rw [Mesh.apply_nodes_self]; exact hlookup) (hdirect httl)
    -- the step transmits nothing, and what was received is the frame or older
    have hair : m.air[k']? = some t' := by
      rw [← ht']
      exact congrArg (fun air => air[k']?) (List.append_nil m.air).symm
    rcases List.mem_append.mp hk' with hk' | hk'
    · exact Or.inr ⟨k', t', hk', hair, hsender⟩
    · rcases List.mem_cons.mp hk' with heq | hk'
      · cases heq
        exact Or.inl (Option.some.inj (ht.symm.trans hair) ▸ hsender)
      · simp at hk'
  | _ => exact absurd trivial ha

/-- **The direct flag is sound exactly as long as the TTL tells the truth.** In
every run of a mesh, whatever its nodes set their `routing_ttl` to meanwhile:
every node that a lookup calls direct was heard itself, in every state of the
run, if and only if no step lets a node accept a relayed message with the
node's own TTL before it has heard the originator. -/
theorem direct_sound_iff (D : Deployment ι) (acts : List (MeshAct ι)) :
    AllStates (logged (meshStep D) (meshEvents D)) (DirectSound D) (D.boot, []) acts
      ↔ AllSteps (logged (meshStep D) (meshEvents D)) (TtlTellsDirect D) (D.boot, []) acts := by
  refine allStates_iff_allSteps (I := fun s => ∀ j, UniqueIds (s.1.nodes j).table)
    ?_ ?_ ?_ acts (fun _ => uniqueIds_init) (fun _ _ _ h _ => ?_)
  · rintro ⟨m, es⟩ a s' hu - hs
    obtain ⟨m', hm', rfl⟩ := logged_eq_some.mp hs
    exact uniqueIds_step hu (MeshStep.of_meshStep hm')
  · rintro ⟨m, es⟩ a s' hu hsound ha hs
    obtain ⟨m', hm', rfl⟩ := logged_eq_some.mp hs
    exact hsound.step hu ha (MeshStep.of_meshStep hm')
  · rintro ⟨m, es⟩ a hu - ha
    obtain ⟨m', hm', hnot⟩ := not_directSound_of_not_ttlTellsDirect hu ha
    exact ⟨(m', es ++ meshEvents D m a), logged_eq_some.mpr ⟨m', hm', rfl⟩, hnot⟩
  · obtain ⟨e, hocc, -, -⟩ := lookup_eq_ok h
    cases hocc

/-- Nodes 1, 2 and 3, the last of which starts with a TTL of 4 where the others
start with 5. -/
def unlikeTtls : Deployment Trio :=
  threeNodes (fun
    | .near => ConfigState.empty
    | .middle => configuredWith (cstr "node_id") 2
    | .far => (tsConfigSet (configuredWith (cstr "node_id") 3) (cstr "routing_ttl") 4 0).1)

/-- Node 2 forwards a heartbeat of node 1, and node 3 hears the forward. -/
def heardByRelay (slot : Fin TS_CONTENTION_POOL_SIZE) : List (MeshAct Trio) :=
  sendsOwn .near (.heartbeat 60) ++ relaysFrame .middle 0 slot ++ [.receive .far 1 (-80) 5 62]

/-- The transmissions a node has received. -/
def receivedBy (j : Trio) : MeshEvent Trio → Option ℕ
  | .received i k => if i = j then some k else none
  | _ => none

/-- **Node 3 takes node 1 for a direct neighbour**, though all that it has
received was sent by node 2. -/
theorem heardByRelay_not_direct :
    Function.Injective unlikeTtls.nodeId
      ∧ ¬ AllStates (logged (meshStep unlikeTtls) (meshEvents unlikeTtls)) (DirectSound unlikeTtls)
        (unlikeTtls.boot, []) (heardByRelay 0) := by
  have hnear : unlikeTtls.nodeId .near = 1 := by decide +kernel
  refine ⟨injective_trio (by decide +kernel) (by decide +kernel) (by decide +kernel),
    fun hsound => ?_⟩
  have hrun : (run (logged (meshStep unlikeTtls) (meshEvents unlikeTtls)) (unlikeTtls.boot, [])
      (heardByRelay 0)).map (fun s =>
        ((tsRoutingTableLookup (s.1.nodes .far).table 1).map TsNeighbor.direct,
          s.2.filterMap (receivedBy .far), s.1.air.map Transmission.sender))
        = some (.ok true, [1], [.near, .middle]) := by decide +kernel
  obtain ⟨⟨m, es⟩, hs, hfacts⟩ := Option.map_eq_some_iff.mp hrun
  simp only [Prod.mk.injEq] at hfacts
  obtain ⟨hlookup, hreceived, hsenders⟩ := hfacts
  obtain ⟨nb, hnb, hdirect⟩ : ∃ nb, tsRoutingTableLookup (m.nodes .far).table 1 = .ok nb
      ∧ nb.direct = true := by
    cases hnb : tsRoutingTableLookup (m.nodes .far).table 1 with
    | error e =>
      rw [hnb] at hlookup
      cases hlookup
    | ok nb =>
      rw [hnb] at hlookup
      exact ⟨nb, rfl, Except.ok.inj hlookup⟩
  obtain ⟨k, t, hk, ht, hsender⟩ := hsound.last hs .far .near nb
    (by rw [hnear]; exact hnb) hdirect
  -- the only transmission `far` received is the second on the air, sent by `middle`
  have hmem : k ∈ es.filterMap (receivedBy .far) :=
    List.mem_filterMap.mpr ⟨_, hk, rfl⟩
  rw [hreceived, List.mem_singleton] at hmem
  have hsecond : (m.air.map Transmission.sender)[k]? = some .near := by
    rw [List.getElem?_map, ht, Option.map_some, hsender]
  rw [hsenders, hmem] at hsecond
  cases hsecond

end Terrascope
