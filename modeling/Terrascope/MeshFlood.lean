import Terrascope.MeshProvenance

/-!
# Floods are bounded

Two copies of a message differ by their trails, unless one of them was
multiplied on the way. A node multiplies nothing (`inFlight_step`), so all
there is to a flood is the air, where every node may hear a transmission.
If a publication is transmitted at most once and a transmission received at
most once by each node, a message is published once at most along each path
(`publicationsAt_le_one`), and the paths are those that leave the originator
for good.

The duplicate caches have no part in this: what they recognise or forget,
and that a restart clears them, makes no difference.
-/

namespace Terrascope

open Node Transition RootedPaths

variable {ι : Type}

/-! ## What is counted -/

/-- The publication a transmission is of: its node and its number there. -/
def Transmission.publication (t : Transmission ι) : ι × ℕ := (t.sender, t.pub)

/-- The reception a step is: the node and the number of the transmission. -/
def reception : MeshEvent ι → Option (ι × ℕ)
  | .received i k => some (i, k)
  | _ => none

/-- The publication of a copy of origination `k`: the node and the copy. -/
def floodPublication (k : ℕ) : MeshEvent ι → Option (ι × Copy (Trail ι))
  | .node i (.published c _) => if c.tag.origin = k then some (i, c) else none
  | _ => none

variable [DecidableEq ι]

/-- An event of the node. -/
def atNode (j : ι) (p : NodeEvent (Trail ι) → Bool) : MeshEvent ι → Bool
  | .node i e => i = j && p e
  | _ => false

/-- How often a node published a copy with the trail. -/
def publicationsAt (es : List (MeshEvent ι)) (j : ι) (t : Trail ι) : ℕ :=
  es.countP (atNode j (·.publishes t))

/-- How many copies with the trail a node took in. -/
def intakeAt (es : List (MeshEvent ι)) (j : ι) (t : Trail ι) : ℕ :=
  es.countP (atNode j (·.takesIn t))

/-- The reception is one at the node, of a transmission with the trail. -/
def heardAs (air : List (Transmission ι)) (j : ι) (t : Trail ι) (x : ι × ℕ) : Bool :=
  x.1 = j && (air[x.2]?).any (fun s => s.trail = t)

/-- **The flow through the nodes**: they hold and publish what they took in.
What has come over the air was received, and the originator takes its own
message in once. -/
structure FlowInv (m : Mesh ι) (es : List (MeshEvent ι)) : Prop where
  inFlight : ∀ j t, (m.nodes j).inFlight t + publicationsAt es j t ≤ intakeAt es j t
  received : ∀ j t, t.path ≠ [] →
    intakeAt es j t ≤ (es.filterMap reception).countP (heardAs m.air j t)
  originated : ∀ j k, intakeAt es j ⟨k, []⟩ ≤ if k < m.originations.length then 1 else 0

/-! ## One step of the mesh -/

/-- **The events of a step** are events of the node that took it. -/
theorem countP_atNode (a : MeshAct ι) (i j : ι) (p : NodeEvent (Trail ι) → Bool)
    (nes : List (NodeEvent (Trail ι))) :
    (a.heard ++ nes.map (MeshEvent.node i)).countP (atNode j p)
      = if i = j then nes.countP p else 0 := by
  have hheard : a.heard.countP (atNode j p) = 0 := by
    cases a <;> rfl
  rw [List.countP_append, hheard, Nat.zero_add, List.countP_map]
  by_cases hij : i = j
  · rw [if_pos hij]
    refine List.countP_congr (fun e _ => ?_)
    simp [atNode, hij]
  · rw [if_neg hij, List.countP_eq_zero]
    intro e _
    simp [atNode, hij]

theorem heardAs_iff {air : List (Transmission ι)} {j : ι} {t : Trail ι} {x : ι × ℕ} :
    heardAs air j t x = true ↔ x.1 = j ∧ ∃ s, air[x.2]? = some s ∧ s.trail = t := by
  unfold heardAs
  simp only [Bool.and_eq_true, decide_eq_true_eq, Option.any_eq_true]

/-- What was received stays received, and what was taken in too. -/
theorem countP_heardAs_append (air new : List (Transmission ι)) (j : ι) (t : Trail ι)
    (xs ys : List (ι × ℕ)) : xs.countP (heardAs air j t) + ys.countP (heardAs (air ++ new) j t)
      ≤ (xs ++ ys).countP (heardAs (air ++ new) j t) := by
  rw [List.countP_append]
  refine Nat.add_le_add_right (List.countP_mono_left (fun x _ hx => ?_)) _
  obtain ⟨hj, s, hs, ht⟩ := heardAs_iff.mp hx
  exact heardAs_iff.mpr ⟨hj, s, getElem?_append_of_eq_some hs new, ht⟩

/-- A node that restarts has nothing in flight. -/
theorem inFlight_restart (n : Node (Trail ι))
    (order : List (Sigma fun _ : CString => List UInt8)) (t : Trail ι) :
    (n.restart order).inFlight t = 0 :=
  inFlight_boot (tsConfigInit n.config 0 0 order).1 t

variable {D : Deployment ι} {m m' : Mesh ι} {es : List (MeshEvent ι)}

theorem flowInv_boot (D : Deployment ι) : FlowInv D.boot [] where
  inFlight := fun j t => by
    have hzero : (D.boot.nodes j).inFlight t = 0 := inFlight_boot (D.config j) t
    rw [hzero]
    exact Nat.le_refl 0
  received := fun _ _ _ => Nat.zero_le _
  originated := fun _ _ => Nat.zero_le _

/-- **What a step takes in** it has received over the air, or originates. -/
theorem takesIn_of_nodeAct {a : MeshAct ι} {i : ι} {act : NodeAct (Trail ι)}
    {n' : Node (Trail ι)} {nes : List (NodeEvent (Trail ι))}
    (hact : a.nodeAct m = some (i, act)) (hstep : Step (D.platform i) (m.nodes i) act n' nes)
    (t : Trail ι) :
    nes.countP (·.takesIn t) = 0
      ∨ (nes.countP (·.takesIn t) = 1 ∧ ∃ k, a.heard = [.received i k]
        ∧ ∃ s, m.air[k]? = some s ∧ s.trail = t)
      ∨ (nes.countP (·.takesIn t) = 1 ∧ t = ⟨m.originations.length, []⟩
        ∧ (nes.filterMap (origination i)).length = 1) := by
  rcases takesIn_cases hstep t with hzero | ⟨hone, c, rfl, hc | hc⟩
  · exact Or.inl hzero
  · obtain ⟨frame, rssi, snr, now, rfl, -⟩ := hstep.of_accepted_mem hc
    obtain ⟨k, s, rfl, hs, -, htag⟩ := nodeAct_eq_receive hact
    exact Or.inr (Or.inl ⟨hone, k, rfl, s, hs, htag.symm⟩)
  · have hnew := congrArg List.length (filterMap_origination_eq hstep hc i)
    exact Or.inr (Or.inr ⟨hone, tag_eq_of_originated hact hstep hc, hnew⟩)

/-- What is counted at a node after a step of some node. -/
theorem countP_atNode_append (es : List (MeshEvent ι)) (a : MeshAct ι) (i j : ι)
    (p : NodeEvent (Trail ι) → Bool) (nes : List (NodeEvent (Trail ι))) :
    (es ++ (a.heard ++ nes.map (MeshEvent.node i))).countP (atNode j p)
      = es.countP (atNode j p) + if i = j then nes.countP p else 0 := by
  rw [List.countP_append, countP_atNode]

section NodeStep

variable {a : MeshAct ι} {i : ι} {act : NodeAct (Trail ι)} {n' : Node (Trail ι)}
  {nes : List (NodeEvent (Trail ι))}

/-- The node that moves multiplies nothing, and the others do not move. -/
theorem FlowInv.inFlight_node (h : FlowInv m es)
    (hstep : Step (D.platform i) (m.nodes i) act n' nes) (j : ι) (t : Trail ι) :
    ((m.apply i n' nes).nodes j).inFlight t
        + publicationsAt (es ++ (a.heard ++ nes.map (MeshEvent.node i))) j t
      ≤ intakeAt (es ++ (a.heard ++ nes.map (MeshEvent.node i))) j t := by
  have hbefore := h.inFlight j t
  unfold publicationsAt intakeAt at hbefore ⊢
  rw [countP_atNode_append, countP_atNode_append]
  by_cases hij : i = j
  · subst hij
    have hmoved := inFlight_step hstep t
    rw [Mesh.apply_nodes_self, if_pos rfl, if_pos rfl]
    omega
  · rw [Mesh.apply_nodes_of_ne (Ne.symm hij), if_neg hij, if_neg hij]
    exact hbefore

/-- A copy that comes over the air comes with its reception. -/
theorem FlowInv.received_node (h : FlowInv m es) (hact : a.nodeAct m = some (i, act))
    (hstep : Step (D.platform i) (m.nodes i) act n' nes) (j : ι) {t : Trail ι}
    (ht : t.path ≠ []) :
    intakeAt (es ++ (a.heard ++ nes.map (MeshEvent.node i))) j t
      ≤ ((es ++ (a.heard ++ nes.map (MeshEvent.node i))).filterMap reception).countP
          (heardAs (m.apply i n' nes).air j t) := by
  have hbefore := h.received j t ht
  have hlater := countP_heardAs_append m.air (nes.filterMap (transmission i)) j t
    (es.filterMap reception) ((a.heard ++ nes.map (MeshEvent.node i)).filterMap reception)
  unfold intakeAt at hbefore ⊢
  rw [countP_atNode_append, List.filterMap_append]
  refine le_trans (Nat.add_le_add hbefore ?_) hlater
  by_cases hij : i = j
  · rw [if_pos hij]
    rcases takesIn_of_nodeAct hact hstep t with hzero | ⟨hone, k, hheard, s, hs, hst⟩ |
      ⟨-, rfl, -⟩
    · rw [hzero]
      exact Nat.zero_le _
    · have hnow : heardAs (m.air ++ nes.filterMap (transmission i)) j t (i, k) = true :=
        heardAs_iff.mpr ⟨hij, s, getElem?_append_of_eq_some hs _, hst⟩
      rw [hone, hheard]
      exact List.countP_pos_iff.mpr ⟨(i, k), List.mem_cons_self, hnow⟩
    · exact absurd rfl ht
  · rw [if_neg hij]
    exact Nat.zero_le _

/-- A copy with no path is taken in where its origination is made. -/
theorem FlowInv.originated_node (h : FlowInv m es) (hact : a.nodeAct m = some (i, act))
    (hstep : Step (D.platform i) (m.nodes i) act n' nes) (j : ι) (k : ℕ) :
    intakeAt (es ++ (a.heard ++ nes.map (MeshEvent.node i))) j ⟨k, []⟩
      ≤ if k < (m.apply i n' nes).originations.length then 1 else 0 := by
  have hbefore := h.originated j k
  unfold intakeAt at hbefore ⊢
  unfold Mesh.apply
  rw [countP_atNode_append, List.length_append]
  rcases takesIn_of_nodeAct hact hstep ⟨k, []⟩ with hzero | ⟨-, k', -, s, -, hst⟩ |
    ⟨hone, hk, hnew⟩
  · rw [hzero, ite_self, Nat.add_zero]
    refine le_trans hbefore ?_
    split <;> split <;> omega
  · -- what was received has a path
    exact absurd (congrArg Trail.path hst) (by simp [Transmission.trail])
  · obtain rfl : k = m.originations.length := congrArg Trail.origin hk
    rw [if_neg (lt_irrefl _)] at hbefore
    rw [hnew, if_pos (Nat.lt_succ_self _), hone]
    split <;> omega

end NodeStep

/-- A restart loses what is in flight and makes no difference otherwise. -/
theorem FlowInv.restarted (h : FlowInv m es) (i : ι)
    (order : List (Sigma fun _ : CString => List UInt8)) :
    FlowInv (m.restart i order) (es ++ [.restarted i]) := by
  have hcount : ∀ j p, (es ++ [MeshEvent.restarted i]).countP (atNode j p)
      = es.countP (atNode j p) := by
    intro j p
    rw [List.countP_append]
    rfl
  have hreception : (es ++ [MeshEvent.restarted i]).filterMap reception
      = es.filterMap reception := by
    rw [List.filterMap_append]
    exact List.append_nil _
  refine ⟨fun j t => ?_, fun j t ht => ?_, fun j k => ?_⟩
  · have hbefore := h.inFlight j t
    unfold publicationsAt intakeAt at hbefore ⊢
    rw [hcount, hcount]
    by_cases hji : j = i
    · rw [hji] at hbefore ⊢
      rw [Mesh.restart_nodes_self, inFlight_restart]
      omega
    · rw [Mesh.restart_nodes_of_ne hji]
      exact hbefore
  · unfold intakeAt
    rw [hcount, hreception]
    exact h.received j t ht
  · unfold intakeAt
    rw [hcount]
    exact h.originated j k

/-- **Every step of the mesh keeps the flow.** -/
theorem FlowInv.step (h : FlowInv m es) {a : MeshAct ι} {mes : List (MeshEvent ι)}
    (hs : MeshStep D m a m' mes) : FlowInv m' (es ++ mes) := by
  cases hs with
  | node hact hstep =>
    exact ⟨h.inFlight_node hstep, fun j _ ht => h.received_node hact hstep j ht,
      h.originated_node hact hstep⟩
  | restarted => exact h.restarted _ _

/-- The flow at the end of a run. -/
theorem flowInv_run {acts : List (MeshAct ι)} (hrun : run (meshStep D) D.boot acts = some m) :
    FlowInv m (trace (meshStep D) (meshEvents D) D.boot acts) :=
  run_history (J := FlowInv) (fun _ _ _ _ h hs' => h.step (MeshStep.of_meshStep hs'))
    (flowInv_boot D) hrun

/-! ## Publications have numbers -/

/-- The node and the number of a publication. -/
def publicationNumber : MeshEvent ι → Option (ι × ℕ)
  | .node i (.published _ pub) => some (i, pub)
  | _ => none

/-- **Numbers of publications are used once**: they are distinct and no higher
than the node's count. -/
structure NumberedInv (m : Mesh ι) (es : List (MeshEvent ι)) : Prop where
  le_pubs : ∀ x ∈ es.filterMap publicationNumber, x.2 ≤ (m.nodes x.1).bus.chan.pubs
  nodup : (es.filterMap publicationNumber).Nodup

omit [DecidableEq ι] in
/-- The publication of a step, if it is one, has the next number. -/
theorem filterMap_publicationNumber_cases {n n' : Node (Trail ι)} {P : Platform}
    {act : NodeAct (Trail ι)} {nes : List (NodeEvent (Trail ι))} (hstep : Step P n act n' nes)
    (a : MeshAct ι) (i : ι) :
    ((a.heard ++ nes.map (MeshEvent.node i)).filterMap publicationNumber = []
        ∧ n'.bus.chan.pubs = n.bus.chan.pubs)
      ∨ ((a.heard ++ nes.map (MeshEvent.node i)).filterMap publicationNumber
          = [(i, n.bus.chan.pubs + 1)]
        ∧ n'.bus.chan.pubs = n.bus.chan.pubs + 1) := by
  have hheard : a.heard.filterMap publicationNumber = [] := by
    cases a <;> rfl
  rw [List.filterMap_append, hheard, List.nil_append]
  rcases published_cases hstep with ⟨hnone, hpubs⟩ | ⟨c, rfl, hpubs⟩
  · refine Or.inl ⟨List.filterMap_eq_nil_iff.mpr (fun e he => ?_), hpubs⟩
    obtain ⟨e', he', rfl⟩ := List.mem_map.mp he
    cases e' with
    | published c pub => exact absurd he' (hnone c pub)
    | _ => rfl
  · exact Or.inr ⟨rfl, hpubs⟩

/-- A node that publishes goes on counting where it was. -/
theorem NumberedInv.node (h : NumberedInv m es) {i : ι} {act : NodeAct (Trail ι)}
    {n' : Node (Trail ι)} {nes : List (NodeEvent (Trail ι))}
    (hstep : Step (D.platform i) (m.nodes i) act n' nes) (a : MeshAct ι) :
    NumberedInv (m.apply i n' nes) (es ++ (a.heard ++ nes.map (.node i))) := by
  have hcases := filterMap_publicationNumber_cases hstep a i
  have hlater : ∀ x ∈ es.filterMap publicationNumber,
      x.2 ≤ ((m.apply i n' nes).nodes x.1).bus.chan.pubs := by
    intro x hx
    refine le_trans (h.le_pubs x hx) ?_
    by_cases hxi : x.1 = i
    · rw [hxi, Mesh.apply_nodes_self]
      rcases hcases with ⟨-, hpubs⟩ | ⟨-, hpubs⟩ <;> omega
    · rw [Mesh.apply_nodes_of_ne hxi]
  rcases hcases with ⟨hnone, -⟩ | ⟨hnew, hpubs⟩
  · have hsame : (es ++ (a.heard ++ nes.map (MeshEvent.node i))).filterMap publicationNumber
        = es.filterMap publicationNumber := by
      rw [List.filterMap_append, hnone, List.append_nil]
    rw [← hsame] at hlater
    exact ⟨hlater, hsame ▸ h.nodup⟩
  · have hone : (es ++ (a.heard ++ nes.map (MeshEvent.node i))).filterMap publicationNumber
        = es.filterMap publicationNumber ++ [(i, (m.nodes i).bus.chan.pubs + 1)] := by
      rw [List.filterMap_append, hnew]
    -- no number so far is above the count
    have hunused : (i, (m.nodes i).bus.chan.pubs + 1) ∉ es.filterMap publicationNumber :=
      fun hmem => absurd (h.le_pubs _ hmem) (Nat.not_succ_le_self _)
    refine ⟨fun x hx => ?_, ?_⟩
    · rw [hone] at hx
      rcases List.mem_append.mp hx with hx | hx
      · exact hlater x hx
      · rw [List.mem_singleton.mp hx, Mesh.apply_nodes_self, hpubs]
    · rw [hone, ← List.concat_eq_append]
      exact h.nodup.concat hunused

/-- … and so does one that restarts. -/
theorem NumberedInv.restarted (h : NumberedInv m es) (i : ι)
    (order : List (Sigma fun _ : CString => List UInt8)) :
    NumberedInv (m.restart i order) (es ++ [.restarted i]) := by
  have hpubs : ∀ j, ((m.restart i order).nodes j).bus.chan.pubs
      = (m.nodes j).bus.chan.pubs := by
    exact Mesh.forall_restart
      (p := fun j n => n.bus.chan.pubs = (m.nodes j).bus.chan.pubs) rfl (fun _ _ => rfl)
  have hnone : (es ++ [MeshEvent.restarted i]).filterMap publicationNumber
      = es.filterMap publicationNumber := by
    rw [List.filterMap_append]
    exact List.append_nil _
  refine ⟨fun x hx => ?_, by rw [hnone]; exact h.nodup⟩
  rw [hnone] at hx
  rw [hpubs]
  exact h.le_pubs x hx

theorem NumberedInv.step (h : NumberedInv m es) {a : MeshAct ι} {mes : List (MeshEvent ι)}
    (hs : MeshStep D m a m' mes) : NumberedInv m' (es ++ mes) := by
  cases hs with
  | node hact hstep => exact h.node hstep a
  | restarted => exact h.restarted _ _

/-- **The number of a publication identifies it**, in every run. -/
theorem publicationNumber_nodup {acts : List (MeshAct ι)}
    (hrun : run (meshStep D) D.boot acts = some m) :
    ((trace (meshStep D) (meshEvents D) D.boot acts).filterMap publicationNumber).Nodup := by
  have hboot : NumberedInv D.boot [] := ⟨(fun _ hx => nomatch hx), List.nodup_nil⟩
  exact (run_history (J := NumberedInv) (fun _ _ _ _ h hs' => h.step (MeshStep.of_meshStep hs'))
    hboot hrun).nodup

/-! ## Along a path -/

omit [DecidableEq ι] in
/-- What is on the air was published. -/
theorem MeshInv.published_of_mem_air (h : MeshInv D m es) {s : Transmission ι}
    (hs : s ∈ m.air) : .node s.sender (.published s.copy s.pub) ∈ es :=
  (h.air s hs).1.2

/-- **Receptions against transmissions**: a node that receives a transmission
once at most receives a trail no more often than it was transmitted. -/
theorem countP_heardAs_le (hreceived : (es.filterMap reception).Nodup)
    (air : List (Transmission ι)) (j : ι) (t : Trail ι) :
    (es.filterMap reception).countP (heardAs air j t) ≤ air.countP (fun s => s.trail = t) := by
  have hindices : (air.findIdxs (fun s => s.trail = t)).length
      = air.countP (fun s => s.trail = t) := List.length_findIdxs
  rw [← hindices]
  refine countP_le_length_of_injOn Prod.snd hreceived (fun x _ hx => ?_)
    (fun x y hx hy _ _ heq => ?_)
  · obtain ⟨-, s, hs, ht⟩ := heardAs_iff.mp hx
    obtain ⟨hlt, hget⟩ := List.getElem?_eq_some_iff.mp hs
    exact List.mem_findIdxs_iff_exists_getElem_pos.mpr ⟨hlt, by rw [hget]; exact decide_eq_true ht⟩
  · exact Prod.ext ((heardAs_iff.mp hx).1.trans (heardAs_iff.mp hy).1.symm) heq

/-- The trail of a copy that was published, read off the path. -/
theorem atNode_publishes_of_append_eq {c : Copy (Trail ι)} {k pub : ℕ} {path : List ι}
    {i j : ι} (horigin : c.tag.origin = k) (hpath : c.tag.path ++ [i] = path ++ [j]) :
    atNode j (·.publishes ⟨k, path⟩) (.node i (.published c pub)) = true := by
  obtain ⟨hinit, hlast⟩ := List.append_inj' hpath rfl
  have htag : c.tag = ⟨k, path⟩ := by rw [← horigin, ← hinit]
  simp [atNode, NodeEvent.publishes, htag, List.singleton_inj.mp hlast]

/-- **Transmissions against publications**: a trail that ends in a node was
transmitted no more often than the node published what it is made of. -/
theorem countP_trail_le (hm : MeshInv D m es)
    (htransmitted : (m.air.map Transmission.publication).Nodup) (k : ℕ) (path : List ι) (i : ι) :
    m.air.countP (fun s => s.trail = ⟨k, path ++ [i]⟩) ≤ publicationsAt es i ⟨k, path⟩ := by
  unfold publicationsAt
  rw [List.countP_eq_length_filter (l := es)]
  refine countP_le_length_of_injOn (fun s => MeshEvent.node s.sender (.published s.copy s.pub))
    (htransmitted.of_map _) (fun s hs ht => ?_) (fun s s' _ _ hs hs' heq => ?_)
  · have htrail : s.trail = ⟨k, path ++ [i]⟩ := of_decide_eq_true ht
    exact List.mem_filter.mpr ⟨hm.published_of_mem_air hs,
      atNode_publishes_of_append_eq (congrArg Trail.origin htrail) (congrArg Trail.path htrail)⟩
  · obtain ⟨hsender, hevent⟩ := MeshEvent.node.inj heq
    exact List.inj_on_of_nodup_map htransmitted hs hs'
      (Prod.ext hsender (NodeEvent.published.inj hevent).2)

/-- **A message is published once at most along each path**, if every
publication is transmitted once at most and every transmission received once
at most by each node. -/
theorem publicationsAt_le_one (hm : MeshInv D m es) (hflow : FlowInv m es)
    (htransmitted : (m.air.map Transmission.publication).Nodup)
    (hreceived : (es.filterMap reception).Nodup) (k : ℕ) (path : List ι) (j : ι) :
    publicationsAt es j ⟨k, path⟩ ≤ 1 := by
  have htaken : publicationsAt es j ⟨k, path⟩ ≤ intakeAt es j ⟨k, path⟩ :=
    le_trans (Nat.le_add_left _ _) (hflow.inFlight j _)
  induction path using List.reverseRecOn generalizing j with
  | nil =>
    refine le_trans htaken (le_trans (hflow.originated j k) ?_)
    split <;> omega
  | append_singleton path i ih =>
    have hpublished := ih i (le_trans (Nat.le_add_left _ _) (hflow.inFlight i _))
    calc publicationsAt es j ⟨k, path ++ [i]⟩ ≤ intakeAt es j ⟨k, path ++ [i]⟩ := htaken
      _ ≤ (es.filterMap reception).countP (heardAs m.air j ⟨k, path ++ [i]⟩) :=
        hflow.received j _ (by simp)
      _ ≤ m.air.countP (fun s => s.trail = ⟨k, path ++ [i]⟩) :=
        countP_heardAs_le hreceived _ _ _
      _ ≤ publicationsAt es i ⟨k, path⟩ := countP_trail_le hm htransmitted _ _ _
      _ ≤ 1 := hpublished

/-! ## The flood -/

omit [DecidableEq ι] in
theorem mem_flood {k : ℕ} {x : ι × Copy (Trail ι)} :
    x ∈ es.filterMap (floodPublication k)
      ↔ x.2.tag.origin = k ∧ ∃ pub, .node x.1 (.published x.2 pub) ∈ es := by
  rw [List.mem_filterMap]
  constructor
  · rintro ⟨e, he, hx⟩
    unfold floodPublication at hx
    split at hx
    · next i c pub =>
      split at hx
      · next horigin =>
        cases hx
        exact ⟨horigin, pub, he⟩
      · cases hx
    · cases hx
  · rintro ⟨horigin, pub, he⟩
    exact ⟨_, he, if_pos horigin⟩

/-- The path of a publication, its node included. -/
def publicationPath (x : ι × Copy (Trail ι)) : List ι := x.2.tag.path ++ [x.1]

/-- **No two publications of a message have the same path.** -/
theorem flood_nodup (hone : ∀ k path j, publicationsAt es j ⟨k, path⟩ ≤ 1) (k : ℕ) :
    ((es.filterMap (floodPublication k)).map publicationPath).Nodup := by
  rw [List.nodup_iff_count_le_one]
  intro path
  rcases List.eq_nil_or_concat' path with rfl | ⟨init, j, rfl⟩
  · rw [List.count_eq_zero_of_not_mem]
    · exact Nat.zero_le _
    · simp [publicationPath]
  · refine le_trans ?_ (hone k init j)
    rw [List.count, List.countP_map, List.countP_filterMap]
    refine List.countP_mono_left (fun e _ he => ?_)
    unfold floodPublication at he
    split at he
    · next i c pub _ =>
      split at he
      · next horigin =>
        have hpath : c.tag.path ++ [i] = init ++ [j] := eq_of_beq he
        exact atNode_publishes_of_append_eq horigin hpath
      · cases he
    · cases he

omit [DecidableEq ι] in
/-- A published copy has a rooted path, and its TTL is what the path leaves of
the initial one. -/
theorem MeshInv.of_mem_flood (h : MeshInv D m es) {k : ℕ} {own : ι × TsMsgLoraOutgoing}
    (hown : m.originations[k]? = some own) (httl : 1 ≤ own.2.route.ttl.toNat)
    {x : ι × Copy (Trail ι)} (hx : x ∈ es.filterMap (floodPublication k)) :
    Rooted own.1 (publicationPath x)
      ∧ x.2.msg.route.ttl.toNat + x.2.tag.path.length = own.2.route.ttl.toNat
      ∧ 1 ≤ x.2.msg.route.ttl.toNat := by
  obtain ⟨rfl, pub, hpub⟩ := mem_flood.mp hx
  obtain ⟨own', horigin, hcopy, hhop⟩ := h.published x.1 x.2 pub hpub
  obtain rfl : own = own' := Option.some.inj (hown.symm.trans horigin)
  have hsum := hcopy.ttl
  rw [List.length_append, List.length_singleton] at hsum
  refine ⟨hcopy.path, by omega, ?_⟩
  by_cases hpath : x.2.tag.path = []
  · rw [hpath, List.length_nil] at hsum
    omega
  · exact hhop hpath

/-- **A flood is bounded by its TTL.** In every run of a mesh of `N` nodes in
which every publication is transmitted at most once and every transmission
is received at most once by each node, a message originated with TTL `T` is
published at most `∑ (N - 1)^r` times, `r < T`, by all nodes together. A copy
that was relayed `r` times is published with TTL `T - r`, which is not zero. -/
theorem flood_bounded [Fintype ι] {acts : List (MeshAct ι)}
    (hrun : run (meshStep D) D.boot acts = some m)
    (htransmitted : (m.air.map Transmission.publication).Nodup)
    (hreceived : ((trace (meshStep D) (meshEvents D) D.boot acts).filterMap reception).Nodup)
    {k : ℕ} {own : ι × TsMsgLoraOutgoing} (hown : m.originations[k]? = some own)
    (httl : 1 ≤ own.2.route.ttl.toNat) :
    let flood := (trace (meshStep D) (meshEvents D) D.boot acts).filterMap (floodPublication k)
    flood.length ≤ ∑ r ∈ Finset.range own.2.route.ttl.toNat, (Fintype.card ι - 1) ^ r
      ∧ ∀ x ∈ flood, x.2.msg.route.ttl.toNat = own.2.route.ttl.toNat - x.2.tag.path.length
        ∧ 1 ≤ x.2.msg.route.ttl.toNat := by
  intro flood
  have hm := meshInv_run hrun
  have hone := publicationsAt_le_one hm (flowInv_run hrun) htransmitted hreceived
  refine ⟨?_, fun x hx => ?_⟩
  · rw [← List.length_map publicationPath]
    refine length_le_of_rooted own.1 (flood_nodup hone k) (fun path hpath => ?_)
    obtain ⟨x, hx, rfl⟩ := List.mem_map.mp hpath
    obtain ⟨hrooted, hsum, hpos⟩ := hm.of_mem_flood hown httl hx
    refine ⟨hrooted, ?_⟩
    rw [publicationPath, List.length_append, List.length_singleton]
    omega
  · obtain ⟨-, hsum, hpos⟩ := hm.of_mem_flood hown httl hx
    exact ⟨Nat.eq_sub_of_add_eq hsum, hpos⟩

/-- A heartbeat of one node is relayed by the other. -/
def heartbeatRelayed (i j : Fin 2) (slot : Fin TS_CONTENTION_POOL_SIZE) :
    List (MeshAct (Fin 2)) :=
  sendsHeartbeat i ++ hearsFrame j 0 ++ forwardsSlot j slot

/-- It is published twice, which is within the bound. -/
theorem flood_bounded_heartbeatRelayed : ∃ m own,
    run (meshStep twoNodes) twoNodes.boot (heartbeatRelayed 0 1 0) = some m
      ∧ m.originations[0]? = some own
      ∧ let flood := (trace (meshStep twoNodes) (meshEvents twoNodes) twoNodes.boot
          (heartbeatRelayed 0 1 0)).filterMap (floodPublication 0)
        flood.length = 2
          ∧ flood.length ≤ ∑ r ∈ Finset.range own.2.route.ttl.toNat, (Fintype.card (Fin 2) - 1) ^ r
          ∧ ∀ x ∈ flood, x.2.msg.route.ttl.toNat = own.2.route.ttl.toNat - x.2.tag.path.length
            ∧ 1 ≤ x.2.msg.route.ttl.toNat := by
  have heval : (run (meshStep twoNodes) twoNodes.boot (heartbeatRelayed 0 1 0)).map
      (fun m => (m.air.map Transmission.publication,
        (m.originations[0]?).map (fun own => own.2.route.ttl)))
      = some ([(0, 1), (1, 1)], some 5) := by decide +kernel
  have hevents : (fun es : List (MeshEvent (Fin 2)) =>
      (es.filterMap reception, (es.filterMap (floodPublication 0)).length))
      (trace (meshStep twoNodes) (meshEvents twoNodes) twoNodes.boot (heartbeatRelayed 0 1 0))
      = ([(1, 0)], 2) := by decide +kernel
  obtain ⟨m, hrun, hm⟩ := Option.map_eq_some_iff.mp heval
  obtain ⟨hair, hfirst⟩ := Prod.mk.injEq _ _ _ _ ▸ hm
  simp only [Prod.mk.injEq] at hevents
  obtain ⟨own, hown, httl⟩ := Option.map_eq_some_iff.mp hfirst
  exact ⟨m, own, hrun, hown, hevents.2, flood_bounded hrun (by rw [hair]; decide)
    (by rw [hevents.1]; decide) hown (by rw [httl]; decide)⟩

end Terrascope
