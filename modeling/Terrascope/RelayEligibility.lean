import Terrascope.FrameRejection
import Terrascope.Hearing
import Terrascope.NodeFlow

/-!
# What is eligible to be relayed

A forward goes out long after its frame came in: it waits in a slot that was
used before and will be used again, and is copied twice on the way. Every
check on it was made before, in the pass of the receive task over the frame,
so that what a slot or a handler run holds is to be forwarded is a statement
about the whole run.

The run's log of accepted frames is what a forward is compared with.
`Eligible` says all there is to say about one, and `relayed_only_eligible`
that it holds of whatever the pool holds or its handlers publish.
-/

namespace Terrascope

open Node SlotArray Transition

variable {τ : Type} {P : Platform}

/-- **The frames a step accepts**, each with the message read from it. -/
def acceptedFrames (P : Platform) (n : Node τ) : NodeAct τ → List (List UInt8 × Copy τ)
  | .receive frame tag rssi snr now =>
    (n.events P (.receive frame tag rssi snr now)).filterMap fun
      | .accepted c => some (frame, c)
      | _ => none
  | _ => []

/-- **A message that may be relayed** by a node `ownId` that has accepted the
frames of a log. -/
structure Eligible (P : Platform) (ownId : UInt16) (log : List (List UInt8 × Copy τ))
    (c : Copy τ) : Prop where
  type : (∃ t, c.msg.data = .telemetry t) ∨ ∃ s, c.msg.data = .nodeStatus s
  ttl : 1 ≤ c.msg.route.ttl ∧ c.msg.route.ttl ≤ 254
  keyId : c.msg.route.keyId = tsAuthGetKeyId P
  src : c.msg.route.src ≠ ownId
  /-- It is the message of an authentic frame of the log, with one hop less. -/
  origin : ∃ frame orig, (frame, ⟨orig, c.tag⟩) ∈ log ∧ TagMatches P frame
    ∧ cborDeserialize P.zcbor (payloadOf frame) = .ok orig
    ∧ c.msg = { orig with route := { orig.route with ttl := c.msg.route.ttl } }
    ∧ orig.route.ttl.toNat = c.msg.route.ttl.toNat + 1

/-- A slot is looked up by what its message is recognised by. -/
def ContentionSlot.Keyed (slot : ContentionSlot τ) : Prop :=
  slot.occupied = true → slot.key = slot.copy.msg.route.id

/-- **What is known at every moment of a run** with the frames accepted so
far. -/
structure RelayInv (P : Platform) (n : Node τ) (log : List (List UInt8 × Copy τ)) : Prop where
  /-- A frame of the log was authentic, and of another node. -/
  logged : ∀ frame c, (frame, c) ∈ log →
    loraInParse P frame = some c.msg ∧ c.msg.route.src ≠ tsRoutingGetNodeId n.routing
  /-- The message being dealt with comes from one of them. -/
  received : ∀ c, n.rx.received = some c → ∃ frame, (frame, c) ∈ log
  pool : ∀ i, (n.pool i).Carries (Eligible P (tsRoutingGetNodeId n.routing) log)
  keyed : ∀ i, (n.pool i).Keyed

/-! ## Where eligibility comes from -/

/-- **The forward of a message of the log is eligible.** -/
theorem RelayInv.eligible {n : Node τ} {log : List (List UInt8 × Copy τ)}
    (h : RelayInv P n log) {frame : List UInt8} {orig fwd : TsMsgLoraOutgoing} {tag : τ}
    (hmem : (frame, ⟨orig, tag⟩) ∈ log) (hfwd : forwardOf orig = some fwd) :
    Eligible P (tsRoutingGetNodeId n.routing) log ⟨fwd, tag⟩ := by
  obtain ⟨hparse, hsrc⟩ := h.logged frame _ hmem
  obtain ⟨-, htag⟩ := TagMatches.of_loraInParse hparse
  obtain ⟨hde, hkey⟩ := loraInParse_eq_some hparse
  obtain ⟨hconfig, htwo, rfl, hsub⟩ := forwardOf_eq_some hfwd
  have hone : orig.route.ttl.toNat = (orig.route.ttl - 1).toNat + 1 := by
    rw [show (orig.route.ttl - 1).toNat = orig.route.ttl.toNat - 1 from hsub]
    omega
  refine ⟨(readable_of_cborDeserialize hde).flooded hconfig, ?_, hkey, hsrc,
    frame, orig, hmem, htag, hde, rfl, hone⟩
  -- the TTL that came in was a byte
  have hbyte := orig.route.ttl.toNat_lt
  constructor <;> rw [UInt8.le_iff_toNat_le]
  · show 1 ≤ (orig.route.ttl - 1).toNat
    omega
  · show (orig.route.ttl - 1).toNat ≤ 254
    omega

/-- A longer log has it too. -/
theorem Eligible.append {ownId : UInt16} {log : List (List UInt8 × Copy τ)} {c : Copy τ}
    (h : Eligible P ownId log c) (new : List (List UInt8 × Copy τ)) :
    Eligible P ownId (log ++ new) c := by
  obtain ⟨frame, orig, hmem, horigin⟩ := h.origin
  exact ⟨h.type, h.ttl, h.keyId, h.src, frame, orig, List.mem_append_left new hmem, horigin⟩

/-! ## What a step does -/

section Step

variable {n n' : Node τ} {a : NodeAct τ}

/-- **An accepted frame** is in the log, and was read and found to be of
another node. -/
theorem mem_acceptedFrames {frame : List UInt8} {c : Copy τ} :
    (frame, c) ∈ acceptedFrames P n a
      ↔ (∃ tag rssi snr now, a = .receive frame tag rssi snr now)
        ∧ .accepted c ∈ n.events P a := by
  cases a with
  | receive f tag rssi snr now =>
    unfold acceptedFrames
    rw [List.mem_filterMap]
    constructor
    · rintro ⟨e, he, heq⟩
      split at heq
      · cases heq
        exact ⟨⟨_, _, _, _, rfl⟩, he⟩
      · cases heq
    · rintro ⟨⟨_, _, _, _, heq⟩, hmem⟩
      cases heq
      exact ⟨_, hmem, rfl⟩
  | _ => exact iff_of_false List.not_mem_nil (fun ⟨⟨_, _, _, _, heq⟩, _⟩ => by cases heq)

/-- What is dealt with after a step was dealt with before or is accepted in
it. -/
theorem Node.Step.received_cases {es : List (NodeEvent τ)} (h : Step P n a n' es) {c : Copy τ}
    (hc : n'.rx.received = some c) : n.rx.received = some c ∨ .accepted c ∈ es := by
  cases h with
  | accepted =>
    cases hc
    exact Or.inr List.mem_cons_self
  | notForUs hrx | delivered hrx =>
    cases hc
    rw [hrx]
    exact Or.inl rfl
  | configured | ackPublished | notRelayed | poolFull | relayed => cases hc
  | _ => exact Or.inl hc

/-- **Every slot keeps its message's key.** -/
theorem Node.Step.keyed {es : List (NodeEvent τ)} (hs : Step P n a n' es)
    (h : ∀ i, (n.pool i).Keyed) : ∀ i, (n'.pool i).Keyed := by
  cases hs with
  | duplicate =>
    rcases tsContentionCancel_cases n.pool _ _ with ⟨-, -, heq⟩ | ⟨i, -, -, -, heq⟩
    · rw [heq]
      exact h
    · rw [heq]
      exact forall_update h (fun hocc => by cases hocc)
  | relayed => exact forall_update h (fun _ => rfl)
  | handled hslot =>
    obtain ⟨hcopy, hkey, hocc⟩ := ContentionSlot.handle_frame hslot
    refine forall_update h (fun hocc' => ?_)
    rw [hcopy, hkey]
    exact h _ (hocc hocc')
  | forwardPublished c hrun => exact forall_update h (h _)
  | _ => exact h

/-- **Every step keeps what is known.** -/
theorem RelayInv.step {log : List (List UInt8 × Copy τ)} (h : RelayInv P n log)
    (hs : n.step P a = some n') : RelayInv P n' (log ++ acceptedFrames P n a) := by
  have hstep := Step.of_step hs
  have hself : tsRoutingGetNodeId n'.routing = tsRoutingGetNodeId n.routing := hstep.selfNodeId_eq
  refine ⟨fun frame c hmem => ?_, fun c hc => ?_, fun i => ?_, hstep.keyed h.keyed⟩
  · rw [hself]
    rcases List.mem_append.mp hmem with hold | hnew
    · exact h.logged frame c hold
    · obtain ⟨⟨_, _, _, _, rfl⟩, hacc⟩ := mem_acceptedFrames.mp hnew
      obtain ⟨_, _, _, _, heq, hparse, hsrc, -⟩ := hstep.of_accepted_mem hacc
      cases heq
      exact ⟨hparse, hsrc⟩
  · rcases hstep.received_cases hc with hold | hacc
    · obtain ⟨frame, hmem⟩ := h.received c hold
      exact ⟨frame, List.mem_append_left _ hmem⟩
    · obtain ⟨frame, _, _, _, rfl, -⟩ := hstep.of_accepted_mem hacc
      exact ⟨frame, List.mem_append_right _
        (mem_acceptedFrames.mpr ⟨⟨_, _, _, _, rfl⟩, hacc⟩)⟩
  · rw [hself]
    refine (hstep.pool_carries h.pool (fun inMsg tag fwd hrx hfwd => ?_) i).mono
      (fun c hc => hc.append _)
    obtain ⟨frame, hmem⟩ := h.received ⟨inMsg.msg, tag⟩ (by rw [hrx]; rfl)
    exact h.eligible hmem hfwd

end Step

/-! ## Whole runs -/

theorem relayInv_boot [Inhabited τ] (config : ConfigState) :
    RelayInv P (Node.boot config : Node τ) [] where
  logged := fun _ _ h => absurd h List.not_mem_nil
  received := fun _ h => by cases h
  pool := fun _ => ⟨(fun h => by cases h), fun _ h => by cases h⟩
  keyed := fun _ h => by cases h

/-- What a handler publishes, its run was about to. -/
theorem running_of_published {n : Node τ} {i : Fin TS_CONTENTION_POOL_SIZE} {a : HandlerAct}
    {c : Copy τ} {pub : ℕ} (h : .published c pub ∈ n.events P (.handler i a)) :
    (n.pool i).work.running = some (.publishing c) := by
  unfold events at h
  cases hstep : n.stepEvents P (.handler i a) with
  | none =>
    rw [hstep] at h
    cases h
  | some r =>
    obtain ⟨n', es⟩ := r
    rw [hstep] at h
    have hmem : .published c pub ∈ es := h
    cases Step.of_stepEvents hstep with
    | handled => cases hmem
    | forwardPublished c' hrun =>
      cases List.mem_singleton.mp hmem
      exact hrun

/-- **Only eligible messages are relayed.** After any run of a node from boot,
the message in every occupied slot is eligible and the slot is looked up by
what its header says, and every message that a contention handler then
publishes is eligible. -/
theorem relayed_only_eligible [Inhabited τ] {config : ConfigState} {acts : List (NodeAct τ)}
    {n : Node τ} (hrun : run (Node.step P) (Node.boot config) acts = some n) :
    let log := trace (Node.step P) (acceptedFrames P) (Node.boot config) acts
    (∀ i, (n.pool i).occupied = true →
      Eligible P (tsRoutingGetNodeId n.routing) log (n.pool i).copy
        ∧ (n.pool i).src = (n.pool i).copy.msg.route.src
        ∧ (n.pool i).msgId = (n.pool i).copy.msg.route.msgId)
    ∧ ∀ i a c pub, .published c pub ∈ n.events P (.handler i a) →
      Eligible P (tsRoutingGetNodeId n.routing) log c := by
  intro log
  have h : RelayInv P n ([] ++ log) :=
    run_history (fun _ _ _ _ hn hs => hn.step hs) (relayInv_boot config) hrun
  rw [List.nil_append] at h
  refine ⟨fun i hocc => ⟨(h.pool i).held hocc, Prod.mk.inj (h.keyed i hocc)⟩, ?_⟩
  exact fun i a c pub hpub => (h.pool i).publishing c (running_of_published hpub)

/-- A forward on its way out, and another in the slot it left. -/
def reusedSlot (i : Fin TS_CONTENTION_POOL_SIZE) : List (HeardAct Unit) :=
  passOver (heardStatus 2 7)
    ++ [.does (.handler i .expire), .does (.handler i .start), .does (.handler i .claim)]
    ++ passOver (heardStatus 3 9)

/-- Both are eligible. -/
theorem relayed_only_eligible_reusedSlot :
    ∃ n : Node Unit, ∃ log c pub, (n.pool 0).occupied = true ∧ (n.pool 0).key = (3, 9)
      ∧ Eligible defaultPlatform (tsRoutingGetNodeId n.routing) log (n.pool 0).copy
      ∧ .published c pub ∈ n.events defaultPlatform (.handler 0 .publish)
      ∧ c.msg.route = ⟨2, 0xFFFF, 7, 3, 0⟩
      ∧ Eligible defaultPlatform (tsRoutingGetNodeId n.routing) log c := by
  have haudible : ∀ a ∈ reusedSlot 0, a.Audible defaultPlatform := by
    intro a ha
    simp only [reusedSlot, passOver, List.cons_append, List.nil_append, List.mem_cons,
      List.not_mem_nil, or_false] at ha
    rcases ha with rfl | rfl | rfl | rfl | rfl | rfl | rfl | rfl | rfl
    all_goals first
      | exact audible_default rfl rfl (by decide +kernel)
      | trivial
  have hfacts : (run (heardStep defaultPlatform) (Node.boot ConfigState.empty) (reusedSlot 0)).map
      (fun n => ((n.pool 0).occupied, (n.pool 0).key,
        n.events defaultPlatform (.handler 0 .publish)))
      = some (true, (3, 9), [.published ⟨⟨⟨2, 0xFFFF, 7, 3, 0⟩, (heardStatus 2 7).data⟩, ()⟩ 1]) :=
    by decide +kernel
  obtain ⟨n, hrun, hn⟩ := Option.map_eq_some_iff.mp hfacts
  obtain ⟨hocc, hrest⟩ := Prod.mk.inj hn
  obtain ⟨hkey, hevents⟩ := Prod.mk.inj hrest
  rw [← run_heard haudible] at hrun
  obtain ⟨hslots, hpubs⟩ := relayed_only_eligible hrun
  have hpub := hevents ▸ List.mem_singleton_self _
  exact ⟨n, _, _, _, hocc, hkey, (hslots 0 hocc).1, hpub, rfl, hpubs 0 .publish _ _ hpub⟩

end Terrascope
