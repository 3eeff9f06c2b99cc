import Terrascope.Hearing

/-!
# At-most-once acceptance

The duplicate cache stands between the receive task and everything it does
with a frame, so what holds of the sequence of acceptances holds of the
deliveries, the configuration changes, the neighbour updates and the
forwards that each of them causes at most once.

A run is read here as a log of acceptances and effects. `Tied` says that an
effect belongs to the last acceptance before it and is the only one of its
kind there; `AcceptInv` adds that the acceptances are `Spaced` and that the
cache holds the last of them. `Tied.gap` carries the gap between two
acceptances of one message over to its effects.
-/

namespace Terrascope

open RingWindow Transition Node

/-! ## Logs of acceptances and effects -/

/-- What the receive task does with an accepted message, once each. -/
inductive EffectKind where
  | neighbourUpdate
  | configApplication
  | delivery
  | schedule
deriving DecidableEq, Repr

/-- **An entry of the log**: a message accepted, or something done with it. -/
inductive RxEvent where
  | accepted (id : UInt16 × UInt32)
  | effect (kind : EffectKind) (id : UInt16 × UInt32)
deriving DecidableEq

/-- The message accepted, for an acceptance. -/
def RxEvent.acceptedId : RxEvent → Option (UInt16 × UInt32)
  | .accepted id => some id
  | .effect _ _ => none

/-- The messages a log accepts, in its order. -/
def acceptedIds (log : List RxEvent) : List (UInt16 × UInt32) :=
  log.filterMap RxEvent.acceptedId

/-- The entry of the log that an event of the node makes. -/
def rxEvent {τ : Type} : NodeEvent τ → Option RxEvent
  | .accepted m => some (.accepted m.msg.route.id)
  | .neighbourUpdated m => some (.effect .neighbourUpdate m.msg.route.id)
  | .configApplied m => some (.effect .configApplication m.msg.route.id)
  | .delivered m => some (.effect .delivery m.msg.route.id)
  | .scheduled c => some (.effect .schedule c.msg.route.id)
  | .refused c => some (.effect .schedule c.msg.route.id)
  | _ => none

/-- The log of a sequence of events. -/
def rxLog {τ : Type} (es : List (NodeEvent τ)) : List RxEvent := es.filterMap rxEvent

/-- **The last acceptance of the log is that of `id`, and what was done with
it so far is not of kind `k`**; latest first. -/
def LastAccepted (id : UInt16 × UInt32) (k : EffectKind) (log : List RxEvent) : Prop :=
  ∃ seg rest, log = seg ++ .accepted id :: rest ∧ ∀ e ∈ seg, ∃ k', k' ≠ k ∧ e = .effect k' id

/-- **Every effect belongs to the acceptance before it**, as the only one of
its kind; latest first. -/
def Tied : List RxEvent → Prop
  | [] => True
  | .accepted _ :: log => Tied log
  | .effect k id :: log => LastAccepted id k log ∧ Tied log

/-- **Nothing happens twice inside the duplicate window**; oldest first. -/
structure AtMostOnce (log : List RxEvent) : Prop where
  /-- Any 33 consecutive acceptances are of different messages. -/
  window : ∀ w, w <:+: acceptedIds log → w.length ≤ 33 → w.Nodup
  /-- Between two effects of one kind on one message lie 32 acceptances of
  others. -/
  gap : ∀ kind id pre mid post,
    log = pre ++ .effect kind id :: (mid ++ .effect kind id :: post) →
    32 ≤ ((acceptedIds mid).filter (fun other => other ≠ id)).length

@[simp] theorem acceptedIds_append (log log' : List RxEvent) :
    acceptedIds (log ++ log') = acceptedIds log ++ acceptedIds log' :=
  List.filterMap_append

@[simp] theorem acceptedIds_accepted (id : UInt16 × UInt32) (log : List RxEvent) :
    acceptedIds (.accepted id :: log) = id :: acceptedIds log := rfl

@[simp] theorem acceptedIds_effect (k : EffectKind) (id : UInt16 × UInt32)
    (log : List RxEvent) : acceptedIds (.effect k id :: log) = acceptedIds log := rfl

/-- Effects accept nothing. -/
theorem acceptedIds_eq_nil {seg : List RxEvent} {id : UInt16 × UInt32} {k : EffectKind}
    (h : ∀ e ∈ seg, ∃ k', k' ≠ k ∧ e = .effect k' id) : acceptedIds seg = [] := by
  refine List.filterMap_eq_nil_iff.mpr (fun e he => ?_)
  obtain ⟨k', -, rfl⟩ := h e he
  rfl

/-- The older part of a tied log is tied. -/
theorem Tied.of_append {log log' : List RxEvent} (h : Tied (log ++ log')) : Tied log' := by
  induction log with
  | nil => exact h
  | cons e log ih =>
    cases e with
    | accepted id => exact ih h
    | effect k id => exact ih h.2

/-- **The same effect again means another acceptance in between**, the last
one before it. -/
theorem LastAccepted.between {id : UInt16 × UInt32} {k : EffectKind}
    {mid post : List RxEvent} (h : LastAccepted id k (mid ++ .effect k id :: post)) :
    ∃ seg mid', mid = seg ++ .accepted id :: mid' ∧ acceptedIds seg = [] := by
  obtain ⟨seg, rest, heq, hseg⟩ := h
  rcases List.append_eq_append_iff.mp heq with ⟨c, hc, hrest⟩ | ⟨c, hc, hrest⟩
  · -- the acceptance would come before the earlier effect, which is not in the segment
    cases c with
    | nil => cases hrest
    | cons e c =>
      obtain ⟨rfl, -⟩ := List.cons_eq_cons.mp hrest
      obtain ⟨k', hk', he⟩ := hseg (.effect k id) (by rw [hc]; simp)
      cases he
      exact absurd rfl hk'
  · cases c with
    | nil => cases hrest
    | cons e c =>
      obtain ⟨rfl, -⟩ := List.cons_eq_cons.mp hrest
      exact ⟨seg, c, hc, acceptedIds_eq_nil hseg⟩

/-- **Between two effects of one kind on one message** lie as many acceptances
of other messages as the spacing says. -/
theorem Tied.gap {n : ℕ} {pre mid post : List RxEvent} {k : EffectKind}
    {id : UInt16 × UInt32} (ht : Tied (pre ++ .effect k id :: (mid ++ .effect k id :: post)))
    (hs : Spaced n (acceptedIds (pre ++ .effect k id :: (mid ++ .effect k id :: post)))) :
    n ≤ ((acceptedIds mid).filter (fun b => b ≠ id)).length := by
  have hlater := ht.of_append
  obtain ⟨seg, mid', rfl, hseg⟩ := hlater.1.between
  have hearlier : Tied (.effect k id :: post) := hlater.2.of_append
  obtain ⟨seg', rest, rfl, hseg'⟩ := hearlier.1
  simp only [acceptedIds_append, acceptedIds_effect, acceptedIds_accepted, hseg,
    acceptedIds_eq_nil hseg', List.nil_append] at hs ⊢
  have hgap := hs.gap
  rwa [List.filter_cons_of_neg (by simp)]

/-! ## The invariant -/

section Invariant

variable {τ : Type} {P : Platform}

/-- **What a run keeps**, between the node and the log, latest first. -/
structure AcceptInv (n : Node τ) (log : List RxEvent) : Prop where
  /-- The cache holds the last of what was accepted. -/
  seen : SeenHistory n.routing (acceptedIds log)
  /-- While the count has not wrapped, every acceptance was of a message not
  among the last 32. -/
  spaced : (acceptedIds log).length < 2 ^ 32 →
    Spaced TS_ROUTING_SEEN_CACHE_SIZE (acceptedIds log)
  /-- Effects belong to acceptances. -/
  tied : Tied log
  /-- A message to be delivered was just accepted. -/
  accepted : ∀ inMsg tag, n.rx = .accepted inMsg tag →
    LastAccepted inMsg.msg.route.id .delivery log
      ∧ LastAccepted inMsg.msg.route.id .configApplication log
      ∧ LastAccepted inMsg.msg.route.id .schedule log
  /-- A message to be relayed was accepted last and has not been yet. -/
  relaying : ∀ inMsg tag, n.rx = .relaying inMsg tag →
    LastAccepted inMsg.msg.route.id .schedule log

/-- **A step that accepts nothing** keeps the invariant if what it logs and
where it leaves the receive task fit. -/
theorem AcceptInv.frame {n n' : Node τ} {log : List RxEvent} (h : AcceptInv n log)
    (hcache : n'.routing.seenCache = n.routing.seenCache)
    (hnext : n'.routing.seenWriteIdx = n.routing.seenWriteIdx)
    (hcount : n'.routing.seenCount = n.routing.seenCount) (hrx : n'.rx = n.rx) :
    AcceptInv n' log where
  seen := h.seen.congr hcache hnext hcount
  spaced := h.spaced
  tied := h.tied
  accepted := fun inMsg tag hacc => h.accepted inMsg tag (hrx ▸ hacc)
  relaying := fun inMsg tag hrel => h.relaying inMsg tag (hrx ▸ hrel)

/-- The forward of a message has its identity. -/
theorem forwardOf_id {msg fwd : TsMsgLoraOutgoing} (h : forwardOf msg = some fwd) :
    fwd.route.id = msg.route.id := by
  obtain ⟨-, -, rfl, -⟩ := forwardOf_eq_some h
  rfl

/-- One more effect of another kind. -/
theorem LastAccepted.effect {id : UInt16 × UInt32} {k k' : EffectKind} {log : List RxEvent}
    (h : LastAccepted id k log) (hk : k' ≠ k) : LastAccepted id k (.effect k' id :: log) := by
  obtain ⟨seg, rest, rfl, hseg⟩ := h
  refine ⟨.effect k' id :: seg, rest, rfl, fun e he => ?_⟩
  rcases List.mem_cons.mp he with rfl | he
  · exact ⟨k', hk, rfl⟩
  · exact hseg e he

/-- The effect of an acceptance that has had none of its kind yet. -/
theorem AcceptInv.effect {n n' : Node τ} {log : List RxEvent} (h : AcceptInv n log)
    {k : EffectKind} {id : UInt16 × UInt32} (hlast : LastAccepted id k log)
    (hcache : n'.routing.seenCache = n.routing.seenCache)
    (hnext : n'.routing.seenWriteIdx = n.routing.seenWriteIdx)
    (hcount : n'.routing.seenCount = n.routing.seenCount)
    (hacc : ∀ inMsg tag, n'.rx ≠ .accepted inMsg tag)
    (hrel : ∀ inMsg tag, n'.rx = .relaying inMsg tag →
      LastAccepted inMsg.msg.route.id .schedule (.effect k id :: log)) :
    AcceptInv n' (.effect k id :: log) where
  seen := h.seen.congr hcache hnext hcount
  spaced := h.spaced
  tied := ⟨hlast, h.tied⟩
  accepted := fun inMsg tag ha => absurd ha (hacc inMsg tag)
  relaying := hrel

/-- **An acceptance** is of a message that is not in the window. -/
theorem AcceptInv.accept {n : Node τ} {log : List RxEvent} (h : AcceptInv n log)
    {msg : TsMsgLoraOutgoing} (hdup : tsRoutingIsDuplicate n.routing msg.route = false)
    {n' : Node τ} (hrouting : n'.routing = tsRoutingMarkSeen n.routing msg.route)
    {inMsg : TsMsgLoraIncoming} {tag : τ} (hmsg : inMsg.msg = msg)
    (hrx : n'.rx = .accepted inMsg tag) :
    AcceptInv n'
      (.effect .neighbourUpdate msg.route.id :: .accepted msg.route.id :: log) where
  seen := by
    rw [hrouting]
    exact h.seen.markSeen msg.route
  spaced := by
    simp only [acceptedIds_effect, acceptedIds_accepted, List.length_cons]
    intro hlen
    have hold : (acceptedIds log).length < 2 ^ 32 := by omega
    refine ⟨fun hmem => ?_, h.spaced hold⟩
    rw [(tsRoutingIsDuplicate_iff_mem_take h.seen hold msg.route).mpr hmem] at hdup
    cases hdup
  tied := ⟨⟨[], log, rfl, fun e he => absurd he List.not_mem_nil⟩, h.tied⟩
  accepted := by
    intro inMsg' tag' hacc
    obtain ⟨rfl, rfl⟩ := RxPc.accepted.inj (hrx.symm.trans hacc)
    have hlast : ∀ k, LastAccepted msg.route.id k (.accepted msg.route.id :: log) :=
      fun k => ⟨[], log, rfl, fun e he => absurd he List.not_mem_nil⟩
    rw [hmsg]
    exact ⟨(hlast _).effect (by decide), (hlast _).effect (by decide),
      (hlast _).effect (by decide)⟩
  relaying := fun inMsg' tag' hrel => nomatch hrx.symm.trans hrel

/-- **Every step of a node keeps the invariant.** -/
theorem AcceptInv.step {n n' : Node τ} {log : List RxEvent} {a : NodeAct τ}
    {es : List (NodeEvent τ)} (h : AcceptInv n log) (hs : Step P n a n' es) :
    AcceptInv n' ((rxLog es).reverse ++ log) := by
  cases hs with
  | accepted hrx hlen hparse hsrc hdup => exact h.accept hdup rfl rfl rfl
  | notForUs hrx hfor =>
    refine ⟨h.seen, h.spaced, h.tied, (fun _ _ hacc => nomatch hacc), fun inMsg tag hrel => ?_⟩
    cases hrel
    exact (h.accepted _ _ hrx).2.2
  | configured hrx hfor hdata config cfgRet hset route hroute =>
    exact h.effect (h.accepted _ _ hrx).2.1 rfl rfl rfl (fun _ _ hacc => nomatch hacc)
      (fun _ _ hrel => nomatch hrel)
  | delivered hrx hfor hdata =>
    refine h.effect (h.accepted _ _ hrx).1 rfl rfl rfl (fun _ _ hacc => nomatch hacc)
      (fun inMsg tag hrel => ?_)
    cases hrel
    exact (h.accepted _ _ hrx).2.2.effect (by decide)
  | relayed hrx hfwd | poolFull hrx hfwd =>
    have hlast := h.relaying _ _ hrx
    rw [← forwardOf_id hfwd] at hlast
    exact h.effect hlast rfl rfl rfl (fun _ _ hacc => nomatch hacc)
      (fun _ _ hrel => nomatch hrel)
  | ackPublished | notRelayed =>
    exact ⟨h.seen, h.spaced, h.tied, (fun _ _ hacc => nomatch hacc),
      fun _ _ hrel => nomatch hrel⟩
  | _ => exact h.frame rfl rfl rfl rfl

/-- The invariant where `ts_routing_init` was called and nothing accepted
yet. -/
theorem acceptInv_init {n : Node τ} {nodeId : UInt16}
    (hrouting : n.routing = tsRoutingInit nodeId) (hrx : n.rx = .listening) :
    AcceptInv n [] := by
  refine ⟨?_, fun _ => trivial, trivial, (fun _ _ hacc => nomatch hrx.symm.trans hacc),
    fun _ _ hrel => nomatch hrx.symm.trans hrel⟩
  rw [hrouting]
  exact seenHistory_init nodeId

/-- The invariant after a step that comes after a log. -/
theorem AcceptInv.step_append {n n' : Node τ} {es : List (NodeEvent τ)}
    (h : AcceptInv n (rxLog es).reverse) {a : NodeAct τ} {new : List (NodeEvent τ)}
    (hs : Step P n a n' new) : AcceptInv n' (rxLog (es ++ new)).reverse := by
  have hstep := h.step hs
  unfold rxLog at hstep ⊢
  rwa [List.filterMap_append, List.reverse_append]

/-- The invariant at the end of a run. -/
theorem acceptInv_run {n n' : Node τ} {nodeId : UInt16}
    (hrouting : n.routing = tsRoutingInit nodeId) (hrx : n.rx = .listening)
    {acts : List (NodeAct τ)} (hrun : run (Node.step P) n acts = some n') :
    AcceptInv n' (rxLog (trace (Node.step P) (Node.events P) n acts)).reverse := by
  have hstart : AcceptInv n (rxLog ([] : List (NodeEvent τ))).reverse :=
    acceptInv_init hrouting hrx
  exact run_history (J := fun n es => AcceptInv n (rxLog es).reverse)
    (fun _ _ _ _ h hs' => h.step_append (Step.of_step hs')) hstart hrun

/-- **What the invariant says of the log**, while the count has not
wrapped. -/
theorem AcceptInv.atMostOnce {n : Node τ} {log : List RxEvent}
    (h : AcceptInv n log.reverse) (hfew : (acceptedIds log).length < 2 ^ 32) :
    AtMostOnce log := by
  have hrev : ∀ l : List RxEvent, acceptedIds l.reverse = (acceptedIds l).reverse :=
    fun l => List.filterMap_reverse
  have hspaced := h.spaced (by rw [hrev, List.length_reverse]; exact hfew)
  refine ⟨fun w hw hlen => ?_, fun kind id pre mid post hlog => ?_⟩
  · rw [hrev] at hspaced
    have hnodup := hspaced.nodup_of_infix (List.reverse_infix.mpr hw)
      (by rw [List.length_reverse]; exact hlen)
    exact List.nodup_reverse.mp hnodup
  · have htied := h.tied
    rw [hlog] at htied hspaced
    simp only [List.reverse_append, List.reverse_cons, List.append_assoc, List.cons_append,
      List.nil_append] at htied hspaced
    have hgap := htied.gap hspaced
    rwa [hrev, List.filter_reverse, List.length_reverse] at hgap

/-! ## The two claims about a run -/

/-- **At-most-once acceptance inside the duplicate window.** In every run of a
node from a routing state `ts_routing_init` leaves, with fewer than 2^32
frames accepted, any 33 consecutive acceptances are of different messages.
Between two neighbour updates, two configuration changes, two local
deliveries or two calls of `ts_contention_schedule` for the same message lie
at least 32 acceptances of others. -/
theorem accepted_at_most_once {n n' : Node τ} {nodeId : UInt16}
    (hrouting : n.routing = tsRoutingInit nodeId) (hrx : n.rx = .listening)
    {acts : List (NodeAct τ)} (hrun : run (Node.step P) n acts = some n')
    (hfew : (acceptedIds (rxLog (trace (Node.step P) (Node.events P) n acts))).length
      < 2 ^ 32) :
    let log := rxLog (trace (Node.step P) (Node.events P) n acts)
    (∀ w, w <:+: acceptedIds log → w.length ≤ 33 → w.Nodup)
    ∧ ∀ kind id pre mid post,
      log = pre ++ .effect kind id :: (mid ++ .effect kind id :: post) →
      32 ≤ ((acceptedIds mid).filter (fun other => other ≠ id)).length := by
  have h := (acceptInv_run hrouting hrx hrun).atMostOnce hfew
  exact ⟨h.window, h.gap⟩

end Invariant

/-- A status heard, delivered and scheduled, heard again from another
neighbour, and a status of another node after it. -/
def statusHeardTwice : List (HeardAct Unit) :=
  [.hears (heardStatus 2 0) () (-80) 5 60, .does (.deliver 0 ()), .does .relay,
    .hears (heardStatus 2 0) () (-95) 3 60,
    .hears (heardStatus 3 0) () (-80) 5 61, .does (.deliver 0 ()), .does .relay]

theorem audible_statusHeardTwice :
    ∀ a ∈ statusHeardTwice, a.Audible defaultPlatform := by
  have hstatus : ∀ src : UInt16, fitsFrame Zcbor.reference (heardStatus src 0) = true →
      Audible defaultPlatform (heardStatus src 0) := fun _ hfits => audible_default rfl rfl hfits
  simp only [statusHeardTwice, List.forall_mem_cons, HeardAct.Audible, true_and]
  exact ⟨hstatus 2 (by decide), hstatus 2 (by decide), hstatus 3 (by decide), nofun⟩

/-- The two statuses are accepted once each there. -/
theorem accepted_at_most_once_statusHeardTwice :
    let n : Node Unit := Node.boot ConfigState.empty
    let acts := statusHeardTwice.map (HeardAct.act defaultPlatform)
    let log := rxLog (trace (Node.step defaultPlatform) (Node.events defaultPlatform) n acts)
    acceptedIds log = [(2, 0), (3, 0)]
      ∧ (∀ w, w <:+: acceptedIds log → w.length ≤ 33 → w.Nodup)
      ∧ ∀ kind id pre mid post,
        log = pre ++ .effect kind id :: (mid ++ .effect kind id :: post) →
        32 ≤ ((acceptedIds mid).filter (fun other => other ≠ id)).length := by
  intro n acts log
  obtain ⟨n', hrun⟩ : ∃ n', run (Node.step defaultPlatform) n acts = some n' := by
    rw [run_heard audible_statusHeardTwice]
    exact Option.isSome_iff_exists.mp (by decide +kernel)
  have hids : acceptedIds log = [(2, 0), (3, 0)] := by
    show acceptedIds (rxLog (trace _ _ n (statusHeardTwice.map _))) = _
    rw [trace_heard audible_statusHeardTwice]
    decide +kernel
  have h := accepted_at_most_once (P := defaultPlatform) rfl rfl hrun
    (by rw [hids]; decide)
  exact ⟨hids, h⟩

end Terrascope
