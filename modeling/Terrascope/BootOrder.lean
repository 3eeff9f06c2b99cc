import Terrascope.Acceptance
import Terrascope.Boot

/-!
# The order of the boot

`lora_in_task` waits for the radio and for nothing else, and from the moment
the key is imported it takes frames for authentic. `main` has the
configuration, the routing state and the neighbour table still to initialise
then. A frame that comes in meanwhile is compared with id 0, and what is
noted of it is cleared again, so that it is accepted a second time
(`heardBeforeInit_accepted_twice`).

`OrderlyReception` is what the order of the boot should guarantee. It does so
for the runs in which no frame is authentic and readable before everything is
initialised – but for those of the node itself, which the last step of the
initialisation does no harm.
-/

namespace Terrascope

open Transition Node

/-- **What can be seen of a step of the boot.** -/
inductive BootEvent (τ : Type) where
  /-- `ts_config_init` has loaded a configuration with this id. -/
  | loaded (nodeId : UInt16)
  /-- A message is compared with the node's id: with its source in the
  own-source check, with its destination in `ts_routing_is_for_us`. -/
  | judged (nodeId : UInt16) (msg : Copy τ)
  /-- `ts_routing_init` clears the duplicate cache of that many entries. -/
  | cacheCleared (entries : ℕ)
  /-- `ts_routing_table_init` clears the table of that many entries. -/
  | tableCleared (entries : ℕ)
  | node (event : NodeEvent τ)
deriving DecidableEq

/-- The event of the node. -/
def BootEvent.nodeEvent {τ : Type} : BootEvent τ → Option (NodeEvent τ)
  | .node e => some e
  | _ => none

/-- **Reception does not overtake initialisation**; oldest first. -/
structure OrderlyReception {τ : Type} (log : List (BootEvent τ)) : Prop where
  /-- Every message is compared with the id of the loaded configuration. -/
  judged : ∀ pre nodeId c post, log = pre ++ .judged nodeId c :: post → .loaded nodeId ∈ pre
  /-- No entry of the duplicate cache is discarded, … -/
  cacheKept : ∀ entries, .cacheCleared entries ∈ log → entries = 0
  /-- … and none of the neighbour table. -/
  tableKept : ∀ entries, .tableCleared entries ∈ log → entries = 0
  /-- So nothing is accepted twice inside the duplicate window, from boot
  on. -/
  once : (acceptedIds (rxLog (log.filterMap BootEvent.nodeEvent))).length < 2 ^ 32 →
    AtMostOnce (rxLog (log.filterMap BootEvent.nodeEvent))

variable {τ : Type} {P : Platform}

/-- The comparisons of a step of the node. -/
def Booting.judgements (P : Platform) (s : Booting τ) : NodeAct τ → List (BootEvent τ)
  | .receive frame tag _ _ _ =>
    match loraInParse (s.platform P) frame with
    | some msg => [.judged (tsRoutingGetNodeId s.node.routing) ⟨msg, tag⟩]
    | none => []
  | .deliver _ _ =>
    match s.node.rx with
    | .accepted inMsg tag => [.judged (tsRoutingGetNodeId s.node.routing) ⟨inMsg.msg, tag⟩]
    | _ => []
  | _ => []

/-- **What a step of the boot does.** -/
def Booting.bootEvents (P : Platform) (s : Booting τ) : BootAct τ → List (BootEvent τ)
  | .tsAuthInit _ => []
  | .tsConfigInit subsysRet loadRet order =>
    let (config, ret) := Terrascope.tsConfigInit s.node.config subsysRet loadRet order
    if ret = 0 then [.loaded (tsConfigGet config.live).nodeId] else []
  | .tsRoutingInit => [.cacheCleared s.node.routing.entries]
  | .tsRoutingTableInit => [.tableCleared (tsRoutingTableCount s.node.table)]
  | .node act => s.judgements P act ++ (s.node.events (s.platform P) act).map .node

/-- The log of a boot, and of what comes after it. -/
def bootLog (P : Platform) (s : Booting τ) (acts : List (BootAct τ)) : List (BootEvent τ) :=
  trace (Booting.step P) (Booting.bootEvents P) s acts

/-- **The step is in order**: a frame that is authentic and readable comes in
only when everything is initialised, or when it is the node's own and there is
only the table left to initialise. -/
def InOrder (P : Platform) (s : Booting τ) : BootAct τ → Prop
  | .node (.receive frame _ _ _ _) =>
    ∀ msg, loraInParse (s.platform P) frame = some msg →
      s.main = .running
        ∨ s.main = .routingTableInit ∧ msg.route.src = tsRoutingGetNodeId s.node.routing
  | _ => True

/-! ## A node that has accepted nothing -/

/-- **Nothing was accepted yet**: the receive task is where it starts, and
there is nothing in the cache or in the table. -/
structure Fresh (n : Node τ) : Prop where
  listening : n.rx = .listening
  cache : n.routing.entries = 0
  table : ∀ i, (n.table i).occupied = false

/-- An empty table counts nothing. -/
theorem tsRoutingTableCount_eq_zero {table : NeighborTable}
    (h : ∀ i, (table i).occupied = false) : tsRoutingTableCount table = 0 :=
  List.countP_eq_zero.mpr (fun i _ hi => Bool.eq_false_iff.mp (h i) hi)

/-- **A step that accepts nothing leaves the node as fresh as it was**, and
configured as it was. -/
theorem Fresh.step {n n' : Node τ} {a : NodeAct τ} {es : List (NodeEvent τ)} (h : Fresh n)
    (hs : Step P n a n' es) (hnone : ∀ c, .accepted c ∉ es) :
    Fresh n' ∧ n'.config = n.config ∧ rxLog es = [] := by
  have hrx := h.listening
  cases hs with
  | accepted => exact absurd List.mem_cons_self (hnone _)
  | aged =>
    refine ⟨⟨hrx, h.cache, fun i => Bool.eq_false_iff.mpr (fun hocc => ?_)⟩, rfl, rfl⟩
    have hsame := congrArg TsNeighbor.occupied (eq_of_aged hocc)
    rw [hocc, h.table i] at hsame
    cases hsame
  | notForUs hacc | configured hacc | delivered hacc | ackPublished hacc | notRelayed hacc
  | poolFull hacc | relayed hacc => cases hrx.symm.trans hacc
  | _ => exact ⟨⟨hrx, h.cache, h.table⟩, rfl, rfl⟩

/-! ## One step of the boot -/

/-- **A comparison comes after the loading of its id**, in a log that goes on:
what is compared anew is compared with an id that was loaded before. -/
theorem judged_append {log new : List (BootEvent τ)}
    (h : ∀ pre nodeId c post, log = pre ++ .judged nodeId c :: post → .loaded nodeId ∈ pre)
    (hnew : ∀ nodeId c, .judged nodeId c ∈ new → .loaded nodeId ∈ log) :
    ∀ pre nodeId c post, log ++ new = pre ++ .judged nodeId c :: post →
      .loaded nodeId ∈ pre := by
  intro pre nodeId c post heq
  rcases List.append_eq_append_iff.mp heq with ⟨mid, hpre, hrest⟩ | ⟨mid, hlog, hrest⟩
  · rw [hpre]
    refine List.mem_append_left _ (hnew nodeId c ?_)
    rw [hrest]
    simp
  · cases mid with
    | nil =>
      rw [List.append_nil] at hlog
      rw [List.nil_append] at hrest
      rw [← hlog]
      exact hnew nodeId c (hrest ▸ List.mem_cons_self)
    | cons e mid =>
      obtain ⟨rfl, -⟩ := List.cons_eq_cons.mp hrest
      exact h pre nodeId c mid hlog

/-- **The id in force was loaded**: that of the live configuration once it is
loaded, and that of the routing state once it is initialised. -/
def Booting.IdLoaded (s : Booting τ) (log : List (BootEvent τ)) : Prop :=
  match s.main with
  | .routingInit => .loaded s.node.cfg.nodeId ∈ log
  | .routingTableInit | .running => .loaded s.node.routing.selfNodeId ∈ log
  | _ => True

/-- **The invariant of an orderly boot.** Until everything is initialised the
node is fresh; after `ts_routing_init` its id is the one that was loaded. -/
structure BootInv (s : Booting τ) (log : List (BootEvent τ)) : Prop where
  judged : ∀ pre nodeId c post, log = pre ++ .judged nodeId c :: post → .loaded nodeId ∈ pre
  cacheKept : ∀ entries, .cacheCleared entries ∈ log → entries = 0
  tableKept : ∀ entries, .tableCleared entries ∈ log → entries = 0
  accept : AcceptInv s.node (rxLog (log.filterMap BootEvent.nodeEvent)).reverse
  fresh : s.main ≠ .running →
    Fresh s.node ∧ rxLog (log.filterMap BootEvent.nodeEvent) = []
  idLoaded : s.IdLoaded log

theorem bootInv_start [Inhabited τ] (store : Zephyr.SettingsStore) (deviceReady : Bool)
    (configRet : Int32) :
    BootInv (Booting.afterLoraInit store deviceReady configRet : Booting τ) [] where
  judged := fun pre nodeId c post h => by simp at h
  cacheKept := fun _ h => nomatch h
  tableKept := fun _ h => nomatch h
  accept := acceptInv_init rfl rfl
  fresh := fun _ => ⟨⟨rfl, rfl, fun _ => rfl⟩, rfl⟩
  idLoaded := trivial

variable {s s' : Booting τ} {log : List (BootEvent τ)}

/-- Before everything is initialised, the log of acceptances is empty. -/
theorem BootInv.accept_nil (h : BootInv s log) (hmain : s.main ≠ .running) :
    AcceptInv s.node [] := by
  have haccept := h.accept
  rwa [(h.fresh hmain).2] at haccept

/-- An event that discards nothing, and is none of the node. -/
def BootEvent.Harmless : BootEvent τ → Prop
  | .loaded _ => True
  | .cacheCleared entries => entries = 0
  | .tableCleared entries => entries = 0
  | _ => False

/-- **A step of `main`** keeps the invariant if it finds nothing to
discard. -/
theorem BootInv.main (h : BootInv s log) (hmain : s.main ≠ .running)
    {new : List (BootEvent τ)} (hnew : ∀ e ∈ new, e.Harmless) (haccept : AcceptInv s'.node [])
    (hfresh : Fresh s'.node) (hid : s'.IdLoaded (log ++ new)) : BootInv s' (log ++ new) := by
  have hnode : new.filterMap BootEvent.nodeEvent = [] := by
    refine List.filterMap_eq_nil_iff.mpr (fun e he => ?_)
    cases e with
    | node ne => exact absurd (hnew _ he) id
    | _ => rfl
  have hlog : rxLog ((log ++ new).filterMap BootEvent.nodeEvent) = [] := by
    rw [List.filterMap_append, hnode, List.append_nil]
    exact (h.fresh hmain).2
  refine ⟨judged_append h.judged (fun nodeId c hc => absurd (hnew _ hc) id), ?_, ?_, ?_,
    fun _ => ⟨hfresh, hlog⟩, hid⟩
  · exact fun entries hc => (List.mem_append.mp hc).elim (h.cacheKept entries) (hnew _)
  · exact fun entries hc => (List.mem_append.mp hc).elim (h.tableKept entries) (hnew _)
  · rw [hlog]
    exact haccept

/-- A step of the node compares with the node's own id. -/
theorem eq_judged_of_mem {act : NodeAct τ} {e : BootEvent τ} (he : e ∈ s.judgements P act) :
    ∃ c, e = .judged s.node.routing.selfNodeId c := by
  cases act with
  | receive | deliver =>
    simp only [Booting.judgements] at he
    split at he
    · exact ⟨_, List.mem_singleton.mp he⟩
    · cases he
  | _ => cases he

/-- **What a step of the node compares** it compares with its own id, and not
before everything is initialised or the routing state at least. -/
theorem BootInv.loaded_of_judgement (h : BootInv s log) {act : NodeAct τ}
    (hin : InOrder P s (.node act)) {nodeId : UInt16} {c : Copy τ}
    (hc : .judged nodeId c ∈ s.judgements P act) : .loaded nodeId ∈ log := by
  have hid := h.idLoaded
  unfold Booting.IdLoaded at hid
  cases act with
  | receive frame tag rssi snr now =>
    simp only [Booting.judgements] at hc
    split at hc
    · next msg hparse =>
      cases List.mem_singleton.mp hc
      rcases hin msg hparse with hmain | ⟨hmain, -⟩
      · rw [hmain] at hid
        exact hid
      · rw [hmain] at hid
        exact hid
    · cases hc
  | deliver saveRet ackTag =>
    simp only [Booting.judgements] at hc
    split at hc
    · next inMsg tag hrx =>
      cases List.mem_singleton.mp hc
      have hmain : s.main = .running := by
        by_contra hmain
        cases (h.fresh hmain).1.listening.symm.trans hrx
      rw [hmain] at hid
      exact hid
    · cases hc
  | _ => cases hc

/-- **In order, nothing is accepted before everything is initialised.** -/
theorem accepted_not_mem {act : NodeAct τ} (hin : InOrder P s (.node act))
    (hmain : s.main ≠ .running) {n' : Node τ} {es : List (NodeEvent τ)}
    (hs : Step (s.platform P) s.node act n' es) (c : Copy τ) : .accepted c ∉ es := by
  intro hc
  obtain ⟨frame, rssi, snr, now, rfl, hparse, hsrc, -, -⟩ := hs.of_accepted_mem hc
  rcases hin c.msg hparse with hrunning | ⟨-, hown⟩
  · exact hmain hrunning
  · exact hsrc hown

/-- A step of the node keeps the invariant. -/
theorem BootInv.node (h : BootInv s log) {act : NodeAct τ} (hin : InOrder P s (.node act))
    {n' : Node τ} {es : List (NodeEvent τ)} (hs : Step (s.platform P) s.node act n' es) :
    BootInv { s with node := n' } (log ++ (s.judgements P act ++ es.map .node)) := by
  have hevents : (s.judgements P act ++ es.map BootEvent.node).filterMap BootEvent.nodeEvent
      = es := by
    have hjudgements : (s.judgements P act).filterMap BootEvent.nodeEvent = [] := by
      refine List.filterMap_eq_nil_iff.mpr (fun e he => ?_)
      obtain ⟨c, rfl⟩ := eq_judged_of_mem he
      rfl
    have hnode : (es.map BootEvent.node).filterMap BootEvent.nodeEvent = es := by
      rw [List.filterMap_map]
      exact List.filterMap_some
    rw [List.filterMap_append, hjudgements, hnode, List.nil_append]
  -- a step of the node adds judgements and node events only, never a boot event
  have hold : ∀ {e}, e ∈ log ++ (s.judgements P act ++ es.map BootEvent.node) →
      (∀ nodeId c, e ≠ .judged nodeId c) → (∀ ne, e ≠ .node ne) → e ∈ log := by
    intro e he hjudged hnode
    rcases List.mem_append.mp he with he | he
    · exact he
    · rcases List.mem_append.mp he with he | he
      · obtain ⟨c, heq⟩ := eq_judged_of_mem he
        exact absurd heq (hjudged _ c)
      · obtain ⟨ne, -, heq⟩ := List.mem_map.mp he
        exact absurd heq.symm (hnode ne)
  refine ⟨judged_append h.judged (fun nodeId c hc => ?_), fun entries hc => ?_,
    fun entries hc => ?_, ?_, fun hmain => ?_, ?_⟩
  · rcases List.mem_append.mp hc with hc | hc
    · exact h.loaded_of_judgement hin hc
    · obtain ⟨e, -, heq⟩ := List.mem_map.mp hc
      cases heq
  · exact h.cacheKept entries (hold hc nofun nofun)
  · exact h.tableKept entries (hold hc nofun nofun)
  · rw [List.filterMap_append, hevents]
    exact h.accept.step_append hs
  -- in order, nothing is accepted before `main` is done, so there is nothing yet to lose
  · obtain ⟨hfresh, hnil⟩ := h.fresh hmain
    obtain ⟨hfresh', -, hnew⟩ := hfresh.step hs (accepted_not_mem hin hmain hs)
    refine ⟨hfresh', ?_⟩
    rw [List.filterMap_append, hevents, rxLog, List.filterMap_append]
    exact List.append_eq_nil_iff.mpr ⟨hnil, hnew⟩
  · have hid := h.idLoaded
    unfold Booting.IdLoaded at hid ⊢
    dsimp only
    split at hid
    · next hmain =>
      have hnot : s.main ≠ .running := by rw [hmain]; decide
      -- the identity is still only in the configuration, which no early step changes
      have hconfig := ((h.fresh hnot).1.step hs (accepted_not_mem hin hnot hs)).2.1
      rw [Node.cfg, hconfig]
      exact List.mem_append_left _ hid
    · rw [hs.selfNodeId_eq]
      exact List.mem_append_left _ hid
    · rw [hs.selfNodeId_eq]
      exact List.mem_append_left _ hid
    · trivial

/-- **Every step in order keeps the invariant.** -/
theorem BootInv.step (h : BootInv s log) {a : BootAct τ} (hin : InOrder P s a)
    (hs : s.step P a = some s') : BootInv s' (log ++ s.bootEvents P a) := by
  have hid := h.idLoaded
  unfold Booting.IdLoaded at hid
  cases a with
  | tsAuthInit ret =>
    simp only [Booting.step] at hs
    split at hs
    · next hmain =>
      have hnot : s.main ≠ .running := by rw [hmain]; decide
      have hfresh := (h.fresh hnot).1
      cases hs
      -- `main` goes on, or returns on the error
      split
      · exact h.main hnot (List.forall_mem_nil _) (h.accept_nil hnot) hfresh trivial
      · exact h.main hnot (List.forall_mem_nil _) (h.accept_nil hnot) hfresh trivial
    · cases hs
  | tsConfigInit subsysRet loadRet order =>
    simp only [Booting.step] at hs
    split at hs
    · next hmain =>
      have hnot : s.main ≠ .running := by rw [hmain]; decide
      obtain ⟨hrx, hcache, htable⟩ := (h.fresh hnot).1
      simp only [Booting.bootEvents]
      generalize Terrascope.tsConfigInit s.node.config subsysRet loadRet order = r at hs ⊢
      obtain ⟨config, ret⟩ := r
      cases hs
      have haccept : AcceptInv { s.node with config := config } [] :=
        (h.accept_nil hnot).frame rfl rfl rfl rfl
      dsimp only
      split
      · exact h.main hnot (List.forall_mem_singleton.mpr trivial) haccept ⟨hrx, hcache, htable⟩
          (List.mem_append_right _ List.mem_cons_self)
      · exact h.main hnot (List.forall_mem_nil _) haccept ⟨hrx, hcache, htable⟩ trivial
    · cases hs
  | tsRoutingInit =>
    simp only [Booting.step] at hs
    split at hs
    · next hmain =>
      have hnot : s.main ≠ .running := by rw [hmain]; decide
      obtain ⟨hrx, hcache, htable⟩ := (h.fresh hnot).1
      rw [hmain] at hid
      cases hs
      -- the cache is cleared while it is empty
      exact h.main hnot (List.forall_mem_singleton.mpr hcache) (acceptInv_init rfl hrx)
        ⟨hrx, rfl, htable⟩ (List.mem_append_left _ hid)
    · cases hs
  | tsRoutingTableInit =>
    simp only [Booting.step] at hs
    split at hs
    · next hmain =>
      have hnot : s.main ≠ .running := by rw [hmain]; decide
      obtain ⟨hrx, hcache, htable⟩ := (h.fresh hnot).1
      rw [hmain] at hid
      cases hs
      exact h.main hnot (List.forall_mem_singleton.mpr (tsRoutingTableCount_eq_zero htable))
        ((h.accept_nil hnot).frame rfl rfl rfl rfl) ⟨hrx, hcache, fun _ => rfl⟩
        (List.mem_append_left _ hid)
    · cases hs
  | node act =>
    simp only [Booting.step] at hs
    split at hs
    · obtain ⟨n', hn', rfl⟩ := Option.map_eq_some_iff.mp hs
      exact h.node hin (Step.of_step hn')
    · cases hs

/-! ## Runs of the boot -/

/-- **Reception does not overtake an initialisation that frames wait for.**
In every interleaving of `main` and the node's threads in which every step is
in order, whatever `lora_config`, the key store and the settings do, every
message is compared with the id of the loaded configuration, no
initialisation discards what was noted of one, and none is accepted twice
inside the duplicate window. -/
theorem orderly_reception_of_inOrder [Inhabited τ] (store : Zephyr.SettingsStore)
    (deviceReady : Bool) (configRet : Int32) {acts : List (BootAct τ)}
    (hin : AllSteps (Booting.step P) (InOrder P)
      (Booting.afterLoraInit store deviceReady configRet) acts)
    (hrun : run (Booting.step P) (Booting.afterLoraInit store deviceReady configRet) acts
      = some s) :
    OrderlyReception (bootLog P (Booting.afterLoraInit store deviceReady configRet) acts) := by
  have hinv : BootInv s
      ([] ++ bootLog P (Booting.afterLoraInit store deviceReady configRet) acts) :=
    run_history_of_allSteps (J := BootInv) (P := InOrder P)
      (fun _ _ _ _ h hP hs => h.step hP hs) (bootInv_start store deviceReady configRet) hin hrun
  exact ⟨hinv.judged, hinv.cacheKept, hinv.tableKept, hinv.accept.atMostOnce⟩

/-- The status of node 2 comes in. -/
def hearsStatus : BootAct Unit :=
  .node (.receive (frameOf defaultPlatform (heardStatus 2 0)) () (-80) 5 60)

/-- It does so after everything is initialised. -/
def heardAfterInit : List (BootAct Unit) :=
  [.tsAuthInit 0, .tsConfigInit 0 0 [], .tsRoutingInit, .tsRoutingTableInit, hearsStatus]

/-- That is in order. -/
theorem orderly_reception_of_inOrder_status : ∃ s,
    run (Booting.step defaultPlatform) (Booting.afterLoraInit ∅ true 0) heardAfterInit = some s
      ∧ s.node.rx.received = some ⟨heardStatus 2 0, ()⟩
      ∧ OrderlyReception
        (bootLog defaultPlatform (Booting.afterLoraInit ∅ true 0) heardAfterInit) := by
  have hrun : (run (Booting.step defaultPlatform) (Booting.afterLoraInit ∅ true 0)
      heardAfterInit).map (fun s => s.node.rx.received)
        = some (some ⟨heardStatus 2 0, ()⟩) := by decide +kernel
  obtain ⟨s, hs, hrx⟩ := Option.map_eq_some_iff.mp hrun
  refine ⟨s, hs, hrx, orderly_reception_of_inOrder ∅ true 0 ?_ hs⟩
  exact .cons trivial rfl (.cons trivial rfl (.cons trivial rfl (.cons trivial rfl
    ⟨fun _ _ => Or.inl rfl, fun _ _ => trivial⟩)))

/-- It does so when the key is imported and nothing else, and again when
everything is initialised. -/
def heardBeforeInit : List (BootAct Unit) :=
  [.tsAuthInit 0, hearsStatus, .node (.deliver 0 ()), .node .relay, .tsConfigInit 0 0 [],
    .tsRoutingInit, .tsRoutingTableInit, hearsStatus]

/-- **It is accepted twice**, judged by id 0 where 1 is loaded afterwards, and
forgotten in between. -/
theorem heardBeforeInit_accepted_twice :
    let start : Booting Unit := Booting.afterLoraInit ∅ true 0
    let c : Copy Unit := ⟨heardStatus 2 0, ()⟩
    (∃ s, run (Booting.step defaultPlatform) start heardBeforeInit = some s)
      ∧ ∃ fwd, bootLog defaultPlatform start heardBeforeInit
        = [.judged 0 c, .node (.accepted c), .node (.neighbourUpdated c), .judged 0 c,
          .node (.delivered c), .node (.scheduled fwd), .loaded 1, .cacheCleared 1,
          .tableCleared 1, .judged 1 c, .node (.accepted c), .node (.neighbourUpdated c)]
      ∧ ¬ OrderlyReception (bootLog defaultPlatform start heardBeforeInit) := by
  intro start c
  have hrun : (run (Booting.step defaultPlatform) start heardBeforeInit).isSome = true := by
    decide +kernel
  have hlog : bootLog defaultPlatform start heardBeforeInit
      = [.judged 0 c, .node (.accepted c), .node (.neighbourUpdated c), .judged 0 c,
        .node (.delivered c),
        .node (.scheduled ⟨{ c.msg with route := { c.msg.route with ttl := 3 } }, ()⟩),
        .loaded 1, .cacheCleared 1, .tableCleared 1, .judged 1 c, .node (.accepted c),
        .node (.neighbourUpdated c)] := by
    decide +kernel
  refine ⟨Option.isSome_iff_exists.mp hrun, _, hlog, fun h => ?_⟩
  cases h.judged [] 0 c _ hlog

end Terrascope
