import Terrascope.BootOrder

/-!
# A node that has heard nobody

A node whose receive task never accepts a frame does nothing for the mesh:
whatever it originates, publishes and sends itself, nothing is delivered,
applied or relayed, and its configuration stays what was loaded. So to show
that a node keeps to itself it is enough to show that it accepts nothing.
-/

namespace Terrascope

open Node

variable {τ : Type}

/-- The event is one of a message that the node originated. -/
def NodeEvent.isOwn : NodeEvent τ → Bool
  | .originated _ => true
  | .published _ _ => true
  | .transmitted _ _ _ => true
  | _ => false

/-- **A node that has heard nobody**: it is as it was after boot, up to what it
originates and sends. -/
structure Node.Unheard [Inhabited τ] (n : Node τ) (config : ConfigState) : Prop where
  fresh : Fresh n
  config : n.config = config
  pool : n.pool = tsContentionInit staticPool

variable [Inhabited τ] {P : Platform} {n n' : Node τ} {config : ConfigState}

/-- A node after boot has heard nobody. -/
theorem Node.unheard_boot (config : ConfigState) : (Node.boot config : Node τ).Unheard config :=
  ⟨⟨rfl, rfl, fun _ => rfl⟩, rfl, rfl⟩

/-- Nothing happens in a pool that nothing was put into. -/
theorem handle_init (i : Fin TS_CONTENTION_POOL_SIZE) (a : HandlerAct) :
    ((tsContentionInit staticPool : Pool τ) i).handle a = none := by
  cases a <;> rfl

/-- It takes nothing for a duplicate. -/
theorem Node.Unheard.not_recognised (h : n.Unheard config) (id : UInt16 × UInt32) :
    ¬ Recognised n.routing id := by
  rintro ⟨i, hi, -⟩
  rw [h.fresh.cache] at hi
  exact Nat.not_lt_zero _ hi

/-- **A step that accepts nothing leaves it having heard nobody**, and all it
does is its own. -/
theorem Node.Unheard.step (h : n.Unheard config) {a : NodeAct τ} {es : List (NodeEvent τ)}
    (hs : Step P n a n' es) (hnone : ∀ c, .accepted c ∉ es) :
    n'.Unheard config ∧ ∀ e ∈ es, e.isOwn = true := by
  obtain ⟨hfresh, hconfig, -⟩ := h.fresh.step hs hnone
  have hpool := h.pool
  have hrx' := h.fresh.listening
  cases hs with
  | accepted => exact absurd List.mem_cons_self (hnone _)
  | duplicate hrx hlen hparse hsrc hdup =>
    exact absurd ((tsRoutingIsDuplicate_iff _ _).mp hdup) (h.not_recognised _)
  | notForUs hrx | configured hrx | delivered hrx | ackPublished hrx | notRelayed hrx
  | poolFull hrx | relayed hrx =>
    cases hrx'.symm.trans hrx
  | handled hslot =>
    rw [hpool, handle_init] at hslot
    cases hslot
  | forwardPublished c hrun =>
    rw [hpool] at hrun
    cases hrun
  | _ => exact ⟨⟨hfresh, hconfig.trans h.config, hpool⟩, by simp [NodeEvent.isOwn]⟩

end Terrascope
