import Mathlib.Data.List.Basic

/-!
# A message queue of the kernel

A queue of fixed depth that never blocks a writer: a message that finds it
full is not taken. Its depth is part of what a queue is here, so a longer one
cannot be built.

`Fifo` ties a queue to what was ever put into it and what was ever got out of
it, in order; the three rules that follow are all that a proof about its user
needs.
-/

namespace Zephyr

variable {α : Type} {depth : ℕ}

/-- **A message queue**, the oldest message first. -/
structure MsgQueue (α : Type) (depth : ℕ) where
  items : List α
  length_le : items.length ≤ depth

/-- `k_msgq_init`. -/
def kMsgqInit : MsgQueue α depth := ⟨[], Nat.zero_le depth⟩

/-- `k_msgq_put` with `K_NO_WAIT`: `none` where the queue is full. -/
def kMsgqPut (q : MsgQueue α depth) (x : α) : Option (MsgQueue α depth) :=
  if h : q.items.length < depth then
    some ⟨q.items ++ [x], by rw [List.length_append]; exact h⟩
  else none

/-- `k_msgq_get`: `none` where there is nothing to get until the timeout. -/
def kMsgqGet (q : MsgQueue α depth) : Option (α × MsgQueue α depth) :=
  match h : q.items with
  | [] => none
  | x :: rest => some (x, ⟨rest, Nat.le_of_succ_le (by simpa [h] using q.length_le)⟩)

/-- A message that is taken is the last. -/
theorem kMsgqPut_eq_some {q q' : MsgQueue α depth} {x : α} (h : kMsgqPut q x = some q') :
    q'.items = q.items ++ [x] := by
  unfold kMsgqPut at h
  split at h
  · rw [← Option.some.inj h]
  · cases h

/-- **What is got is the oldest message.** -/
theorem kMsgqGet_eq_some {q q' : MsgQueue α depth} {x : α} (h : kMsgqGet q = some (x, q')) :
    q.items = x :: q'.items := by
  unfold kMsgqGet at h
  split at h
  · cases h
  · next x' rest hitems =>
    cases h
    exact hitems

/-- **A queue and its past**: what was got so far, followed by what is in the
queue, is what was put. -/
def Fifo (q : MsgQueue α depth) (put got : List α) : Prop := got ++ q.items = put

/-- A message put. -/
theorem Fifo.put {q q' : MsgQueue α depth} {put got : List α} (h : Fifo q put got) {x : α}
    (hput : kMsgqPut q x = some q') : Fifo q' (put ++ [x]) got := by
  unfold Fifo at h ⊢
  rw [kMsgqPut_eq_some hput, ← List.append_assoc, h]

/-- A message got. -/
theorem Fifo.get {q q' : MsgQueue α depth} {put got : List α} (h : Fifo q put got) {x : α}
    (hget : kMsgqGet q = some (x, q')) : Fifo q' put (got ++ [x]) := by
  unfold Fifo at h ⊢
  rw [← h, kMsgqGet_eq_some hget, List.append_assoc]
  rfl

end Zephyr
