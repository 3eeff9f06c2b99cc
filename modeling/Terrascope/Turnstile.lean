import Terrascope.SlotArray
import Terrascope.Transition

/-!
# A semaphore as a turnstile

A semaphore of the kernel with a limit of one, which starts without a token
and is given one when something is ready. Every thread that waits for it takes
the token and gives it back at once, so that the next can pass.

The token is in the semaphore or with the one thread inside, which is
`Turnstile.Inv`; everything else follows from it. No thread passes before the
turnstile is opened (`Inv.opened_of_ne_waiting`), and once it is, whichever
thread takes the token first, nothing can keep the others from passing
(`Inv.through_of_stuck`).
-/

namespace Zephyr

open Transition SlotArray

/-- **A semaphore**, which holds no more tokens than its limit. -/
structure KSem (limit : ℕ) where
  count : ℕ
  count_le : count ≤ limit

/-- `k_sem_give`: a token beyond the limit is lost. -/
def kSemGive {limit : ℕ} (s : KSem limit) : KSem limit :=
  if h : s.count < limit then ⟨s.count + 1, h⟩ else s

/-- `k_sem_take`, which waits where there is no token. -/
def kSemTake {limit : ℕ} (s : KSem limit) : Option (KSem limit) :=
  if 0 < s.count then some ⟨s.count - 1, (Nat.sub_le _ _).trans s.count_le⟩ else none

/-- A token that has room is not lost. -/
theorem count_kSemGive {limit : ℕ} {s : KSem limit} (h : s.count < limit) :
    (kSemGive s).count = s.count + 1 := by
  unfold kSemGive
  rw [dif_pos h]

/-- A token taken was there. -/
theorem kSemTake_eq_some {limit : ℕ} {s s' : KSem limit} (h : kSemTake s = some s') :
    s.count = s'.count + 1 := by
  unfold kSemTake at h
  split at h
  · next hpos =>
    rw [← Option.some.inj h]
    exact (Nat.succ_pred_eq_of_pos hpos).symm
  · cases h

/-- **Where a thread is**: before `k_sem_take`, between it and `k_sem_give`, or
behind. -/
inductive Gate where
  | waiting
  | inside
  | through
deriving DecidableEq

/-- The tokens a thread holds. -/
def Gate.tokens : Gate → ℕ
  | .inside => 1
  | _ => 0

/-- The steps it has before it. -/
def Gate.ahead : Gate → ℕ
  | .waiting => 2
  | .inside => 1
  | .through => 0

/-- **A turnstile** for threads `ι`. -/
structure Turnstile (ι : Type) where
  sem : KSem 1
  gate : ι → Gate
  opened : Bool

/-- **A step**: the turnstile is opened, or a thread takes its next step. -/
inductive TurnstileAct (ι : Type) where
  | openUp
  | take (i : ι)
  | giveBack (i : ι)

namespace Turnstile

variable {ι : Type}

/-- Nothing is ready yet. -/
def closed : Turnstile ι := ⟨⟨0, Nat.zero_le 1⟩, fun _ => .waiting, false⟩

section Step

variable [DecidableEq ι]

/-- **One step.** -/
def step (s : Turnstile ι) : TurnstileAct ι → Option (Turnstile ι)
  | .openUp =>
    if s.opened then none else some { s with sem := kSemGive s.sem, opened := true }
  | .take i =>
    if s.gate i = .waiting then
      (kSemTake s.sem).map (fun sem =>
        { s with sem := sem, gate := Function.update s.gate i .inside })
    else none
  | .giveBack i =>
    if s.gate i = .inside then
      some { s with sem := kSemGive s.sem, gate := Function.update s.gate i .through }
    else none

/-- A thread neither opens nor closes it. -/
theorem opened_of_step {s s' : Turnstile ι} {a : TurnstileAct ι} (ha : a ≠ .openUp) (hs : s.step a = some s') :
    s'.opened = s.opened := by
  cases a with
  | openUp => exact absurd rfl ha
  | take i =>
    simp only [Turnstile.step] at hs
    split at hs
    · obtain ⟨sem, -, rfl⟩ := Option.map_eq_some_iff.mp hs
      rfl
    · cases hs
  | giveBack i =>
    simp only [Turnstile.step] at hs
    split at hs
    · cases hs
      rfl
    · cases hs

end Step

variable [Fintype ι]

/-- **The one token** is in the semaphore or with a thread, once there is
one. -/
structure Inv (s : Turnstile ι) : Prop where
  token : s.sem.count + tally Gate.tokens s.gate = if s.opened then 1 else 0
  closed : s.opened = false → ∀ i, s.gate i = .waiting

/-- The steps that are left: a thread has two, and the opening is one. -/
def left (s : Turnstile ι) : ℕ := (if s.opened then 0 else 1) + tally Gate.ahead s.gate

theorem inv_closed : Inv (closed : Turnstile ι) :=
  ⟨(Nat.zero_add _).trans (tally_eq_zero.mpr (fun _ => rfl)), fun _ _ => rfl⟩

/-- **No thread passes a turnstile that is not open.** -/
theorem Inv.opened_of_ne_waiting {s : Turnstile ι} (h : Inv s) {i : ι} (hi : s.gate i ≠ .waiting) :
    s.opened = true := by
  by_contra hclosed
  exact hi (h.closed (Bool.eq_false_iff.mpr hclosed) i)

variable [DecidableEq ι]

variable {s s' : Turnstile ι}

/-- **A step keeps the token**, and there is one step less to take. -/
theorem Inv.step {a : TurnstileAct ι} (h : Inv s) (hs : s.step a = some s') :
    Inv s' ∧ left s = left s' + 1 := by
  have htoken := h.token
  cases a with
  | openUp =>
    simp only [Turnstile.step] at hs
    split at hs
    · cases hs
    · next hclosed =>
      cases hs
      rw [if_neg hclosed] at htoken
      have hcount := count_kSemGive (s := s.sem) (by omega)
      refine ⟨⟨?_, fun hopened => by cases hopened⟩, ?_⟩
      · simp only [if_true]
        omega
      · simp only [left, if_neg hclosed, if_true]
        omega
  | take i =>
    simp only [Turnstile.step] at hs
    split at hs
    · next hwaiting =>
      obtain ⟨sem, htake, rfl⟩ := Option.map_eq_some_iff.mp hs
      have hcount := kSemTake_eq_some htake
      have htokens := tally_update Gate.tokens s.gate i .inside
      have hahead := tally_update Gate.ahead s.gate i .inside
      rw [hwaiting] at htokens hahead
      simp only [Gate.tokens, Gate.ahead] at htokens hahead
      have hopened : s.opened = true := by
        by_contra hclosed
        rw [if_neg hclosed] at htoken
        omega
      rw [if_pos hopened] at htoken
      refine ⟨⟨?_, fun hclosed => by rw [hopened] at hclosed; cases hclosed⟩, ?_⟩
      · simp only [if_pos hopened]
        omega
      · simp only [left]
        omega
    · cases hs
  | giveBack i =>
    simp only [Turnstile.step] at hs
    split at hs
    · next hinside =>
      cases hs
      have htokens := tally_update Gate.tokens s.gate i .through
      have hahead := tally_update Gate.ahead s.gate i .through
      rw [hinside] at htokens hahead
      simp only [Gate.tokens, Gate.ahead] at htokens hahead
      have hopened : s.opened = true := by
        by_contra hclosed
        rw [h.closed (Bool.eq_false_iff.mpr hclosed) i] at hinside
        cases hinside
      rw [if_pos hopened] at htoken
      have hcount := count_kSemGive (s := s.sem) (by omega)
      refine ⟨⟨?_, fun hclosed => by rw [hopened] at hclosed; cases hclosed⟩, ?_⟩
      · simp only [if_pos hopened]
        omega
      · simp only [left]
        omega
    · cases hs

/-- **An open turnstile is never stuck** before every thread is through. -/
theorem Inv.exists_step (h : Inv s) (hopened : s.opened = true)
    (hnot : ∃ i, s.gate i ≠ .through) :
    ∃ a s', a ≠ .openUp ∧ s.step a = some s' := by
  by_cases hinside : ∃ i, s.gate i = .inside
  · obtain ⟨i, hi⟩ := hinside
    exact ⟨.giveBack i, _, fun h => (by cases h), if_pos hi⟩
  · -- nobody has the token, so it is there to be taken
    obtain ⟨i, hi⟩ := hnot
    have hwaiting : s.gate i = .waiting := by
      cases hgate : s.gate i with
      | waiting => rfl
      | inside => exact absurd ⟨i, hgate⟩ hinside
      | through => exact absurd hgate hi
    have hnone : tally Gate.tokens s.gate = 0 := by
      refine tally_eq_zero.mpr (fun j => ?_)
      cases hgate : s.gate j with
      | inside => exact absurd ⟨j, hgate⟩ hinside
      | _ => rfl
    have hcount := h.token
    rw [hnone, if_pos hopened] at hcount
    obtain ⟨sem, htake⟩ : ∃ sem, kSemTake s.sem = some sem := ⟨_, if_pos (by omega)⟩
    exact ⟨.take i, _, fun h => (by cases h), (if_pos hwaiting).trans (by rw [htake]; rfl)⟩

/-- So where no thread can go on, every thread is through. -/
theorem Inv.through_of_stuck (h : Inv s) (hopened : s.opened = true)
    (hstuck : ∀ a, a ≠ .openUp → s.step a = none) (i : ι) : s.gate i = .through := by
  by_contra hi
  obtain ⟨a, s', ha, hs⟩ := h.exists_step hopened ⟨i, hi⟩
  cases (hstuck a ha).symm.trans hs

/-- **However the threads come on, they all get through**: a run of theirs that
is at most as long as what is left can be prolonged until they are. -/
theorem Inv.exists_run_through (h : Inv s) (hopened : s.opened = true) :
    ∃ acts t, (∀ a ∈ acts, a ≠ .openUp) ∧ run Turnstile.step s acts = some t
      ∧ ∀ i, t.gate i = .through := by
  induction hleft : left s using Nat.strong_induction_on generalizing s with
  | _ n ih =>
    by_cases hall : ∀ i, s.gate i = .through
    · exact ⟨[], s, fun a ha => absurd ha List.not_mem_nil, rfl, hall⟩
    · obtain ⟨a, s₁, ha, hs⟩ := h.exists_step hopened (not_forall.mp hall)
      obtain ⟨h₁, hless⟩ := h.step hs
      have hopened₁ : s₁.opened = true := (opened_of_step ha hs).trans hopened
      obtain ⟨acts, t, hacts, hrun, hthrough⟩ := ih (left s₁) (by omega) h₁ hopened₁ rfl
      exact ⟨a :: acts, t, List.forall_mem_cons.mpr ⟨ha, hacts⟩,
        run_cons_eq_some.mpr ⟨s₁, hs, hrun⟩, hthrough⟩

end Turnstile

end Zephyr
