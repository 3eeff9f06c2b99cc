import Mathlib.Algebra.BigOperators.Fin
import Mathlib.Algebra.Order.BigOperators.Group.Finset
import Mathlib.Data.List.FinRange
import Mathlib.Data.List.MinMax

/-!
# Fixed arrays of slots

Static pools of a firmware are arrays whose entries are looked up by a
linear scan and updated in place. `findSlot` is the scan – the first entry
that passes a test – and `tally` adds up a weight over the array, so that
"how many slots hold this" is a number that one update changes by one
known amount (`tally_update`).
-/

namespace SlotArray

variable {n : ℕ} {α ι : Type*}

/-- **The first index that passes the test**, as a loop from `0` with an
early return finds it. -/
def findSlot (p : Fin n → Bool) : Option (Fin n) :=
  (List.finRange n).find? p

/-- What the scan returns passes the test. -/
theorem findSlot_spec {p : Fin n → Bool} {i : Fin n}
    (h : findSlot p = some i) : p i = true :=
  List.find?_some h

/-- **The scan fails exactly when no slot passes.** -/
theorem findSlot_eq_none {p : Fin n → Bool} :
    findSlot p = none ↔ ∀ i, p i = false := by
  unfold findSlot
  rw [List.find?_eq_none]
  constructor
  · intro h i
    exact Bool.eq_false_iff.mpr (h i (List.mem_finRange i))
  · intro h i _
    rw [h i]
    exact Bool.false_ne_true

/-- Some slot passes, so the scan finds one. -/
theorem findSlot_isSome {p : Fin n → Bool} {i : Fin n} (hi : p i = true) :
    ∃ j, findSlot p = some j := by
  cases h : findSlot p with
  | some j => exact ⟨j, rfl⟩
  | none => exact absurd (findSlot_eq_none.mp h i) (by rw [hi]; exact Bool.noConfusion)

/-- **What holds of every slot and of a new one** holds after an update. -/
theorem forall_update [DecidableEq ι] {P : α → Prop} {s : ι → α} (h : ∀ i, P (s i)) {i : ι}
    {x : α} (hx : P x) : ∀ j, P (Function.update s i x j) :=
  (Function.forall_update_iff s (fun _ y => P y)).mpr ⟨hx, fun j _ => h j⟩

/-! ## The slot with the least value -/

section Argmin

variable [LinearOrder α] {f : ι → α} {p : ι → Bool} {lt : ι → ι → Prop} [DecidableRel lt]

/-- One step of a loop that looks for the least value among the slots that
pass a test, and keeps the first of several. -/
def argminStep (p : ι → Bool) (lt : ι → ι → Prop) [DecidableRel lt] (best : Option ι)
    (i : ι) : Option ι :=
  if p i then
    match best with
    | none => some i
    | some o => if lt i o then some i else some o
  else best

/-- **The loop is `List.argmin`** over the slots that pass the test. -/
theorem foldl_argminStep_eq_argmin (hlt : ∀ i j, lt i j ↔ f i < f j) (l : List ι) :
    l.foldl (argminStep p lt) none = (l.filter p).argmin f := by
  unfold List.argmin
  rw [List.foldl_filter]
  refine congrArg (fun step => l.foldl step none) (funext fun best => funext fun i => ?_)
  unfold argminStep
  split
  · cases best with
    | none => rfl
    | some o => exact if_congr (hlt i o) rfl rfl
  · rfl

/-- **The least value found is the first of its kind**: whatever else passes
the test has a greater one, or comes later. -/
theorem lt_or_lt_of_mem_argmin_filter {f : Fin n → α} {p : Fin n → Bool} {i j : Fin n}
    (h : i ∈ ((List.finRange n).filter p).argmin f) (hj : p j = true) (hij : i ≠ j) :
    f i < f j ∨ f i = f j ∧ i < j := by
  have hmem : j ∈ (List.finRange n).filter p := List.mem_filter.mpr ⟨List.mem_finRange j, hj⟩
  rcases (List.le_of_mem_argmin hmem h).lt_or_eq with hlt | heq
  · exact Or.inl hlt
  · -- the list is in order, so what has the smaller index comes first in it
    have hsorted := (List.pairwise_lt_finRange n).filter p
    have hfirst := List.index_of_argmin h hmem heq.symm.le
    have hi := List.idxOf_lt_length_of_mem (List.argmin_mem h)
    have hj := List.idxOf_lt_length_of_mem hmem
    have hne := mt (List.idxOf_inj (List.argmin_mem h)).mp hij
    have hless := List.pairwise_iff_getElem.mp hsorted _ _ hi hj (lt_of_le_of_ne hfirst hne)
    rw [List.getElem_idxOf, List.getElem_idxOf] at hless
    exact Or.inr ⟨heq, hless⟩

end Argmin

/-! ## Weights -/

section Tally

variable [Fintype ι]

/-- **The weight of an array**: the sum of a weight over its slots. -/
def tally (f : α → ℕ) (s : ι → α) : ℕ :=
  ∑ i, f (s i)

/-- **One update moves the weight by what it replaces.** -/
theorem tally_update [DecidableEq ι] (f : α → ℕ) (s : ι → α) (i : ι) (x : α) :
    tally f (Function.update s i x) + f (s i) = tally f s + f x := by
  unfold tally
  have hnew := Finset.add_sum_erase Finset.univ
    (fun j => f (Function.update s i x j)) (Finset.mem_univ i)
  have hold := Finset.add_sum_erase Finset.univ (fun j => f (s j)) (Finset.mem_univ i)
  have hrest : ∑ j ∈ Finset.univ.erase i, f (Function.update s i x j)
      = ∑ j ∈ Finset.univ.erase i, f (s j) := by
    refine Finset.sum_congr rfl (fun j hj => ?_)
    rw [Function.update_of_ne (Finset.ne_of_mem_erase hj)]
  simp only [Function.update_self] at hnew
  omega

/-- An array of weightless slots weighs nothing. -/
theorem tally_eq_zero {f : α → ℕ} {s : ι → α} : tally f s = 0 ↔ ∀ i, f (s i) = 0 := by
  unfold tally
  rw [Finset.sum_eq_zero_iff]
  exact ⟨fun h i => h i (Finset.mem_univ i), fun h i _ => h i⟩

end Tally

end SlotArray
