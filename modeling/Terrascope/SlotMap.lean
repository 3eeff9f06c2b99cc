import Mathlib.Data.Set.Card
import Terrascope.SlotArray

/-!
# Arrays of slots that stand for maps

An array whose used slots carry a key each, no key twice, stands for a map
from the keys to what the slots hold. `Represents` says for which one, up to
a relation between the content of a slot and the value of the map: a slot may
hold less than the value, and a freed slot may still hold anything.

The three ways such an array is written to each have a lemma: one slot is
filled (`Represents.write`, where whatever it held before goes out of the
map), and some slots are freed at once (`Represents.free`). Counting slots
counts keys (`Represents.countP_eq_ncard`).
-/

namespace SlotMap

open SlotArray

variable {n : ℕ} {α κ β : Type*}

/-- **The array stands for the map.** -/
structure Represents (used : α → Bool) (key : α → κ) (R : α → β → Prop) (s : Fin n → α)
    (m : κ → Option β) : Prop where
  /-- No key is in two slots. -/
  unique : ∀ i j, used (s i) = true → used (s j) = true → key (s i) = key (s j) → i = j
  /-- What a slot holds is what the map has for its key. -/
  sound : ∀ i, used (s i) = true → ∃ b, m (key (s i)) = some b ∧ R (s i) b
  /-- The map has no other keys. -/
  complete : ∀ k b, m k = some b → ∃ i, used (s i) = true ∧ key (s i) = k

variable {used : α → Bool} {key : α → κ} {R : α → β → Prop} {s : Fin n → α}
  {m : κ → Option β}

/-- An array without a used slot stands for the empty map. -/
theorem represents_empty (h : ∀ i, used (s i) = false) :
    Represents used key R s (fun _ => none) where
  unique := fun i _ hi => absurd ((h i).symm.trans hi) Bool.false_ne_true
  sound := fun i hi => absurd ((h i).symm.trans hi) Bool.false_ne_true
  complete := fun _ _ hb => nomatch hb

/-- A slot with a key holds what the map has for it. -/
theorem Represents.value (h : Represents used key R s m) {i : Fin n} {k : κ}
    (hi : used (s i) = true) (hk : key (s i) = k) : ∃ b, m k = some b ∧ R (s i) b :=
  hk ▸ h.sound i hi

/-- **A key without a slot** is not in the map. -/
theorem Represents.eq_none (h : Represents used key R s m) {k : κ}
    (hk : ∀ i, used (s i) = true → key (s i) ≠ k) : m k = none := by
  cases hm : m k with
  | none => rfl
  | some b =>
    obtain ⟨i, hi, hik⟩ := h.complete k b hm
    exact absurd hik (hk i hi)

section Write

variable [DecidableEq κ]

/-- The map without what a slot holds. -/
def forget (used : α → Bool) (key : α → κ) (x : α) (m : κ → Option β) : κ → Option β :=
  if used x then Function.update m (key x) none else m

/-- **A slot is filled.** Whatever it held goes out of the map, and the new
key comes in; no other slot may have it. -/
theorem Represents.write (h : Represents used key R s m) {i : Fin n} {x : α} {k : κ} {b : β}
    (hx : used x = true) (hk : key x = k) (hR : R x b)
    (hnew : ∀ j, j ≠ i → used (s j) = true → key (s j) ≠ k) :
    Represents used key R (Function.update s i x)
      (Function.update (forget used key (s i) m) k (some b)) where
  unique := by
    subst hk
    intro j l hj hl hkey
    -- no other slot in use has the new key, so a clash can only be the slot with itself
    by_cases hji : j = i <;> by_cases hli : l = i
    · rw [hji, hli]
    · subst hji
      rw [Function.update_self, Function.update_of_ne hli] at hkey
      rw [Function.update_of_ne hli] at hl
      exact absurd hkey.symm (hnew l hli hl)
    · subst hli
      rw [Function.update_of_ne hji, Function.update_self] at hkey
      rw [Function.update_of_ne hji] at hj
      exact absurd hkey (hnew j hji hj)
    · rw [Function.update_of_ne hji] at hj hkey
      rw [Function.update_of_ne hli] at hl hkey
      exact h.unique j l hj hl hkey
  sound := by
    subst hk
    intro j hj
    by_cases hji : j = i
    · subst hji
      rw [Function.update_self]
      exact ⟨b, Function.update_self _ _ _, hR⟩
    · rw [Function.update_of_ne hji] at hj ⊢
      rw [Function.update_of_ne (hnew j hji hj)]
      -- forgetting the overwritten key leaves the other slots' keys, which differ from it
      unfold forget
      split
      · next hi =>
        have hkey : key (s j) ≠ key (s i) := fun hkey => hji (h.unique j i hj hi hkey)
        rw [Function.update_of_ne hkey]
        exact h.sound j hj
      · exact h.sound j hj
  complete := by
    intro l c hl
    by_cases hlk : l = k
    · exact ⟨i, by rw [Function.update_self]; exact ⟨hx, hk.trans hlk.symm⟩⟩
    · rw [Function.update_of_ne hlk] at hl
      -- the key was known before, and not through the slot that is overwritten
      have hold : m l = some c ∧ ¬ (used (s i) = true ∧ key (s i) = l) := by
        unfold forget at hl
        split at hl
        · by_cases hli : l = key (s i)
          · rw [hli, Function.update_self] at hl
            cases hl
          · rw [Function.update_of_ne hli] at hl
            exact ⟨hl, fun hi => hli hi.2.symm⟩
        · next hi => exact ⟨hl, fun hused => hi hused.1⟩
      obtain ⟨j, hj, hjk⟩ := h.complete l c hold.1
      have hji : j ≠ i := by
        rintro rfl
        exact hold.2 ⟨hj, hjk⟩
      exact ⟨j, by rw [Function.update_of_ne hji]; exact ⟨hj, hjk⟩⟩

/-- Overwriting a slot under the key it has forgets nothing. -/
theorem update_forget_self {x : α} {k : κ} (hk : key x = k) (b : Option β) :
    Function.update (forget used key x m) k b = Function.update m k b := by
  unfold forget
  split
  · rw [hk, Function.update_idem]
  · rfl

/-- A free slot has nothing to forget. -/
theorem forget_of_free {x : α} (hx : used x = false) : forget used key x m = m :=
  if_neg (by rw [hx]; exact Bool.false_ne_true)

end Write

/-- **Some slots are freed.** The keys that go are those whose values say
so. -/
theorem Represents.free (h : Represents used key R s m) {s' : Fin n → α} {q : β → Bool}
    (hused : ∀ i, used (s i) = false → used (s' i) = false)
    (hq : ∀ i b, used (s i) = true → R (s i) b →
      if q b then used (s' i) = false else s' i = s i) :
    Represents used key R s' (fun k => (m k).filter (fun b => !q b)) := by
  -- a slot that is still in use is as it was, and its value stays
  have hkept : ∀ i, used (s' i) = true → s' i = s i ∧ used (s i) = true
      ∧ ∃ b, m (key (s i)) = some b ∧ R (s i) b ∧ q b = false := by
    intro i hi
    have hold : used (s i) = true := by
      by_contra hfree
      have := hused i (Bool.eq_false_iff.mpr hfree)
      rw [hi] at this
      cases this
    obtain ⟨b, hb, hR⟩ := h.sound i hold
    have hqb := hq i b hold hR
    split at hqb
    · rw [hi] at hqb
      cases hqb
    · next hn => exact ⟨hqb, hold, b, hb, hR, Bool.eq_false_iff.mpr hn⟩
  refine ⟨fun i j hi hj hkey => ?_, fun i hi => ?_, fun k b hk => ?_⟩
  · obtain ⟨hsi, hui, -⟩ := hkept i hi
    obtain ⟨hsj, huj, -⟩ := hkept j hj
    rw [hsi, hsj] at hkey
    exact h.unique i j hui huj hkey
  · obtain ⟨hsi, hui, b, hb, hR, hqb⟩ := hkept i hi
    rw [hsi]
    exact ⟨b, Option.filter_eq_some_iff.mpr ⟨hb, by rw [hqb]; rfl⟩, hR⟩
  · obtain ⟨hm, hqb⟩ := Option.filter_eq_some_iff.mp hk
    obtain ⟨i, hi, hik⟩ := h.complete k b hm
    obtain ⟨b', hb', hR⟩ := h.value hi hik
    cases hm.symm.trans hb'
    have hstay := hq i b hi hR
    rw [if_neg (by simpa using hqb)] at hstay
    exact ⟨i, by rw [hstay]; exact ⟨hi, hik⟩⟩

/-- Counting over all the slots counts a set of them. -/
theorem countP_finRange (p : Fin n → Bool) :
    (List.finRange n).countP p = {i | p i = true}.ncard := by
  rw [List.countP_eq_length_filter,
    ← List.toFinset_card_of_nodup ((List.nodup_finRange n).filter p), ← Set.ncard_coe_finset]
  congr 1
  ext i
  simp

/-- **Counting slots counts keys.** -/
theorem Represents.countP_eq_ncard (h : Represents used key R s m) {p : α → Bool}
    {q : β → Prop} (hp : ∀ i b, used (s i) = true → R (s i) b → (p (s i) = true ↔ q b)) :
    (List.finRange n).countP (fun i => used (s i) && p (s i))
      = {k | ∃ b, m k = some b ∧ q b}.ncard := by
  rw [countP_finRange]
  refine Set.ncard_congr (fun i _ => key (s i)) ?_ ?_ ?_
  · intro i hi
    obtain ⟨hused, hpi⟩ := Bool.and_eq_true_iff.mp hi
    obtain ⟨b, hb, hR⟩ := h.sound i hused
    exact ⟨b, hb, (hp i b hused hR).mp hpi⟩
  · intro i j hi hj hkey
    exact h.unique i j (Bool.and_eq_true_iff.mp hi).1 (Bool.and_eq_true_iff.mp hj).1 hkey
  · rintro k ⟨b, hb, hqb⟩
    obtain ⟨i, hi, hik⟩ := h.complete k b hb
    obtain ⟨b', hb', hR⟩ := h.value hi hik
    cases hb.symm.trans hb'
    exact ⟨i, Bool.and_eq_true_iff.mpr ⟨hi, (hp i b hi hR).mpr hqb⟩, hik⟩

end SlotMap
