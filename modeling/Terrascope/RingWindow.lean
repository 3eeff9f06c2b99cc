import Mathlib.Data.Fin.Basic
import Mathlib.Data.List.Infix
import Mathlib.Data.Nat.ModEq
import Mathlib.Logic.Function.Basic

/-!
# A ring buffer is a window on its history

A ring of `n` cells written at a wrapping index holds the last `n` entries
of everything ever written to it, whatever was in the cells before.
`Represents` ties the cells and the write index to the history – the list
of entries written, latest first – and `Represents.push` is the one step
lemma. `Represents.mem_window` reads membership off: scanning the first
`min len n` cells finds exactly the entries of `hist.take n`, and
`Represents.mem_below` does so for the cells below the write index.

The second half is about histories alone. A history is **spaced** when
every entry was absent from the window at the moment it was written, which
is what a duplicate filter in front of the ring guarantees. A spaced
history repeats nothing within `n + 1` consecutive entries
(`Spaced.nodup_of_infix`), and between two occurrences of an entry there
are `n` entries other than it (`Spaced.gap`).
-/

namespace RingWindow

variable {α : Type*} {n : ℕ}

/-- **The cells and the write index represent a history**, latest entry
first: the index is where the length of the history has wrapped to, and
the last `n` entries sit in the cells below it, going round. -/
structure Represents [NeZero n] (cells : Fin n → α) (next : Fin n)
    (hist : List α) : Prop where
  /-- The write index counts the entries modulo the size. -/
  next_eq : next.val = hist.length % n
  /-- The `k`-th latest entry sits `k + 1` cells behind the write index. -/
  cell : ∀ k (hk : k < hist.length), k < n →
    cells (Fin.ofNat n (hist.length - 1 - k)) = hist[k]

section Ring

variable [NeZero n]

/-- Nothing written yet: any cells represent the empty history. -/
theorem represents_nil (cells : Fin n → α) : Represents cells 0 [] where
  next_eq := by rw [List.length_nil, Nat.zero_mod]; rfl
  cell := fun k hk => absurd hk (Nat.not_lt_zero k)

/-- Two entries less than `n` apart wrap to different cells. -/
theorem ofNat_ne_of_lt {a b : ℕ} (hab : a < b) (hlt : b - a < n) :
    Fin.ofNat n a ≠ Fin.ofNat n b := by
  intro h
  have hmod : a % n = b % n := congrArg Fin.val h
  have hdvd : n ∣ b - a := (Nat.modEq_iff_dvd' hab.le).mp hmod
  exact absurd (Nat.le_of_dvd (by omega) hdvd) (by omega)

/-- **One write**: putting an entry at the write index and advancing it
represents the history with that entry in front. -/
theorem Represents.push {cells : Fin n → α} {next : Fin n} {hist : List α}
    (h : Represents cells next hist) (a : α) :
    Represents (Function.update cells next a) (next + 1) (a :: hist) where
  next_eq := by
    rw [Fin.val_add, h.next_eq, List.length_cons, Fin.val_one', ← Nat.add_mod]
  cell := by
    have hnext : next = Fin.ofNat n hist.length := Fin.ext h.next_eq
    intro k hk hkn
    cases k with
    | zero =>
      rw [List.length_cons, Nat.add_sub_cancel, Nat.sub_zero, hnext,
        Function.update_self, List.getElem_cons_zero]
    | succ k =>
      rw [List.length_cons] at hk
      have hne : Fin.ofNat n (hist.length - 1 - k) ≠ next := by
        rw [hnext]
        exact ofNat_ne_of_lt (by omega) (by omega)
      rw [List.length_cons,
        show hist.length + 1 - 1 - (k + 1) = hist.length - 1 - k from by omega,
        Function.update_of_ne hne, List.getElem_cons_succ]
      exact h.cell k (by omega) (by omega)

/-- A cell a scan looks at holds an entry of the window. -/
theorem Represents.cell_mem_window {cells : Fin n → α} {next : Fin n}
    {hist : List α} (h : Represents cells next hist) {i : Fin n}
    (hi : i.val < min hist.length n) : cells i ∈ hist.take n := by
  have hn : 0 < n := Nat.pos_of_ne_zero (NeZero.ne n)
  obtain ⟨k, hk, hkn, hki⟩ : ∃ k, k < hist.length ∧ k < n
      ∧ (hist.length - 1 - k) % n = i.val := by
    refine ⟨(hist.length - 1 - i.val) % n, ?_, Nat.mod_lt _ hn, ?_⟩
    · exact lt_of_le_of_lt (Nat.mod_le _ _) (by omega)
    · -- what is left of the length is `i` and a whole number of turns
      have hdiv := Nat.div_add_mod (hist.length - 1 - i.val) n
      have hsplit : hist.length - 1 - (hist.length - 1 - i.val) % n
          = i.val + n * ((hist.length - 1 - i.val) / n) := by omega
      rw [hsplit, Nat.add_mul_mod_self_left, Nat.mod_eq_of_lt i.isLt]
  have hcell := h.cell k hk hkn
  rw [show Fin.ofNat n (hist.length - 1 - k) = i from Fin.ext hki] at hcell
  rw [hcell]
  exact List.mem_take_iff_getElem.mpr ⟨k, by omega, rfl⟩

/-- **The scan reads the window**: the first `min len n` cells hold exactly
the last `n` entries of the history. -/
theorem Represents.mem_window {cells : Fin n → α} {next : Fin n}
    {hist : List α} (h : Represents cells next hist) (a : α) :
    (∃ i : Fin n, i.val < min hist.length n ∧ cells i = a) ↔ a ∈ hist.take n := by
  constructor
  · rintro ⟨i, hi, rfl⟩
    exact h.cell_mem_window hi
  · intro ha
    obtain ⟨k, hk, rfl⟩ := List.mem_take_iff_getElem.mp ha
    have hn : 0 < n := Nat.pos_of_ne_zero (NeZero.ne n)
    refine ⟨Fin.ofNat n (hist.length - 1 - k), ?_, h.cell k (by omega) (by omega)⟩
    show (hist.length - 1 - k) % n < min hist.length n
    exact lt_min (lt_of_le_of_lt (Nat.mod_le _ _) (by omega)) (Nat.mod_lt _ hn)

/-- **The cells below the write index** hold the latest entries, as many as
there are of them. -/
theorem Represents.mem_below {cells : Fin n → α} {next : Fin n} {hist : List α}
    (h : Represents cells next hist) (a : α) :
    (∃ i : Fin n, i.val < next.val ∧ cells i = a) ↔ a ∈ hist.take next.val := by
  have hnext := h.next_eq
  have hdiv := Nat.div_add_mod hist.length n
  rw [← hnext] at hdiv
  -- the write index has gone round the ring a whole number of times
  have hcell : ∀ i : Fin n, i.val < next.val →
      ∃ hk : next.val - 1 - i.val < hist.length, cells i = hist[next.val - 1 - i.val] := by
    intro i hi
    have hk : next.val - 1 - i.val < hist.length := by omega
    have hsplit : hist.length - 1 - (next.val - 1 - i.val)
        = i.val + n * (hist.length / n) := by omega
    have hval : Fin.ofNat n (hist.length - 1 - (next.val - 1 - i.val)) = i := by
      refine Fin.ext ?_
      show (hist.length - 1 - (next.val - 1 - i.val)) % n = i.val
      rw [hsplit, Nat.add_mul_mod_self_left, Nat.mod_eq_of_lt i.isLt]
    have hcell := h.cell (next.val - 1 - i.val) hk (by omega)
    rw [hval] at hcell
    exact ⟨hk, hcell⟩
  constructor
  · rintro ⟨i, hi, rfl⟩
    obtain ⟨hk, hi'⟩ := hcell i hi
    rw [hi']
    exact List.mem_take_iff_getElem.mpr ⟨_, by omega, rfl⟩
  · intro ha
    obtain ⟨k, hk, rfl⟩ := List.mem_take_iff_getElem.mp ha
    have hi : next.val - 1 - k < n := by omega
    obtain ⟨_, hcell'⟩ := hcell ⟨next.val - 1 - k, hi⟩ (show next.val - 1 - k < next.val by omega)
    refine ⟨⟨next.val - 1 - k, hi⟩, show next.val - 1 - k < next.val by omega, ?_⟩
    rw [hcell']
    have hback : next.val - 1 - (next.val - 1 - k) = k := by omega
    simp only [hback]

end Ring

/-! ## Spaced histories -/

/-- **Every entry was fresh when it was written**: absent from the window of
the `n` entries before it. -/
def Spaced (n : ℕ) : List α → Prop
  | [] => True
  | a :: hist => a ∉ hist.take n ∧ Spaced n hist

/-- The older part of a spaced history is spaced. -/
theorem Spaced.of_append {pre post : List α} (h : Spaced n (pre ++ post)) :
    Spaced n post := by
  induction pre with
  | nil => exact h
  | cons a pre ih => exact ih h.2

/-- The latest `n + 1` entries of a spaced history are distinct. -/
theorem Spaced.nodup_take {hist : List α} (h : Spaced n hist) :
    (hist.take (n + 1)).Nodup := by
  induction hist with
  | nil => exact List.nodup_nil
  | cons a hist ih =>
    rw [List.take_succ_cons, List.nodup_cons]
    exact ⟨h.1, (ih h.2).sublist (List.take_sublist_take_left (Nat.le_succ n))⟩

/-- **No repetition within `n + 1` consecutive entries.** -/
theorem Spaced.nodup_of_infix {hist w : List α} (h : Spaced n hist)
    (hw : w <:+: hist) (hlen : w.length ≤ n + 1) : w.Nodup := by
  obtain ⟨pre, post, rfl⟩ := hw
  rw [List.append_assoc] at h
  have htake := h.of_append.nodup_take
  refine htake.sublist ?_
  rw [List.take_append, List.take_of_length_le hlen]
  exact List.sublist_append_left _ _

/-- An entry that is not among the first `n` of `mid ++ a :: post` has `n`
entries before it. -/
theorem Spaced.gap_of_notMem {mid post : List α} {a : α}
    (h : Spaced n (a :: (mid ++ a :: post))) : n ≤ mid.length := by
  by_contra hlt
  refine h.1 (List.mem_take_iff_getElem.mpr ⟨mid.length, ?_, ?_⟩)
  · simp only [List.length_append, List.length_cons]
    omega
  · simp

/-- **Between two occurrences of an entry lie `n` others.** -/
theorem Spaced.gap [DecidableEq α] {pre mid post : List α} {a : α}
    (h : Spaced n (pre ++ a :: (mid ++ a :: post))) :
    n ≤ (mid.filter (fun b => b ≠ a)).length := by
  have hfst := h.of_append
  -- the first occurrence inside `mid`, if there is one, is already `n` away
  by_cases ha : a ∈ mid
  · obtain ⟨mid₁, mid₂, rfl, hnot⟩ := List.eq_append_cons_of_mem ha
    rw [List.append_assoc, List.cons_append] at hfst
    have hlen := hfst.gap_of_notMem
    have hkeep : mid₁.filter (fun b => b ≠ a) = mid₁ :=
      List.filter_eq_self.mpr (fun b hb => decide_eq_true (ne_of_mem_of_not_mem hb hnot))
    rw [List.filter_append, List.length_append, hkeep]
    omega
  · have hkeep : mid.filter (fun b => b ≠ a) = mid :=
      List.filter_eq_self.mpr (fun b hb => decide_eq_true (ne_of_mem_of_not_mem hb ha))
    rw [hkeep]
    exact hfst.gap_of_notMem

end RingWindow
