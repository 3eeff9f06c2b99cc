import Mathlib.Algebra.BigOperators.Fin
import Mathlib.Data.Fintype.BigOperators
import Mathlib.Data.Set.Finite.Basic

/-!
# Counting paths that leave a root for good

A message that is flooded from a root draws a path through the nodes, one
per copy. If no copy comes back to the root, the step after it has a choice
among all other nodes and so has every step after that. `length_le_of_rooted`
counts the paths with less than `n` steps this way.

Whether a path occurs twice is a question of its own. What is counted along
the way – receptions against transmissions, transmissions against
publications – goes by `countP_le_length_of_injOn`.
-/

namespace RootedPaths

/-! ## Counting by injection -/

/-- **Entries counted by their images**: the entries of a list that satisfy a
condition are no more than those of a list that contains their images, if
they are distinct and so are the images. -/
theorem countP_le_length_of_injOn {α β : Type*} {l : List α} {m : List β} {p : α → Bool}
    (f : α → β) (hl : l.Nodup) (hm : ∀ a ∈ l, p a = true → f a ∈ m)
    (hf : ∀ a b, p a = true → p b = true → a ∈ l → b ∈ l → f a = f b → a = b) :
    l.countP p ≤ m.length := by
  have hnodup : ((l.filter p).map f).Nodup := by
    refine (hl.filter p).map_on (fun a ha b hb heq => ?_)
    obtain ⟨hal, hap⟩ := List.mem_filter.mp ha
    obtain ⟨hbl, hbp⟩ := List.mem_filter.mp hb
    exact hf a b hap hbp hal hbl heq
  have hsub : (l.filter p).map f ⊆ m := by
    intro b hb
    obtain ⟨a, ha, rfl⟩ := List.mem_map.mp hb
    obtain ⟨hal, hap⟩ := List.mem_filter.mp ha
    exact hm a hal hap
  calc l.countP p = (l.filter p).length := List.countP_eq_length_filter
    _ = ((l.filter p).map f).length := (List.length_map _).symm
    _ ≤ m.length := hnodup.length_le_of_subset hsub

/-! ## Paths from a root -/

variable {ι : Type*}

/-- **A path that starts at the root and does not return to it.** -/
def Rooted (root : ι) (path : List ι) : Prop := ∃ rest, path = root :: rest ∧ root ∉ rest

/-- The root alone is a path. -/
theorem rooted_singleton (root : ι) : Rooted root [root] := ⟨[], rfl, List.not_mem_nil⟩

/-- One step to another node. -/
theorem Rooted.concat {root : ι} {path : List ι} (h : Rooted root path) {i : ι}
    (hi : root ≠ i) : Rooted root (path ++ [i]) := by
  obtain ⟨rest, rfl, hrest⟩ := h
  refine ⟨rest ++ [i], rfl, fun hmem => ?_⟩
  rcases List.mem_append.mp hmem with hmem | hmem
  · exact hrest hmem
  · exact hi (List.mem_singleton.mp hmem)

/-- A path has its root on it. -/
theorem Rooted.length_pos {root : ι} {path : List ι} (h : Rooted root path) :
    0 < path.length := by
  obtain ⟨rest, rfl, -⟩ := h
  exact Nat.succ_pos _

variable [Fintype ι] [DecidableEq ι]

/-- The path with the given steps after the root. -/
def pathOf (root : ι) {n : ℕ} (steps : Σ k : Fin n, List.Vector {i // i ≠ root} k) : List ι :=
  root :: steps.2.toList.map Subtype.val

omit [Fintype ι] [DecidableEq ι] in
/-- Every rooted path is given by its steps. -/
theorem Rooted.exists_pathOf {root : ι} {path : List ι} (h : Rooted root path) {n : ℕ}
    (hn : path.length ≤ n) :
    ∃ steps : Σ k : Fin n, List.Vector {i // i ≠ root} k, pathOf root steps = path := by
  obtain ⟨rest, rfl, hrest⟩ := h
  have hne : ∀ i ∈ rest, i ≠ root := fun i hi heq => hrest (heq ▸ hi)
  refine ⟨⟨⟨rest.length, hn⟩, rest.attachWith _ hne, List.length_attachWith⟩, ?_⟩
  exact congrArg (root :: ·) (List.attachWith_map_subtype_val hne)

/-- **The number of rooted paths**: there are no more than `(N - 1)^k` with `k`
steps after the root, among `N` nodes. -/
theorem length_le_of_rooted (root : ι) {paths : List (List ι)} (hpaths : paths.Nodup) {n : ℕ}
    (h : ∀ path ∈ paths, Rooted root path ∧ path.length ≤ n) :
    paths.length ≤ ∑ k ∈ Finset.range n, (Fintype.card ι - 1) ^ k := by
  have hsub : paths.toFinset ⊆ Finset.univ.image (pathOf root (n := n)) := by
    intro path hpath
    obtain ⟨hrooted, hlen⟩ := h path (List.mem_toFinset.mp hpath)
    obtain ⟨steps, hsteps⟩ := hrooted.exists_pathOf hlen
    exact Finset.mem_image.mpr ⟨steps, Finset.mem_univ _, hsteps⟩
  have hothers : Fintype.card {i // i ≠ root} = Fintype.card ι - 1 := Set.card_ne_eq root
  calc paths.length = paths.toFinset.card := (List.toFinset_card_of_nodup hpaths).symm
    _ ≤ (Finset.univ.image (pathOf root (n := n))).card := Finset.card_le_card hsub
    _ ≤ Fintype.card (Σ k : Fin n, List.Vector {i // i ≠ root} k) := Finset.card_image_le
    _ = ∑ k : Fin n, (Fintype.card ι - 1) ^ (k : ℕ) := by
      rw [Fintype.card_sigma]
      exact Finset.sum_congr rfl (fun k _ => by rw [card_vector, hothers])
    _ = ∑ k ∈ Finset.range n, (Fintype.card ι - 1) ^ k := (Finset.sum_range _).symm

end RootedPaths
