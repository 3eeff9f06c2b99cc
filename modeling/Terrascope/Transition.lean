import Mathlib.Data.List.Basic
import Mathlib.Data.Option.Basic

/-!
# Runs of a labelled step function

A concurrent system is given here by a **partial step function**: a label
says which party moves and with what data, `none` says the move is not
enabled. One label list is one interleaving, so a statement about every
list of labels is a statement about every order of steps.

Two readings of a run come up again and again. `AllSteps P` says that every
step taken meets the condition `P` on the state it is taken in, and
`AllStates Q` that every state visited, the first and the last included,
satisfies `Q`. `allStates_iff_allSteps` is the rule that turns a fact about
one step into the equivalence of the two over a whole run.
-/

namespace Transition

variable {σ α ε : Type*}

/-- **A run**: the state after a list of labels, `none` if one of them is
not enabled where it comes. -/
def run (step : σ → α → Option σ) : σ → List α → Option σ
  | s, [] => some s
  | s, a :: as => (step s a).bind (fun s' => run step s' as)

/-- **A condition on every step of a run**, read in the state the step is
taken in. -/
def AllSteps (step : σ → α → Option σ) (P : σ → α → Prop) : σ → List α → Prop
  | _, [] => True
  | s, a :: as => P s a ∧ ∀ s', step s a = some s' → AllSteps step P s' as

/-- **A condition on every state of a run.** -/
def AllStates (step : σ → α → Option σ) (Q : σ → Prop) : σ → List α → Prop
  | s, [] => Q s
  | s, a :: as => Q s ∧ ∀ s', step s a = some s' → AllStates step Q s' as

/-- **The events of a run**: what each step emits, oldest first. -/
def trace (step : σ → α → Option σ) (emit : σ → α → List ε) : σ → List α → List ε
  | _, [] => []
  | s, a :: as =>
    emit s a ++ ((step s a).elim [] (fun s' => trace step emit s' as))

variable {step : σ → α → Option σ}

@[simp] theorem run_nil (s : σ) : run step s [] = some s := rfl

/-- The first step of a run, taken apart. -/
theorem run_cons_eq_some {s t : σ} {a : α} {as : List α} :
    run step s (a :: as) = some t
      ↔ ∃ s', step s a = some s' ∧ run step s' as = some t :=
  Option.bind_eq_some_iff

/-- One run after another. -/
theorem run_append_eq_some {s u : σ} {as bs : List α} :
    run step s (as ++ bs) = some u
      ↔ ∃ t, run step s as = some t ∧ run step t bs = some u := by
  induction as generalizing s with
  | nil => exact ⟨fun h => ⟨s, rfl, h⟩, fun ⟨t, ht, h⟩ => by cases ht; exact h⟩
  | cons a as ih =>
    rw [List.cons_append, run_cons_eq_some]
    constructor
    · rintro ⟨s', hs', h⟩
      obtain ⟨t, ht, hu⟩ := ih.mp h
      exact ⟨t, run_cons_eq_some.mpr ⟨s', hs', ht⟩, hu⟩
    · rintro ⟨t, ht, hu⟩
      obtain ⟨s', hs', ht⟩ := run_cons_eq_some.mp ht
      exact ⟨s', hs', ih.mpr ⟨t, ht, hu⟩⟩

/-- **An invariant of every step is an invariant of every run.** -/
theorem run_invariant {I : σ → Prop}
    (hstep : ∀ s a s', I s → step s a = some s' → I s')
    {s t : σ} {as : List α} (hs : I s) (hrun : run step s as = some t) : I t := by
  induction as generalizing s with
  | nil =>
    cases hrun
    exact hs
  | cons a as ih =>
    obtain ⟨s', hs', ht⟩ := run_cons_eq_some.mp hrun
    exact ih (hstep s a s' hs hs') ht

/-- A condition on the steps of a run, step by step. -/
theorem AllSteps.cons {P : σ → α → Prop} {s s' : σ} {a : α} {as : List α} (hP : P s a)
    (hs : step s a = some s') (h : AllSteps step P s' as) : AllSteps step P s (a :: as) :=
  ⟨hP, fun _ hs' => Option.some.inj (hs.symm.trans hs') ▸ h⟩

/-- A condition on every step holds of the step that follows a part of the
run. -/
theorem AllSteps.next {P : σ → α → Prop} {s t : σ} {as bs : List α} {a : α}
    (h : AllSteps step P s (as ++ a :: bs)) (hrun : run step s as = some t) : P t a := by
  induction as generalizing s with
  | nil =>
    cases hrun
    exact h.1
  | cons b as ih =>
    obtain ⟨s', hs', ht⟩ := run_cons_eq_some.mp hrun
    exact ih (h.2 s' hs') ht

/-- Two conditions on every step. -/
theorem AllSteps.and {P Q : σ → α → Prop} {s : σ} {as : List α} (hP : AllSteps step P s as)
    (hQ : AllSteps step Q s as) : AllSteps step (fun s a => P s a ∧ Q s a) s as := by
  induction as generalizing s with
  | nil => trivial
  | cons a as ih => exact ⟨⟨hP.1, hQ.1⟩, fun s' hs' => ih (hP.2 s' hs') (hQ.2 s' hs')⟩

/-- A condition on every step under an assumption. -/
theorem allSteps_of_imp {p : Prop} {P : σ → α → Prop} {s : σ} {as : List α}
    (h : p → AllSteps step P s as) : AllSteps step (fun s a => p → P s a) s as := by
  induction as generalizing s with
  | nil => trivial
  | cons a as ih => exact ⟨fun hp => (h hp).1, fun s' hs' => ih (fun hp => (h hp).2 s' hs')⟩

/-- **A conditional invariant**: one that a step keeps when the step meets
`P` holds at the end of a run all of whose steps meet `P`. -/
theorem run_invariant_of_allSteps {I : σ → Prop} {P : σ → α → Prop}
    (hstep : ∀ s a s', I s → P s a → step s a = some s' → I s')
    {s t : σ} {as : List α} (hs : I s) (hP : AllSteps step P s as)
    (hrun : run step s as = some t) : I t := by
  induction as generalizing s with
  | nil =>
    cases hrun
    exact hs
  | cons a as ih =>
    obtain ⟨s', hs', ht⟩ := run_cons_eq_some.mp hrun
    exact ih (hstep s a s' hs hP.1 hs') (hP.2 s' hs') ht

/-- **A conditional history**: a relation between the state and the events so
far that every step meeting `P` keeps holds at the end of every run
of such steps. -/
theorem run_history_of_allSteps {emit : σ → α → List ε} {J : σ → List ε → Prop}
    {P : σ → α → Prop}
    (hstep : ∀ s es a s', J s es → P s a → step s a = some s' → J s' (es ++ emit s a))
    {s t : σ} {es : List ε} {as : List α} (hs : J s es) (hP : AllSteps step P s as)
    (hrun : run step s as = some t) : J t (es ++ trace step emit s as) := by
  induction as generalizing s es with
  | nil =>
    cases hrun
    rw [trace, List.append_nil]
    exact hs
  | cons a as ih =>
    obtain ⟨s', hs', ht⟩ := run_cons_eq_some.mp hrun
    have h := ih (hstep s es a s' hs hP.1 hs') (hP.2 s' hs') ht
    rw [trace, hs', Option.elim_some, ← List.append_assoc]
    exact h

/-- **Conditions that an invariant makes the same** are met by the same
runs. -/
theorem allSteps_iff_of_invariant {I : σ → Prop} {P Q : σ → α → Prop}
    (hI : ∀ s a s', I s → step s a = some s' → I s') (hPQ : ∀ s a, I s → (P s a ↔ Q s a))
    {s : σ} (as : List α) (hs : I s) : AllSteps step P s as ↔ AllSteps step Q s as := by
  induction as generalizing s with
  | nil => exact Iff.rfl
  | cons a as ih =>
    exact Iff.and (hPQ s a hs) (forall_congr' fun s' => forall_congr' fun hs' =>
      ih (hI s a s' hs hs'))

/-- A condition on the labels alone. -/
theorem allSteps_of_forall {P : α → Prop} (s : σ) {as : List α} (h : ∀ a ∈ as, P a) :
    AllSteps step (fun _ => P) s as := by
  induction as generalizing s with
  | nil => trivial
  | cons a as ih =>
    exact ⟨h a List.mem_cons_self, fun s' _ => ih s' (fun b hb => h b (List.mem_cons_of_mem a hb))⟩

/-- **State and history together**: a relation that every step keeps holds at
the end of every run. -/
theorem run_history {emit : σ → α → List ε} {J : σ → List ε → Prop}
    (hstep : ∀ s es a s', J s es → step s a = some s' → J s' (es ++ emit s a))
    {s t : σ} {es : List ε} {as : List α} (hs : J s es)
    (hrun : run step s as = some t) : J t (es ++ trace step emit s as) :=
  run_history_of_allSteps (fun s es a s' h _ => hstep s es a s' h) hs
    (allSteps_of_forall (P := fun _ => True) s (fun _ _ => trivial)) hrun

/-- **Labels under another name**: where every step under the new labels is
the step under the old ones, so are the runs. -/
theorem run_map {β : Type*} {step' : σ → β → Option σ} {f : β → α} {as : List β}
    (h : ∀ b ∈ as, ∀ s, step s (f b) = step' s b) (s : σ) :
    run step s (as.map f) = run step' s as := by
  induction as generalizing s with
  | nil => rfl
  | cons b as ih =>
    rw [List.map_cons, run, run, h b List.mem_cons_self s]
    exact congrArg _ (funext (fun s' => ih (fun b hb => h b (List.mem_cons_of_mem _ hb)) s'))

/-- … and so are their events. -/
theorem trace_map {β : Type*} {step' : σ → β → Option σ} {f : β → α} {as : List β}
    {emit : σ → α → List ε} {emit' : σ → β → List ε}
    (h : ∀ b ∈ as, ∀ s, step s (f b) = step' s b)
    (hemit : ∀ b ∈ as, ∀ s, emit s (f b) = emit' s b) (s : σ) :
    trace step emit s (as.map f) = trace step' emit' s as := by
  induction as generalizing s with
  | nil => rfl
  | cons b as ih =>
    rw [List.map_cons, trace, trace, h b List.mem_cons_self s, hemit b List.mem_cons_self s]
    refine congrArg _ (congrArg _ (funext (fun s' => ih ?_ ?_ s')))
    · exact fun b hb => h b (List.mem_cons_of_mem _ hb)
    · exact fun b hb => hemit b (List.mem_cons_of_mem _ hb)

/-- The labels of a run, as its events. -/
theorem trace_label {s t : σ} {as : List α} (hrun : run step s as = some t) :
    trace step (fun _ a => [a]) s as = as := by
  induction as generalizing s with
  | nil => rfl
  | cons a as ih =>
    obtain ⟨s', hs', ht⟩ := run_cons_eq_some.mp hrun
    rw [trace, hs', Option.elim_some, ih ht]
    rfl

/-- **A run to a state with given events.** -/
def RunsTo (step : σ → α → Option σ) (emit : σ → α → List ε) (s : σ) (as : List α) (t : σ)
    (es : List ε) : Prop :=
  run step s as = some t ∧ trace step emit s as = es

theorem RunsTo.nil {emit : σ → α → List ε} (s : σ) : RunsTo step emit s [] s [] := ⟨rfl, rfl⟩

/-- A step before a run. -/
theorem RunsTo.cons {emit : σ → α → List ε} {s s' t : σ} {a : α} {as : List α} {es : List ε}
    (hs : step s a = some s') (h : RunsTo step emit s' as t es) :
    RunsTo step emit s (a :: as) t (emit s a ++ es) := by
  refine ⟨run_cons_eq_some.mpr ⟨s', hs, h.1⟩, ?_⟩
  rw [trace, hs, Option.elim_some, h.2]

/-- **A run after a run.** -/
theorem RunsTo.append {emit : σ → α → List ε} {s t u : σ} {as bs : List α} {es es' : List ε}
    (h : RunsTo step emit s as t es) (h' : RunsTo step emit t bs u es') :
    RunsTo step emit s (as ++ bs) u (es ++ es') := by
  induction as generalizing s es with
  | nil =>
    obtain ⟨hrun, rfl⟩ := h
    cases hrun
    exact h'
  | cons a as ih =>
    obtain ⟨hrun, rfl⟩ := h
    obtain ⟨s', hs', ht⟩ := run_cons_eq_some.mp hrun
    rw [List.cons_append, trace, hs', Option.elim_some, List.append_assoc]
    exact (ih ⟨ht, rfl⟩).cons hs'

/-- **A step that keeps the log**: what it emits is put behind the events so
far. -/
def logged (step : σ → α → Option σ) (emit : σ → α → List ε) :
    σ × List ε → α → Option (σ × List ε)
  | (s, es), a => (step s a).map (fun s' => (s', es ++ emit s a))

/-- A step with the log is a step. -/
theorem logged_eq_some {emit : σ → α → List ε} {s : σ} {es : List ε} {a : α}
    {t : σ × List ε} :
    logged step emit (s, es) a = some t ↔ ∃ s', step s a = some s' ∧ (s', es ++ emit s a) = t :=
  Option.map_eq_some_iff

/-- What every step of a run keeps holds in every state of it. -/
theorem allStates_of_invariant {I : σ → Prop} {s : σ} {as : List α}
    (hstep : ∀ a ∈ as, ∀ s s', I s → step s a = some s' → I s') (hs : I s) :
    AllStates step I s as := by
  induction as generalizing s with
  | nil => exact hs
  | cons a as ih =>
    exact ⟨hs, fun s' hs' => ih (fun b hb => hstep b (List.mem_cons_of_mem a hb))
      (hstep a List.mem_cons_self s s' hs hs')⟩

/-- A weaker condition on every state. -/
theorem AllStates.mono {Q R : σ → Prop} {s : σ} {as : List α} (h : AllStates step Q s as)
    (hQR : ∀ s, Q s → R s) : AllStates step R s as := by
  induction as generalizing s with
  | nil => exact hQR s h
  | cons a as ih => exact ⟨hQR s h.1, fun s' hs' => ih (h.2 s' hs')⟩

/-- A condition on every state holds where each step is taken. -/
theorem AllStates.allSteps {Q : σ → Prop} {s : σ} {as : List α} (h : AllStates step Q s as) :
    AllSteps step (fun s _ => Q s) s as := by
  induction as generalizing s with
  | nil => trivial
  | cons a as ih => exact ⟨h.1, fun s' hs' => ih (h.2 s' hs')⟩

/-- … and in the first. -/
theorem AllStates.first {Q : σ → Prop} {s : σ} {as : List α} (h : AllStates step Q s as) : Q s := by
  cases as with
  | nil => exact h
  | cons a as => exact h.1

/-- A condition on every state holds of the last one. -/
theorem AllStates.last {Q : σ → Prop} {s t : σ} {as : List α}
    (h : AllStates step Q s as) (hrun : run step s as = some t) : Q t := by
  induction as generalizing s with
  | nil =>
    cases hrun
    exact h
  | cons a as ih =>
    obtain ⟨s', hs', ht⟩ := run_cons_eq_some.mp hrun
    exact ih (h.2 s' hs') ht

/-- **The steps decide the states.** With an invariant `I` at hand that
holds as long as `Q` does, if a step that meets `P` keeps `Q` and one that
does not breaks `Q` at once, then `Q` holds in every state of a run exactly
when every step of it meets `P`. -/
theorem allStates_iff_allSteps {I Q : σ → Prop} {P : σ → α → Prop}
    (hI : ∀ s a s', I s → Q s → step s a = some s' → I s')
    (hkeep : ∀ s a s', I s → Q s → P s a → step s a = some s' → Q s')
    (hbreak : ∀ s a, I s → Q s → ¬ P s a → ∃ s', step s a = some s' ∧ ¬ Q s')
    {s : σ} (as : List α) (hs : I s) (hQ : Q s) :
    AllStates step Q s as ↔ AllSteps step P s as := by
  induction as generalizing s with
  | nil => exact iff_of_true hQ trivial
  | cons a as ih =>
    constructor
    · rintro ⟨-, hnext⟩
      have hP : P s a := by
        by_contra hP
        obtain ⟨s', hs', hbad⟩ := hbreak s a hs hQ hP
        have hall := hnext s' hs'
        cases as with
        | nil => exact hbad hall
        | cons b bs => exact hbad hall.1
      refine ⟨hP, fun s' hs' => ?_⟩
      exact (ih (hI s a s' hs hQ hs') (hkeep s a s' hs hQ hP hs')).mp (hnext s' hs')
    · rintro ⟨hP, hnext⟩
      refine ⟨hQ, fun s' hs' => ?_⟩
      exact (ih (hI s a s' hs hQ hs') (hkeep s a s' hs hQ hP hs')).mpr (hnext s' hs')

end Transition
