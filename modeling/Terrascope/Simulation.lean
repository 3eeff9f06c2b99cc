import Mathlib.Data.List.Basic

/-!
# Simulation of calls

A module that is called, returns something and keeps a state is given by a
function from a state and a call to the next state and the return value. Its
specification is a relation on states of its own, which may leave a choice
open. `exec_simulates` is the rule that turns a simulation of each call into
one of every sequence of calls, with the same return values.

The relation between the two states may depend on the calls still to come, so
that what is assumed of them – a clock that does not go back, say – need not
be put into either state.
-/

namespace Simulation

variable {σ τ α β : Type*}

/-- **A sequence of calls**: the last state, and what each call returned. -/
def exec (call : σ → α → σ × β) : σ → List α → σ × List β
  | s, [] => (s, [])
  | s, a :: as =>
    let (s', b) := call s a
    let (t, bs) := exec call s' as
    (t, b :: bs)

theorem exec_cons (call : σ → α → σ × β) (s : σ) (a : α) (as : List α) :
    exec call s (a :: as)
      = ((exec call (call s a).1 as).1, (call s a).2 :: (exec call (call s a).1 as).2) :=
  rfl

/-- **A sequence of calls goes on where the one before it ended.** -/
theorem exec_append (call : σ → α → σ × β) (s : σ) (as bs : List α) :
    exec call s (as ++ bs)
      = ((exec call (exec call s as).1 bs).1,
        (exec call s as).2 ++ (exec call (exec call s as).1 bs).2) := by
  induction as generalizing s with
  | nil => rfl
  | cons a as ih => rw [List.cons_append, exec_cons, exec_cons, ih, List.cons_append]

/-- **The sequences of calls a specification admits**, with what they
return. -/
inductive Admits (spec : τ → α → τ → β → Prop) : τ → List α → τ → List β → Prop where
  | nil {t} : Admits spec t [] t []
  | cons {t a t' b as u bs} (hcall : spec t a t' b) (hrest : Admits spec t' as u bs) :
      Admits spec t (a :: as) u (b :: bs)

/-- A sequence of calls, taken apart. -/
theorem Admits.of_append {spec : τ → α → τ → β → Prop} {t u : τ} {as bs : List α} {rs : List β}
    (h : Admits spec t (as ++ bs) u rs) :
    ∃ v rs₁ rs₂, rs = rs₁ ++ rs₂ ∧ Admits spec t as v rs₁ ∧ Admits spec v bs u rs₂ := by
  induction as generalizing t rs with
  | nil => exact ⟨t, [], rs, rfl, .nil, h⟩
  | cons a as ih =>
    cases h with
    | cons hcall hrest =>
      obtain ⟨v, rs₁, rs₂, rfl, h₁, h₂⟩ := ih hrest
      exact ⟨v, _ :: rs₁, rs₂, rfl, .cons hcall h₁, h₂⟩

/-- **A simulation of each call is a simulation of every sequence of calls**:
the specification admits what the module returns, and the last states are
related. -/
theorem exec_simulates {call : σ → α → σ × β} {spec : τ → α → τ → β → Prop}
    {Sim : List α → σ → τ → Prop}
    (hcall : ∀ s t a as, Sim (a :: as) s t →
      ∃ t', spec t a t' (call s a).2 ∧ Sim as (call s a).1 t')
    {s : σ} {t : τ} {as : List α} (hs : Sim as s t) :
    ∃ u, Admits spec t as u (exec call s as).2 ∧ Sim [] (exec call s as).1 u := by
  induction as generalizing s t with
  | nil => exact ⟨t, .nil, hs⟩
  | cons a as ih =>
    obtain ⟨t', hspec, hnext⟩ := hcall s t a as hs
    obtain ⟨u, hadmits, hlast⟩ := ih hnext
    exact ⟨u, .cons hspec hadmits, hlast⟩

end Simulation
