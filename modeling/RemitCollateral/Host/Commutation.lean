import Mathlib

/-! # Operations in either order

An operation is described in two parts: a *plan*, which reads off the state what the operation
returns and which change it makes, and the *change*, a relation between the states before and after.
If neither of two operations disturbs what the other plans, and their changes commute, then they can
be done in either order, with the same results. -/

namespace Soroban

variable {σ ρ γ : Type}

/-- An operation that does what its plan says, from every state of an invariant. -/
structure Planned (I : σ → Prop) (Applies : γ → σ → σ → Prop) (run : σ → Option (ρ × σ))
    (Plans : σ → ρ → γ → Prop) : Prop where
  /-- A run that succeeds was planned. -/
  planned : ∀ {s s' value}, I s → run s = some (value, s') → ∃ change, Plans s value change
  /-- A run that was planned succeeds. -/
  succeeds : ∀ {s value change}, I s → Plans s value change → ∃ s', run s = some (value, s')
  /-- A run makes its change. -/
  applies : ∀ {s s' value change}, I s → Plans s value change → run s = some (value, s') →
    Applies change s s' ∧ I s'

/-- What is planned by `Plans` does not disturb what is planned by `Plans'`. -/
def Leaves (I : σ → Prop) (Applies : γ → σ → σ → Prop) (Plans Plans' : σ → ρ → γ → Prop) : Prop :=
  ∀ {s s' value change}, I s → Plans s value change → Applies change s s' →
    ∀ value' change', Plans' s' value' change' ↔ Plans' s value' change'

/-- **Either order.** Two operations that do not disturb each other's plans return the same values
in either order, and make the same two changes. -/
theorem Planned.either_order {I : σ → Prop} {Applies : γ → σ → σ → Prop}
    {run run' : σ → Option (ρ × σ)} {Plans Plans' : σ → ρ → γ → Prop}
    (h : Planned I Applies run Plans) (h' : Planned I Applies run' Plans')
    (hleaves : Leaves I Applies Plans Plans') (hleaves' : Leaves I Applies Plans' Plans)
    {s s₁ s₁₂ : σ} {value value' : ρ} (hs : I s) (hfirst : run s = some (value, s₁))
    (hsecond : run' s₁ = some (value', s₁₂)) :
    ∃ s₂ s₂₁ change change', run' s = some (value', s₂) ∧ run s₂ = some (value, s₂₁) ∧
      (Plans s value change ∧ Plans' s value' change') ∧
      (Applies change s s₁ ∧ Applies change' s₁ s₁₂) ∧
      (Applies change' s s₂ ∧ Applies change s₂ s₂₁) := by
  obtain ⟨change, hplan⟩ := h.planned hs hfirst
  obtain ⟨happlies, hs₁⟩ := h.applies hs hplan hfirst
  obtain ⟨change', hplan₁'⟩ := h'.planned hs₁ hsecond
  obtain ⟨happlies', -⟩ := h'.applies hs₁ hplan₁' hsecond
  -- the second operation had the same plan before the first
  have hplan' : Plans' s value' change' := (hleaves hs hplan happlies value' change').mp hplan₁'
  obtain ⟨s₂, hsecond'⟩ := h'.succeeds hs hplan'
  obtain ⟨hbefore, hs₂⟩ := h'.applies hs hplan' hsecond'
  -- and the first one still has its plan after the second
  have hplan₂ : Plans s₂ value change := (hleaves' hs hplan' hbefore value change).mpr hplan
  obtain ⟨s₂₁, hfirst'⟩ := h.succeeds hs₂ hplan₂
  obtain ⟨hafter, -⟩ := h.applies hs₂ hplan₂ hfirst'
  exact ⟨s₂, s₂₁, change, change', hsecond', hfirst', ⟨hplan, hplan'⟩, ⟨happlies, happlies'⟩,
    hbefore, hafter⟩

end Soroban
