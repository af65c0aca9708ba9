import RemitCollateral.Host.Machine

/-! # Refinement between machines

One machine refines another when each of its calls stands for one call of the other, or for none,
and a relation between their states says that the two agree. What a run of the first does is then
what a run of the second does, call by call. -/

namespace Soroban.Machine

variable {σ ι τ κ : Type}

/-- What a machine may do about a call: make it, or do nothing when there is none to make. -/
def Follows (A : Machine τ κ) (clock : Clock) (a : τ) : Option κ → τ → Prop
  | none, a' => a = a'
  | some input, a' => A.act clock a input a'

/-- The call of `A` that a transition stands for. -/
def standsFor (means : Clock → σ → ι → Option κ) (t : Transition σ ι) : Option κ :=
  t.call.bind (means t.pre.clock t.pre.state)

/-- `M` refines `A` along `R`: it starts where `A` may start, and when it acts `A` may follow with
what the call means. -/
structure Refines (M : Machine σ ι) (A : Machine τ κ) (means : Clock → σ → ι → Option κ)
    (R : σ → τ → Prop) : Prop where
  initial : ∀ {s : Timed σ}, M.initial s → ∃ a, A.initial ⟨s.clock, a⟩ ∧ R s.state a
  act : ∀ {clock : Clock} {s : σ} {input : ι} {s' : σ} {a : τ}, M.Reachable ⟨clock, s⟩ →
    M.act clock s input s' → R s a → ∃ a', A.Follows clock a (means clock s input) a' ∧ R s' a'

variable {M : Machine σ ι} {A : Machine τ κ} {means : Clock → σ → ι → Option κ} {R : σ → τ → Prop}

/-- A run of the refined machine goes on by what a call means. -/
theorem Run.follow {history : List (Transition τ κ)} {clock : Clock} {a a' : τ} {input : Option κ}
    (h : A.Run history ⟨clock, a⟩) (hfollows : A.Follows clock a input a') :
    ∃ history', A.Run history' ⟨clock, a'⟩ ∧
      history'.filterMap Transition.call = input.toList ++ history.filterMap Transition.call := by
  cases input with
  | none =>
      obtain rfl : a = a' := hfollows
      exact ⟨history, h, rfl⟩
  | some input =>
      have hstep : A.Step ⟨clock, a⟩ (some input) ⟨clock, a'⟩ := .call hfollows
      exact ⟨_, .step h hstep, rfl⟩

/-- **Simulation.** Every run is matched by a run of the machine it refines: it ends at the same
time in a state that agrees, and its calls are those the transitions stand for, in their order. -/
theorem Refines.run (h : M.Refines A means R) {history : List (Transition σ ι)} {s : Timed σ}
    (hrun : M.Run history s) : ∃ history' a, A.Run history' ⟨s.clock, a⟩ ∧ R s.state a ∧
      history'.filterMap Transition.call = history.filterMap (standsFor means) := by
  induction hrun with
  | start initial =>
      obtain ⟨a, hinitial, hagrees⟩ := h.initial initial
      exact ⟨[], a, .start hinitial, hagrees, rfl⟩
  | @step history s s' input run step ih =>
      obtain ⟨history', a, hrun', hagrees, hcalls⟩ := ih
      cases step with
      | @tick clock clock' state later =>
          -- the other clock advances too
          have htick : A.Step ⟨clock, a⟩ none ⟨clock', a⟩ := .tick later
          exact ⟨_, a, .step hrun' htick, hagrees, hcalls⟩
      | @call clock state state' input acts =>
          obtain ⟨a', hfollows, hagrees'⟩ := h.act run.reachable acts hagrees
          obtain ⟨history'', hrun'', hcalls'⟩ := hrun'.follow hfollows
          refine ⟨history'', a', hrun'', hagrees', ?_⟩
          rw [hcalls', hcalls, List.filterMap_cons]
          cases hmeans : means clock state input with
          | none =>
              rw [show standsFor means ⟨⟨clock, state⟩, some input, ⟨clock, state'⟩⟩ = none
                from hmeans]
              rfl
          | some call =>
              rw [show standsFor means ⟨⟨clock, state⟩, some input, ⟨clock, state'⟩⟩ = some call
                from hmeans]
              rfl

end Soroban.Machine
