import RemitCollateral.Host.Refinement

/-! # Readers

A client reads a contract in several calls while others go on calling it. What it reads changes its
own notes and nothing else; what it has noted was true when it was read, and need not be any
more. -/

namespace Soroban.Machine

variable {σ ι ρ κ : Type}

/-- `M` with a reader beside it. A reading that fails is not a step. -/
def readBy (M : Machine σ ι) (start : ρ) (read : κ → σ → ρ → Option ρ) :
    Machine (σ × ρ) (ι ⊕ κ) where
  initial s := M.initial ⟨s.clock, s.state.1⟩ ∧ s.state.2 = start
  act clock s input s' :=
    match input with
    | .inl input => M.act clock s.1 input s'.1 ∧ s'.2 = s.2
    | .inr request => s'.1 = s.1 ∧ read request s.1 s.2 = some s'.2

variable {M : Machine σ ι} {start : ρ} {read : κ → σ → ρ → Option ρ}

/-- A reader does not disturb what it reads. -/
theorem readBy_refines : (M.readBy start read).Refines M (fun _ _ => Sum.getLeft?)
    (fun s a => s.1 = a) where
  initial h := ⟨_, h.1, rfl⟩
  act := by
    intro clock s input s' a _ hact hsame
    subst hsame
    cases input with
    | inl input => exact ⟨s'.1, hact.1, rfl⟩
    | inr request => exact ⟨s'.1, hact.1.symm, rfl⟩

/-- So what is read is a state some run reaches. -/
theorem readBy_reachable {s : Timed (σ × ρ)} (h : (M.readBy start read).Reachable s) :
    M.Reachable ⟨s.clock, s.state.1⟩ := by
  obtain ⟨history, hrun⟩ := h
  obtain ⟨history', a, hrun', rfl, -⟩ := readBy_refines.run hrun
  exact hrun'.reachable

/-- **Notes.** What a reader starts with, what every call of others keeps and what every reading
keeps holds of its notes at all times. -/
theorem readBy_invariant {P : Timed σ → ρ → Prop}
    (hstart : ∀ {s : Timed σ}, M.initial s → P s start)
    (hstep : ∀ {s s' : Timed σ} {input : Option ι} {notes : ρ}, M.Reachable s →
      M.Step s input s' → P s notes → P s' notes)
    (hread : ∀ {s : Timed σ} {request : κ} {notes notes' : ρ}, M.Reachable s → P s notes →
      read request s.state notes = some notes' → P s notes')
    {s : Timed (σ × ρ)} (h : (M.readBy start read).Reachable s) :
    P ⟨s.clock, s.state.1⟩ s.state.2 := by
  obtain ⟨history, hrun⟩ := h
  induction hrun with
  | start initial =>
      obtain ⟨hinitial, hnotes⟩ := initial
      rw [hnotes]
      exact hstart hinitial
  | step run step ih =>
      have hreach := readBy_reachable run.reachable
      cases step with
      | tick later => exact hstep hreach (.tick later) ih
      | @call clock s s' input acts =>
          cases input with
          | inl input =>
              obtain ⟨hact, hnotes⟩ := acts
              show P ⟨clock, s'.1⟩ s'.2
              rw [hnotes]
              exact hstep hreach (.call hact) ih
          | inr request =>
              obtain ⟨hsame, hreads⟩ := acts
              show P ⟨clock, s'.1⟩ s'.2
              rw [hsame]
              exact hread hreach ih hreads

/-- Act on a machine with a reader beside it. -/
def nextRead (next : Clock → σ → ι → Option σ) (read : κ → σ → ρ → Option ρ) (clock : Clock)
    (s : σ × ρ) (input : ι ⊕ κ) : Option (σ × ρ) :=
  input.elim (fun input => (next clock s.1 input).map fun state => (state, s.2))
    fun request => (read request s.1 s.2).map fun notes => (s.1, notes)

theorem nextRead_acts {next : Clock → σ → ι → Option σ}
    (hnext : ∀ clock s input s', next clock s input = some s' → M.act clock s input s')
    {clock : Clock} {s s' : σ × ρ} {input : ι ⊕ κ}
    (h : nextRead next read clock s input = some s') :
    (M.readBy start read).act clock s input s' := by
  cases input with
  | inl input =>
      obtain ⟨state, hstate, rfl⟩ := Option.map_eq_some_iff.mp h
      exact ⟨hnext _ _ _ _ hstate, rfl⟩
  | inr request =>
      obtain ⟨notes, hnotes, rfl⟩ := Option.map_eq_some_iff.mp h
      exact ⟨rfl, hnotes⟩

end Soroban.Machine
