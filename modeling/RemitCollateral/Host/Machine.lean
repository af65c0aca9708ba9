import RemitCollateral.Host.Env

/-! # Runs of a contract under a ledger clock

A `Machine` is a state that calls act on and a ledger clock that never goes back. Between two calls
the clock may stand still or advance by any amount; a call acts at the clock of its ledger. A run
carries its whole history, latest step first, so that a property may speak about the past of a state
as well as about the state. A call that traps is rolled back by the host and is not a step. -/

namespace Soroban

/-- A state together with the ledger clock it is observed at. -/
structure Timed (σ : Type) where
  clock : Clock
  state : σ

/-- The ledger close time a state is observed at. -/
def Timed.now {σ : Type} (s : Timed σ) : ℕ := s.clock.timestamp

/-- One step of a run: the states around it, and the call it made (`none` when only the clock
advanced). -/
structure Transition (σ ι : Type) where
  pre : Timed σ
  call : Option ι
  post : Timed σ

/-- What a run may start from, and what a call may do at a given clock. -/
structure Machine (σ ι : Type) where
  /-- The states a run starts in. -/
  initial : Timed σ → Prop
  /-- `act clock s input s'`: at `clock`, the call `input` takes `s` to `s'`. -/
  act : Clock → σ → ι → σ → Prop

namespace Machine

variable {σ ι : Type} (M : Machine σ ι)

/-- One step: the clock advances, or a call acts at the current clock. -/
inductive Step : Timed σ → Option ι → Timed σ → Prop
  | tick {c c' : Clock} {s : σ} (later : c ≤ c') : Step ⟨c, s⟩ none ⟨c', s⟩
  | call {c : Clock} {s s' : σ} {input : ι} (acts : M.act c s input s') :
      Step ⟨c, s⟩ (some input) ⟨c, s'⟩

/-- Runs with their history, latest transition first. -/
inductive Run : List (Transition σ ι) → Timed σ → Prop
  | start {s : Timed σ} (initial : M.initial s) : Run [] s
  | step {history : List (Transition σ ι)} {s s' : Timed σ} {input : Option ι}
      (run : Run history s) (step : M.Step s input s') : Run (⟨s, input, s'⟩ :: history) s'

/-- The states some run ends in. -/
def Reachable (s : Timed σ) : Prop := ∃ history, M.Run history s

variable {M}

theorem Step.clock_le {s s' : Timed σ} {input : Option ι} (h : M.Step s input s') :
    s.clock ≤ s'.clock := by
  cases h with
  | tick later => exact later
  | call => exact le_refl _

theorem Step.now_le {s s' : Timed σ} {input : Option ι} (h : M.Step s input s') :
    s.now ≤ s'.now := h.clock_le.1

/-- A predicate on clock and state that every initial state meets, that survives the passing of time
and that every call preserves holds in every state a run ends in. -/
theorem Run.invariant {I : Timed σ → Prop} (hstart : ∀ s, M.initial s → I s)
    (htick : ∀ c c' s, c ≤ c' → I ⟨c, s⟩ → I ⟨c', s⟩)
    (hcall : ∀ c s input s', M.act c s input s' → I ⟨c, s⟩ → I ⟨c, s'⟩)
    {history : List (Transition σ ι)} {s : Timed σ} (h : M.Run history s) : I s := by
  induction h with
  | start initial => exact hstart _ initial
  | step _ step ih =>
      cases step with
      | tick later => exact htick _ _ _ later ih
      | call acts => exact hcall _ _ _ _ acts ih

/-- `Run.invariant` for reachable states. -/
theorem Reachable.invariant {I : Timed σ → Prop} (hstart : ∀ s, M.initial s → I s)
    (htick : ∀ c c' s, c ≤ c' → I ⟨c, s⟩ → I ⟨c', s⟩)
    (hcall : ∀ c s input s', M.act c s input s' → I ⟨c, s⟩ → I ⟨c, s'⟩)
    {s : Timed σ} (h : M.Reachable s) : I s :=
  h.elim fun _ run => run.invariant hstart htick hcall

theorem Run.reachable {history : List (Transition σ ι)} {s : Timed σ} (h : M.Run history s) :
    M.Reachable s := ⟨history, h⟩

theorem Reachable.step {s s' : Timed σ} {input : Option ι} (h : M.Reachable s)
    (hstep : M.Step s input s') : M.Reachable s' :=
  h.elim fun _ run => ⟨_, .step run hstep⟩

/-- Every transition of a run is a step from a state the run had reached. -/
theorem Run.step_of_mem {history : List (Transition σ ι)} {s : Timed σ} (h : M.Run history s)
    {t : Transition σ ι} (ht : t ∈ history) : M.Reachable t.pre ∧ M.Step t.pre t.call t.post := by
  induction h with
  | start => cases ht
  | step run step ih =>
      rcases List.mem_cons.mp ht with rfl | ht
      · exact ⟨run.reachable, step⟩
      · exact ih ht

/-- A run contains the run up to each of its transitions. -/
theorem Run.split {newer older : List (Transition σ ι)} {t : Transition σ ι} {s : Timed σ}
    (h : M.Run (newer ++ t :: older) s) : M.Run (t :: older) t.post := by
  induction newer generalizing s with
  | nil =>
      cases h with
      | step run step => exact .step run step
  | cons last newer ih =>
      cases h with
      | step run => exact ih run

/-- The clock has not gone back since any transition of a run. -/
theorem Run.now_le {newer older : List (Transition σ ι)} {t : Transition σ ι} {s : Timed σ}
    (h : M.Run (newer ++ t :: older) s) :
    t.post.now ≤ s.now ∧ ∀ t' ∈ newer, t.post.now ≤ t'.pre.now := by
  induction newer generalizing s with
  | nil =>
      cases h with
      | step => exact ⟨Nat.le_refl _, nofun⟩
  | cons last newer ih =>
      cases h with
      | step run step =>
          obtain ⟨hnow, hrest⟩ := ih run
          refine ⟨Nat.le_trans hnow step.now_le, ?_⟩
          intro t' ht'
          rcases List.mem_cons.mp ht' with rfl | ht'
          · exact hnow
          · exact hrest t' ht'

/-- The clock has not gone back since any transition of a run. -/
theorem Run.clock_le {history : List (Transition σ ι)} {s : Timed σ} (h : M.Run history s) :
    ∀ t ∈ history, t.post.clock ≤ s.clock := by
  induction h with
  | start => simp
  | step run step ih =>
      intro t ht
      rcases List.mem_cons.mp ht with rfl | hearlier
      · exact le_refl _
      · exact le_trans (ih t hearlier) step.clock_le

/-- What every call keeps, a run keeps from each of its transitions on. -/
theorem Run.kept {P : σ → Prop} (hkept : ∀ {c s input s'}, M.act c s input s' → P s → P s')
    {history : List (Transition σ ι)} {s : Timed σ} (h : M.Run history s) :
    ∀ t ∈ history, P t.post.state → P s.state := by
  induction h with
  | start => simp
  | step run step ih =>
      intro t ht hP
      rcases List.mem_cons.mp ht with rfl | hearlier
      · exact hP
      · have hbefore := ih t hearlier hP
        cases step with
        | tick => exact hbefore
        | call acts => exact hkept acts hbefore

/-- What every step of a run keeps, a run keeps from each of its transitions on. -/
theorem Run.since {P : Timed σ → Prop}
    (hkept : ∀ {s input s'}, M.Reachable s → M.Step s input s' → P s → P s')
    {newer older : List (Transition σ ι)} {t : Transition σ ι} {s : Timed σ}
    (h : M.Run (newer ++ t :: older) s) (hP : P t.post) : P s := by
  induction newer generalizing s with
  | nil =>
      cases h with
      | step => exact hP
  | cons last newer ih =>
      cases h with
      | step run step => exact hkept run.reachable step (ih run)

/-- What holds after a transition of a run holds at its end, unless a later transition ends it. -/
theorem Run.since_or {P : Timed σ → Prop} {newer older : List (Transition σ ι)}
    {t : Transition σ ι} {s : Timed σ} (h : M.Run (newer ++ t :: older) s) (hP : P t.post) :
    P s ∨ ∃ t' ∈ newer, P t'.pre ∧ ¬ P t'.post := by
  induction newer generalizing s with
  | nil =>
      cases h with
      | step => exact .inl hP
  | cons last newer ih =>
      cases h with
      | @step _ middle _ _ run step =>
          rcases ih run with hmiddle | ⟨t', hmem, hends⟩
          · by_cases hlast : P s
            · exact .inl hlast
            · exact .inr ⟨_, List.mem_cons_self, hmiddle, hlast⟩
          · exact .inr ⟨t', List.mem_cons_of_mem _ hmem, hends⟩

/-! ## Playing a run -/

/-- Play a list of calls, each at its own clock, and keep the history; `none` when a call traps or
the clock would go back. -/
def replay (next : Clock → σ → ι → Option σ) :
    List (Clock × ι) → List (Transition σ ι) × Timed σ → Option (List (Transition σ ι) × Timed σ)
  | [], run => some run
  | (clock, input) :: rest, (history, s) =>
      if s.clock ≤ clock then
        match next clock s.state input with
        | some state => replay next rest
            (⟨⟨clock, s.state⟩, some input, ⟨clock, state⟩⟩ ::
              ⟨s, none, ⟨clock, s.state⟩⟩ :: history, ⟨clock, state⟩)
        | none => none
      else none

/-- Playing calls the machine allows extends a run. -/
theorem Run.replay {next : Clock → σ → ι → Option σ}
    (hnext : ∀ c s input s', next c s input = some s' → M.act c s input s')
    {inputs : List (Clock × ι)} {history : List (Transition σ ι)} {s : Timed σ}
    {run : List (Transition σ ι) × Timed σ} (hstart : M.Run history s)
    (h : Machine.replay next inputs (history, s) = some run) : M.Run run.1 run.2 := by
  induction inputs generalizing history s with
  | nil =>
      obtain rfl := Option.some.inj h
      exact hstart
  | cons head rest ih =>
      obtain ⟨clock, input⟩ := head
      -- the clock has advanced and the call has acted: two steps of the run
      unfold Machine.replay at h
      split at h
      · rename_i hclock
        cases hcall : next clock s.state input with
        | none => simp [hcall] at h
        | some state =>
            rw [hcall] at h
            exact ih (.step (.step hstart (.tick hclock)) (.call (hnext _ _ _ _ hcall))) h
      · cases h

end Machine

end Soroban
