import RemitCollateral.LiquidationEngine.Model

/-! # What each engine operation does

The cranks as the chains of ledger and vault calls they make, the administrative operations as the
one setting they change, and the entry points as one type of calls. The ledger and the vault stay
arbitrary here. -/

namespace RemitCollateral.LiquidationEngine

open Soroban

/-- The entry points that write storage or renew it. -/
inductive Call
  | scheduleAction (admin : Address) (action : Action)
  | executeAction (admin : Address)
  | cancelAction (admin : Address)
  | proposeAdmin (admin newAdmin : Address)
  | acceptAdmin (newAdmin : Address)
  | pause (admin : Address)
  | unpause (admin : Address)
  | flagOverdue (loanId : ℕ)
  | liquidate (loanId : ℕ)
  | poke (loanId : ℕ)
  deriving DecidableEq, Repr

variable {X : Type} (ledgers : Address → LedgerClient X) (vaults : Address → VaultClient X)
  (env : Env)

/-- Run an operation that calls no other contract. -/
def onEngine (operation : State → Result Error State) (s : State) (x : X) :
    Result Error (State × X) := do
  let s ← operation s
  pure (s, x)

/-- Run one call; what it returns to its caller is dropped. -/
def exec : Call → State → X → Result Error (State × X)
  | .scheduleAction admin action => onEngine (scheduleAction env admin action)
  | .executeAction admin => onEngine (executeAction env admin)
  | .cancelAction admin => onEngine (cancelAction env admin)
  | .proposeAdmin admin newAdmin => onEngine (proposeAdmin env admin newAdmin)
  | .acceptAdmin newAdmin => onEngine (acceptAdmin env newAdmin)
  | .pause admin => onEngine (pause env admin)
  | .unpause admin => onEngine (unpause env admin)
  | .flagOverdue loanId => flagOverdue ledgers env loanId
  | .liquidate loanId => fun s x => (·.2) <$> liquidate ledgers vaults env loanId s x
  | .poke loanId => fun s x => (·.2) <$> poke ledgers vaults env loanId s x

@[simp] theorem onEngine_eq_ok {operation : State → Result Error State} {s s' : State} {x x' : X} :
    onEngine operation s x = .ok (s', x') ↔ operation s = .ok s' ∧ x = x' := by
  simp [onEngine]

/-! ## Settings -/

/-- The same contracts are called and no other code runs. -/
structure Wired (s s' : State) : Prop where
  vault : s'.vault = s.vault
  loanLedger : s'.loanLedger = s.loanLedger

section Settings

variable {env} {s s' : State}

@[simp] theorem extendInstance_loanLedger (env : Env) (s : State) :
    (extendInstance env s).loanLedger = s.loanLedger := rfl

@[simp] theorem paused_extendInstance (env : Env) (s : State) :
    paused (extendInstance env s) = paused s := rfl

theorem extendInstance_extendInstance (env : Env) (s : State) :
    extendInstance env (extendInstance env s) = extendInstance env s := by
  unfold extendInstance
  rw [Lifetimes.extendInstance_extendInstance (by decide)]

theorem extendInstance_wired (env : Env) (s : State) : Wired s (extendInstance env s) := ⟨rfl, rfl⟩

@[simp] theorem requireAdmin_eq_ok {admin : Address} {u : Unit} :
    requireAdmin env admin s = .ok u ↔ env.authorized admin ∧ s.governance.admin = some admin :=
  Governance.requireAdmin_eq_ok

/-- Only the admin pauses the engine. -/
theorem pause_eq_ok {admin : Address} : pause env admin s = .ok s' ↔
    (env.authorized admin ∧ s.governance.admin = some admin) ∧
      { extendInstance env s with isPaused := some true } = s' := by
  simp [pause]

/-- Only the admin resumes it. -/
theorem unpause_eq_ok {admin : Address} : unpause env admin s = .ok s' ↔
    (env.authorized admin ∧ s.governance.admin = some admin) ∧
      { extendInstance env s with isPaused := some false } = s' := by
  simp [unpause]

theorem pause_wired {admin : Address} (h : pause env admin s = .ok s') : Wired s s' := by
  obtain ⟨-, rfl⟩ := pause_eq_ok.mp h
  exact ⟨rfl, rfl⟩

theorem unpause_wired {admin : Address} (h : unpause env admin s = .ok s') : Wired s s' := by
  obtain ⟨-, rfl⟩ := unpause_eq_ok.mp h
  exact ⟨rfl, rfl⟩

theorem scheduleAction_wired {admin : Address} {action : Action}
    (h : scheduleAction env admin action s = .ok s') : Wired s s' := by
  simp only [scheduleAction, bind_eq_ok, pure_eq_ok] at h
  obtain ⟨governance, -, rfl⟩ := h
  exact ⟨rfl, rfl⟩

theorem executeAction_wired {admin : Address} (h : executeAction env admin s = .ok s') :
    Wired s s' := by
  simp only [executeAction, bind_eq_ok] at h
  obtain ⟨⟨⟨wasmHash⟩, governance⟩, -, h⟩ := h
  obtain rfl := pure_eq_ok.mp h
  exact ⟨rfl, rfl⟩

theorem cancelAction_wired {admin : Address} (h : cancelAction env admin s = .ok s') :
    Wired s s' := by
  simp only [cancelAction, bind_eq_ok, pure_eq_ok] at h
  obtain ⟨governance, -, rfl⟩ := h
  exact ⟨rfl, rfl⟩

theorem proposeAdmin_wired {admin newAdmin : Address}
    (h : proposeAdmin env admin newAdmin s = .ok s') : Wired s s' := by
  simp only [proposeAdmin, bind_eq_ok, pure_eq_ok] at h
  obtain ⟨governance, -, rfl⟩ := h
  exact ⟨rfl, rfl⟩

theorem acceptAdmin_wired {newAdmin : Address} (h : acceptAdmin env newAdmin s = .ok s') :
    Wired s s' := by
  simp only [acceptAdmin, bind_eq_ok, pure_eq_ok] at h
  obtain ⟨governance, -, rfl⟩ := h
  exact ⟨rfl, rfl⟩

end Settings

/-! ## Cranks -/

section Cranks

variable {ledgers : Address → LedgerClient X} {vaults : Address → VaultClient X} {env : Env}
  {loanId : ℕ} {guarantor : Address} {forfeited returned : ℤ} {s s' : State} {x x' : X}
  {done : Bool}

/-- **Flagging.** Unless paused, an overdue loan is marked. -/
theorem flagOverdue_eq_ok : flagOverdue ledgers env loanId s x = .ok (s', x') ↔
    paused s = false ∧ ∃ addr, s.loanLedger = some addr ∧ ∃ x₁,
      (ledgers addr).isOverdue (env.call addr) loanId x = some (true, x₁) ∧
      (ledgers addr).markGrace (env.call addr) env.currentContract loanId x₁ = some x' ∧
      extendInstance env s = s' := by
  simp only [flagOverdue, bind_eq_ok, require_eq_ok, orPanic_eq_ok, callee_eq_ok, pure_eq_ok,
    extendInstance_loanLedger, exists_const, Prod.exists, Prod.mk.injEq]
  simp only [paused_extendInstance]
  constructor
  · rintro ⟨hpaused, addr, haddr, _, x₁, hoverdue, rfl, _, hmark, hs, rfl⟩
    exact ⟨hpaused, addr, haddr, x₁, hoverdue, hmark, hs⟩
  · rintro ⟨hpaused, addr, haddr, x₁, hoverdue, hmark, hs⟩
    exact ⟨hpaused, addr, haddr, true, x₁, hoverdue, rfl, x', hmark, hs, rfl⟩

/-- The vault calls of a settlement, each made only for a positive amount. -/
theorem settleCollateral_eq_ok :
    settleCollateral vaults env guarantor forfeited returned s x = .ok x' ↔
      ∃ addr, s.vault = some addr ∧ ∃ x₁,
        (if 0 < forfeited then (vaults addr).forfeitCollateral (env.call addr) env.currentContract
          guarantor forfeited x else some x) = some x₁ ∧
        (if 0 < returned then (vaults addr).releaseCollateral (env.call addr) env.currentContract
          guarantor returned x₁ else some x₁) = some x' := by
  simp only [settleCollateral, bind_eq_ok, orPanic_eq_ok, callee_eq_ok]

/-- **Liquidation.** Unless paused, a loan past its grace has what it owes forfeited, up to what is
still locked, and the rest returned, and is then closed. -/
theorem liquidate_eq_ok : liquidate ledgers vaults env loanId s x = .ok (forfeited, s', x') ↔
    paused s = false ∧ ∃ addr, s.loanLedger = some addr ∧ ∃ x₁,
      (ledgers addr).isGraceExpired (env.call addr) loanId x = some (true, x₁) ∧ ∃ guarantor x₂,
      (ledgers addr).loanGuarantor (env.call addr) loanId x₁ = some (guarantor, x₂) ∧
      ∃ outstanding x₃,
      (ledgers addr).loanOutstanding (env.call addr) loanId x₂ = some (outstanding, x₃) ∧
      ∃ remaining x₄,
      (ledgers addr).loanCollateralRemaining (env.call addr) loanId x₃ = some (remaining, x₄) ∧
      InI128 (remaining - min outstanding remaining) ∧ ∃ x₅,
      settleCollateral vaults env guarantor (min outstanding remaining)
        (remaining - min outstanding remaining) (extendInstance env s) x₄ = .ok x₅ ∧
      (ledgers addr).markDefaulted (env.call addr) env.currentContract loanId x₅ = some x' ∧
      min outstanding remaining = forfeited ∧ extendInstance env s = s' := by
  -- the source compares by hand where `min` is meant
  have hmin : ∀ a b : ℤ, (if a < b then a else b) = min a b := by
    intro a b
    split <;> omega
  simp only [liquidate, bind_eq_ok, require_eq_ok, orPanic_eq_ok, callee_eq_ok, pure_eq_ok,
    i128_eq_ok, extendInstance_loanLedger, exists_const, Prod.exists, Prod.mk.injEq, hmin,
    and_assoc, exists_and_left, exists_eq_left']
  simp only [paused_extendInstance]
  constructor
  · rintro ⟨hpaused, addr, haddr, _, x₁, hexpired, rfl, guarantor, x₂, hguarantor, outstanding, x₃,
      houtstanding, remaining, x₄, hremaining, hi128, x₅, hsettle, _, hmark, hr, hs, rfl⟩
    exact ⟨hpaused, addr, haddr, x₁, hexpired, guarantor, x₂, hguarantor, outstanding, x₃,
      houtstanding, remaining, x₄, hremaining, hi128, x₅, hsettle, hmark, hr, hs⟩
  · rintro ⟨hpaused, addr, haddr, x₁, hexpired, guarantor, x₂, hguarantor, outstanding, x₃,
      houtstanding, remaining, x₄, hremaining, hi128, x₅, hsettle, hmark, hr, hs⟩
    exact ⟨hpaused, addr, haddr, true, x₁, hexpired, rfl, guarantor, x₂, hguarantor, outstanding,
      x₃, houtstanding, remaining, x₄, hremaining, hi128, x₅, hsettle, x', hmark, hr, hs, rfl⟩

/-- **Poke.** It does nothing, flags an overdue loan or liquidates one past its grace. -/
theorem poke_cases (h : poke ledgers vaults env loanId s x = .ok (done, s', x')) :
    (paused s = true ∧ done = false ∧ s' = extendInstance env s ∧ x' = x) ∨
    (paused s = false ∧ ∃ addr, s.loanLedger = some addr ∧ ∃ overdue x₁,
      (ledgers addr).isOverdue (env.call addr) loanId x = some (overdue, x₁) ∧
      ((overdue = true ∧ done = true ∧ s' = extendInstance env s ∧
        (ledgers addr).markGrace (env.call addr) env.currentContract loanId x₁ = some x') ∨
      (overdue = false ∧ ∃ expired x₂,
        (ledgers addr).isGraceExpired (env.call addr) loanId x₁ = some (expired, x₂) ∧
        ((expired = false ∧ done = false ∧ s' = extendInstance env s ∧ x' = x₂) ∨
        (expired = true ∧ done = true ∧ ∃ forfeited,
          liquidate ledgers vaults env loanId (extendInstance env s) x₂ =
            .ok (forfeited, s', x')))))) := by
  unfold poke at h
  -- the three branches of the source, each of them read off its own guard
  cases hpaused : paused s with
  | true =>
      simp only [paused_extendInstance, hpaused, if_true, pure_eq_ok, Prod.mk.injEq] at h
      obtain ⟨rfl, rfl, rfl⟩ := h
      exact .inl ⟨rfl, rfl, rfl, rfl⟩
  | false =>
      simp only [paused_extendInstance, hpaused, Bool.false_eq_true, if_false, bind_eq_ok,
        orPanic_eq_ok, callee_eq_ok, extendInstance_loanLedger, Prod.exists] at h
      obtain ⟨addr, haddr, overdue, x₁, hoverdue, h⟩ := h
      refine .inr ⟨rfl, addr, haddr, overdue, x₁, hoverdue, ?_⟩
      cases overdue with
      | true =>
          simp only [if_true, pokeOverdue, bind_eq_ok, callee_eq_ok, pure_eq_ok, Prod.mk.injEq] at h
          obtain ⟨x₂, hmark, rfl, rfl, rfl⟩ := h
          exact .inl ⟨rfl, rfl, rfl, hmark⟩
      | false =>
          simp only [Bool.false_eq_true, if_false, pokeExpired, bind_eq_ok, callee_eq_ok,
            Prod.exists] at h
          obtain ⟨expired, x₂, hexpired, h⟩ := h
          refine .inr ⟨rfl, expired, x₂, hexpired, ?_⟩
          cases expired with
          | true =>
              simp only [if_true, bind_eq_ok, pure_eq_ok, Prod.exists, Prod.mk.injEq] at h
              obtain ⟨forfeited, s₁, x₃, hliquidate, rfl, rfl, rfl⟩ := h
              exact .inr ⟨rfl, rfl, forfeited, hliquidate⟩
          | false =>
              simp only [Bool.false_eq_true, if_false, pure_eq_ok, Prod.mk.injEq] at h
              obtain ⟨rfl, rfl, rfl⟩ := h
              exact .inl ⟨rfl, rfl, rfl, rfl⟩

/-! A crank renews the instance and does nothing else to the engine. -/

theorem flagOverdue_extendInstance
    (h : flagOverdue ledgers env loanId s x = .ok (s', x')) : s' = extendInstance env s := by
  obtain ⟨-, addr, -, x₁, -, -, hs⟩ := flagOverdue_eq_ok.mp h
  exact hs.symm

theorem liquidate_extendInstance
    (h : liquidate ledgers vaults env loanId s x = .ok (forfeited, s', x')) :
    s' = extendInstance env s := by
  obtain ⟨-, addr, -, x₁, -, guarantor, x₂, -, outstanding, x₃, -, remaining, x₄, -, -, x₅, -, -, -,
    hs⟩ := liquidate_eq_ok.mp h
  exact hs.symm

theorem poke_extendInstance (h : poke ledgers vaults env loanId s x = .ok (done, s', x')) :
    s' = extendInstance env s := by
  rcases poke_cases h with ⟨-, -, hs, -⟩ | ⟨-, addr, -, overdue, x₁, -, hcases⟩
  · exact hs
  rcases hcases with ⟨-, -, hs, -⟩ | ⟨-, expired, x₂, -, ⟨-, -, hs, -⟩ | ⟨-, -, r, hliquidate⟩⟩
  · exact hs
  · exact hs
  · have hs := liquidate_extendInstance hliquidate
    rw [extendInstance_extendInstance] at hs
    exact hs

end Cranks

end RemitCollateral.LiquidationEngine
