import RemitCollateral.Host.Lifetimes
import RemitCollateral.LiquidationEngine.Spec

/-! # What the engine keeps alive, and what its callees keep

Every call of the engine extends its instance. Of the world outside it does only what the ledger and
the vault do for it, so whatever these two keep, its cranks keep. -/

namespace RemitCollateral.LiquidationEngine

open Soroban
open Soroban.Lifetimes (Keeps)

section Instance

variable {X : Type} {ledgers : Address → LedgerClient X} {vaults : Address → VaultClient X}
  {env : Env} {s s' : State} {x x' : X} {call : Call}

theorem keeps_extendInstance {bound : ℕ} (env : Env) (s : State) :
    Keeps bound s.ttl (extendInstance env s).ttl :=
  Lifetimes.keeps_extendInstance (by decide) s.ttl

/-- A renewed instance is live for the threshold. -/
theorem extendInstance_renews (env : Env) (s : State) :
    env.clock.sequence + threshold ≤ (extendInstance env s).ttl.instanceUntil :=
  Lifetimes.instance_extended (by decide) (by decide) s.ttl

/-- **No call shortens the life of the instance.** -/
theorem exec_keeps {bound : ℕ} (h : exec ledgers vaults env call s x = .ok (s', x')) :
    Keeps bound s.ttl s'.ttl := by
  have hrenews : Keeps bound s.ttl (extendInstance env s).ttl := keeps_extendInstance env s
  cases call with
  | scheduleAction | cancelAction | proposeAdmin | acceptAdmin =>
      obtain ⟨hok, -⟩ := onEngine_eq_ok.mp h
      obtain ⟨governance, -, hok⟩ := bind_eq_ok.mp hok
      obtain rfl := pure_eq_ok.mp hok
      exact hrenews
  | executeAction =>
      obtain ⟨hok, -⟩ := onEngine_eq_ok.mp h
      obtain ⟨⟨⟨wasmHash⟩, governance⟩, -, hok⟩ := bind_eq_ok.mp hok
      obtain rfl := pure_eq_ok.mp hok
      exact hrenews
  | pause =>
      obtain ⟨-, rfl⟩ := pause_eq_ok.mp (onEngine_eq_ok.mp h).1
      exact hrenews
  | unpause =>
      obtain ⟨-, rfl⟩ := unpause_eq_ok.mp (onEngine_eq_ok.mp h).1
      exact hrenews
  | flagOverdue =>
      obtain rfl := flagOverdue_extendInstance h
      exact hrenews
  | liquidate =>
      obtain ⟨⟨r, s₁, x₁⟩, hliquidate, heq⟩ := map_eq_ok.mp h
      obtain ⟨rfl, rfl⟩ := Prod.mk.inj heq
      obtain rfl := liquidate_extendInstance hliquidate
      exact hrenews
  | poke =>
      obtain ⟨⟨done, s₁, x₁⟩, hpoke, heq⟩ := map_eq_ok.mp h
      obtain ⟨rfl, rfl⟩ := Prod.mk.inj heq
      obtain rfl := poke_extendInstance hpoke
      exact hrenews

end Instance

/-! ## What the callees keep -/

section Preserves

variable {X : Type}

/-- The calls the engine makes of a ledger keep `P`. -/
structure LedgerClient.Preserves (ledger : LedgerClient X) (env : Env) (P : X → Prop) : Prop where
  isOverdue : ∀ {loanId x value x'}, P x → ledger.isOverdue env loanId x = some (value, x') → P x'
  isGraceExpired : ∀ {loanId x value x'}, P x →
    ledger.isGraceExpired env loanId x = some (value, x') → P x'
  loanGuarantor : ∀ {loanId x value x'}, P x →
    ledger.loanGuarantor env loanId x = some (value, x') → P x'
  loanOutstanding : ∀ {loanId x value x'}, P x →
    ledger.loanOutstanding env loanId x = some (value, x') → P x'
  loanCollateralRemaining : ∀ {loanId x value x'}, P x →
    ledger.loanCollateralRemaining env loanId x = some (value, x') → P x'
  markGrace : ∀ {caller loanId x x'}, P x → ledger.markGrace env caller loanId x = some x' → P x'
  markDefaulted : ∀ {caller loanId x x'}, P x →
    ledger.markDefaulted env caller loanId x = some x' → P x'

/-- The calls the engine makes of a vault keep `P`. -/
structure VaultClient.Preserves (vault : VaultClient X) (env : Env) (P : X → Prop) : Prop where
  releaseCollateral : ∀ {caller guarantor amount x x'}, P x →
    vault.releaseCollateral env caller guarantor amount x = some x' → P x'
  forfeitCollateral : ∀ {caller guarantor amount x x'}, P x →
    vault.forfeitCollateral env caller guarantor amount x = some x' → P x'

variable {ledgers : Address → LedgerClient X} {vaults : Address → VaultClient X} {env : Env}
  {s s' : State} {x x' : X} {loanId : ℕ} {P : X → Prop}

theorem settleCollateral_preserves
    (hvault : ∀ addr, s.vault = some addr → (vaults addr).Preserves (env.call addr) P)
    {guarantor : Address} {forfeited returned : ℤ} (hP : P x)
    (h : settleCollateral vaults env guarantor forfeited returned s x = .ok x') : P x' := by
  obtain ⟨addr, haddr, x₁, hforfeit, hrelease⟩ := settleCollateral_eq_ok.mp h
  have hkeeps := hvault addr haddr
  have hP₁ : P x₁ := by
    split at hforfeit
    · exact hkeeps.forfeitCollateral hP hforfeit
    · exact Option.some.inj hforfeit ▸ hP
  split at hrelease
  · exact hkeeps.releaseCollateral hP₁ hrelease
  · exact Option.some.inj hrelease ▸ hP₁

variable (hledger : ∀ addr, s.loanLedger = some addr → (ledgers addr).Preserves (env.call addr) P)
include hledger

theorem flagOverdue_preserves (hP : P x)
    (h : flagOverdue ledgers env loanId s x = .ok (s', x')) : P x' := by
  obtain ⟨-, addr, haddr, x₁, hoverdue, hmark, -⟩ := flagOverdue_eq_ok.mp h
  have hkeeps := hledger addr haddr
  exact hkeeps.markGrace (hkeeps.isOverdue hP hoverdue) hmark

variable (hvault : ∀ addr, s.vault = some addr → (vaults addr).Preserves (env.call addr) P)
include hvault

theorem liquidate_preserves {r : ℤ} (hP : P x)
    (h : liquidate ledgers vaults env loanId s x = .ok (r, s', x')) : P x' := by
  obtain ⟨-, addr, haddr, x₁, hexpired, guarantor, x₂, hguarantor, outstanding, x₃, houtstanding,
    remaining, x₄, hremaining, -, x₅, hsettle, hmark, -, -⟩ := liquidate_eq_ok.mp h
  have hkeeps := hledger addr haddr
  have hP₁ : P x₁ := hkeeps.isGraceExpired hP hexpired
  have hP₂ : P x₂ := hkeeps.loanGuarantor hP₁ hguarantor
  have hP₃ : P x₃ := hkeeps.loanOutstanding hP₂ houtstanding
  have hP₄ : P x₄ := hkeeps.loanCollateralRemaining hP₃ hremaining
  exact hkeeps.markDefaulted (settleCollateral_preserves hvault hP₄ hsettle) hmark

/-- What holds after the first view of a running engine's poke holds after the poke. -/
theorem poke_view_preserves {done : Bool} (hrunning : paused s = false)
    (h : poke ledgers vaults env loanId s x = .ok (done, s', x')) :
    ∃ addr overdue x₁, s.loanLedger = some addr ∧
      (ledgers addr).isOverdue (env.call addr) loanId x = some (overdue, x₁) ∧ (P x₁ → P x') := by
  rcases poke_cases h with ⟨hpaused, -⟩ | ⟨-, addr, haddr, overdue, x₁, hoverdue, hcases⟩
  · rw [hrunning] at hpaused
    cases hpaused
  have hkeeps := hledger addr haddr
  refine ⟨addr, overdue, x₁, haddr, hoverdue, fun hP₁ => ?_⟩
  rcases hcases with ⟨-, -, -, hmark⟩ | ⟨-, expired, x₂, hexpired, hcases⟩
  · exact hkeeps.markGrace hP₁ hmark
  have hP₂ : P x₂ := hkeeps.isGraceExpired hP₁ hexpired
  rcases hcases with ⟨-, -, -, rfl⟩ | ⟨-, -, r, hliquidate⟩
  · exact hP₂
  · exact liquidate_preserves (s := extendInstance env s) hledger hvault hP₂ hliquidate

theorem poke_preserves {done : Bool} (hP : P x)
    (h : poke ledgers vaults env loanId s x = .ok (done, s', x')) : P x' := by
  cases hrunning : paused s with
  | true =>
      rcases poke_cases h with ⟨-, -, -, rfl⟩ | ⟨hnot, -⟩
      · exact hP
      · rw [hrunning] at hnot
        cases hnot
  | false =>
      obtain ⟨addr, overdue, x₁, haddr, hoverdue, hrest⟩ :=
        poke_view_preserves hledger hvault hrunning h
      exact hrest ((hledger addr haddr).isOverdue hP hoverdue)

/-- **What the callees keep, every call keeps.** -/
theorem exec_preserves {call : Call} (hP : P x)
    (h : exec ledgers vaults env call s x = .ok (s', x')) : P x' := by
  cases call with
  | flagOverdue => exact flagOverdue_preserves hledger hP h
  | liquidate =>
      obtain ⟨⟨r, s₁, x₁⟩, hliquidate, heq⟩ := map_eq_ok.mp h
      obtain ⟨rfl, rfl⟩ := Prod.mk.inj heq
      exact liquidate_preserves hledger hvault hP hliquidate
  | poke =>
      obtain ⟨⟨done, s₁, x₁⟩, hpoke, heq⟩ := map_eq_ok.mp h
      obtain ⟨rfl, rfl⟩ := Prod.mk.inj heq
      exact poke_preserves hledger hvault hP hpoke
  | _ =>
      obtain ⟨-, rfl⟩ := onEngine_eq_ok.mp h
      exact hP

end Preserves

end RemitCollateral.LiquidationEngine
