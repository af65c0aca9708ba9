import RemitCollateral.GuarantorVault.Calls
import RemitCollateral.Host.Lifetimes

/-! # What the vault keeps alive

Every call of the vault extends what it uses: its instance, and the record it reads or writes.
Nothing it does shortens a life. -/

namespace RemitCollateral.GuarantorVault

open Soroban
open Soroban.Lifetimes (Keeps)

section Records

variable (env : Env) (g : Address) (s : State)

theorem threshold_pos : 0 < threshold := by decide

theorem threshold_le_extendTo : threshold ≤ extendTo := by decide

theorem keeps_extendInstance {bound : ℕ} : Keeps bound s.ttl (extendInstance env s).ttl :=
  Lifetimes.keeps_extendInstance threshold_le_extendTo s.ttl

theorem keeps_vaultOf {bound : ℕ} : Keeps bound s.ttl (vaultOf env g s).2.ttl := by
  unfold vaultOf
  split
  · exact Lifetimes.keeps_extendEntry threshold_le_extendTo g s.ttl
  · exact .refl s.ttl

/-- From the renewed instance to the record written. -/
theorem keeps_savedTtl_extendInstance :
    Keeps (env.clock.sequence + threshold) (extendInstance env s).ttl (savedTtl env g s) :=
  (keeps_vaultOf env g (extendInstance env s)).trans
    (Lifetimes.keeps_set threshold_pos threshold_le_extendTo _ g _)

theorem keeps_savedTtl :
    Keeps (env.clock.sequence + threshold) s.ttl (savedTtl env g s) :=
  (keeps_extendInstance env s).trans (keeps_savedTtl_extendInstance env g s)

/-- A call that replaces a record leaves the instance the threshold. -/
theorem savedTtl_instance : env.clock.sequence + threshold ≤ (savedTtl env g s).instanceUntil := by
  apply (keeps_savedTtl_extendInstance env g s).le_instance (le_refl _)
  exact Lifetimes.instance_extended threshold_pos threshold_le_extendTo s.ttl

/-- A call that replaces a record leaves the record the threshold. -/
theorem savedTtl_entry : env.clock.sequence + threshold ≤ (savedTtl env g s).entryUntil g :=
  Lifetimes.entry_extended threshold_pos threshold_le_extendTo g _

end Records

section Calls

variable {T : Type} {tokens : Address → TokenClient T} {env : Env} {tok : StandardToken T}
  {call : Call} {w w' : World T}

/-- **No call shortens a life.** -/
theorem exec_keeps (hsound : w.vault.Sound) (huses : w.vault.Uses tokens tok)
    (h : exec tokens env call w = .ok w') :
    Keeps (env.clock.sequence + threshold) w.vault.ttl w'.vault.ttl := by
  have heffect := exec_effect hsound huses h
  have hrenews : Keeps (env.clock.sequence + threshold) w.vault.ttl
      (extendInstance env w.vault).ttl := keeps_extendInstance env w.vault
  cases call with
  | deposit g amount =>
      obtain ⟨-, -, t', -, -, -, rfl⟩ := heffect
      exact keeps_savedTtl env g w.vault
  | withdraw g amount =>
      obtain ⟨-, -, -, t', -, rfl⟩ := heffect
      exact keeps_savedTtl env g w.vault
  | lockCollateral caller g amount | releaseCollateral caller g amount =>
      obtain ⟨-, -, -, -, rfl⟩ := heffect
      exact keeps_savedTtl env g w.vault
  | forfeitCollateral caller g amount =>
      obtain ⟨-, -, -, -, settlement, -, t', -, rfl⟩ := heffect
      exact keeps_savedTtl env g w.vault
  | setLoanLedger | setLiquidationEngine =>
      obtain ⟨s', hs, rfl⟩ := onVault_eq_ok.mp h
      obtain ⟨-, -, hs⟩ := bind_eq_ok.mp hs
      obtain ⟨-, -, hs⟩ := bind_eq_ok.mp hs
      obtain rfl := pure_eq_ok.mp hs
      exact hrenews
  | scheduleAction | cancelAction | proposeAdmin | acceptAdmin =>
      obtain ⟨s', hs, rfl⟩ := onVault_eq_ok.mp h
      obtain ⟨governance, -, hs⟩ := bind_eq_ok.mp hs
      obtain rfl := pure_eq_ok.mp hs
      exact hrenews
  | executeAction =>
      obtain ⟨s', hs, rfl⟩ := onVault_eq_ok.mp h
      obtain ⟨⟨action, governance⟩, -, hs⟩ := bind_eq_ok.mp hs
      cases action with
      | upgrade | setSettlement =>
          obtain rfl := pure_eq_ok.mp hs
          exact hrenews
  | getVault g | getBalance g | getLocked g =>
      simp only [exec, onVault_eq_ok, pure_eq_ok, exists_eq_left'] at h
      obtain rfl := h
      exact keeps_vaultOf env g w.vault
  | getAvailable g =>
      simp only [exec, onVault_eq_ok, map_eq_ok] at h
      obtain ⟨-, ⟨⟨available, s'⟩, hget, rfl⟩, rfl⟩ := h
      obtain ⟨available', -, hget⟩ := bind_eq_ok.mp hget
      obtain ⟨-, rfl⟩ := Prod.mk.inj (pure_eq_ok.mp hget)
      exact keeps_vaultOf env g w.vault

/-- Locking collateral leaves the instance and the record the threshold. -/
theorem lockCollateral_renews (hsound : w.vault.Sound) (huses : w.vault.Uses tokens tok)
    {caller g : Address} {amount : ℤ}
    (h : exec tokens env (.lockCollateral caller g amount) w = .ok w') :
    env.clock.sequence + threshold ≤ w'.vault.ttl.instanceUntil ∧
      env.clock.sequence + threshold ≤ w'.vault.ttl.entryUntil g := by
  obtain ⟨-, -, -, -, rfl⟩ := exec_effect hsound huses h
  exact ⟨savedTtl_instance env g w.vault, savedTtl_entry env g w.vault⟩

end Calls

end RemitCollateral.GuarantorVault
