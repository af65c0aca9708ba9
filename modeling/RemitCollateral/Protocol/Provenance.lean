import RemitCollateral.GuarantorVault.Administration
import RemitCollateral.LiquidationEngine.Administration
import RemitCollateral.LoanLedger.Administration

/-! # Governance of the three contracts

Each contract embeds the governance pattern with its own actions, so what the pattern guarantees of
its history holds of all three, by themselves and whatever contracts they call. -/

namespace RemitCollateral.Protocol

open Soroban

/-- **Governance.** In every run of the vault, of the ledger and of the engine up to their first
upgrade, the code and the settlement address change only as an action says that the admin of its
time had scheduled a timelock before, with no call about it since; the admin of now executes it and
consumes it. The admin role passes only to who the admin proposed last, when that address accepts,
and once. What the vault and the ledger have registered stays registered. -/
theorem governance_provenance :
    (∀ {T : Type} (tokens : Address → GuarantorVault.TokenClient T)
        (htokens : ∀ a, (tokens a).KeepsSettings) (here : Address)
        (history : List (Transition (GuarantorVault.World T) (GuarantorVault.Input T)))
        (s : Timed (GuarantorVault.World T)),
      (GuarantorVault.openMachine tokens here).Run history s →
        (∃ secs, (GuarantorVault.governed tokens here htokens).Provenance secs history s) ∧
        ∀ t ∈ history, ∀ a, (t.post.state.vault.loanLedger = some a →
            s.state.vault.loanLedger = some a) ∧
          (t.post.state.vault.liquidationEngine = some a →
            s.state.vault.liquidationEngine = some a)) ∧
    (∀ (here : Address) (history : List (Transition LoanLedger.State LoanLedger.Input))
        (s : Timed LoanLedger.State), (LoanLedger.openMachine here).Run history s →
        (∃ secs, (LoanLedger.governed here).Provenance secs history s) ∧
        ∀ t ∈ history, ∀ engine, t.post.state.liquidationEngine = some engine →
          s.state.liquidationEngine = some engine) ∧
    (∀ (here : Address)
        (history : List (Transition LiquidationEngine.State LiquidationEngine.Input))
        (s : Timed LiquidationEngine.State), (LiquidationEngine.openMachine here).Run history s →
        ∃ secs, (LiquidationEngine.governed here).Provenance secs history s) := by
  refine ⟨?_, ?_, ?_⟩
  · intro T tokens htokens here history s hrun
    exact ⟨(GuarantorVault.governed tokens here htokens).provenance hrun,
      GuarantorVault.registered_of_run htokens hrun⟩
  · intro here history s hrun
    exact ⟨(LoanLedger.governed here).provenance hrun, LoanLedger.registered_of_run hrun⟩
  · intro here history s hrun
    exact (LiquidationEngine.governed here).provenance hrun

/-- A new settlement address scheduled by one admin and executed by the next, ten seconds later.
Addresses: 0 vault, 1 and 2 admins, 8 and 7 settlement addresses, 9 token. -/
theorem governance_provenance_handedOver : ∃ t older secs,
    (GuarantorVault.openMachine (fun _ => GuarantorVault.tableToken.client) ⟨0⟩).Run (t :: older)
      t.post ∧ t.pre.now = 10 ∧
    GuarantorVault.Becomes (.setSettlement ⟨7⟩) t.pre.state t.post.state ∧
    t.pre.state.vault.governance.admin = some ⟨2⟩ ∧
    (GuarantorVault.governed (fun _ => GuarantorVault.tableToken.client) ⟨0⟩
      fun _ => GuarantorVault.tableToken.client_keepsSettings).Executes secs older t
        (.setSettlement ⟨7⟩) := by
  let start : Timed (GuarantorVault.World (Address → ℕ)) := ⟨⟨0, 0⟩, GuarantorVault.construct
    (Origin.env ⟨none, [], 0⟩ ⟨0, 0⟩ ⟨0⟩) ⟨1⟩ ⟨9⟩ ⟨8⟩ 10, fun _ => 0⟩
  let calls : List (ℕ × GuarantorVault.Call) :=
    [(0, .scheduleAction ⟨1⟩ (.setSettlement ⟨7⟩)), (4, .proposeAdmin ⟨1⟩ ⟨2⟩),
      (5, .acceptAdmin ⟨2⟩), (10, .executeAction ⟨2⟩)]
  have hplayed : (Machine.replay (GuarantorVault.next ⟨0⟩) (calls.map fun call =>
      (⟨call.1, 0⟩, .call ⟨none, [⟨1⟩, ⟨2⟩], 0⟩ call.2)) ([], start)).any (fun run =>
        run.1.head?.any fun t => t.pre.now = 10 ∧
          t.pre.state.vault.settlementAddress = some ⟨8⟩ ∧
          t.post.state.vault.settlementAddress = some ⟨7⟩ ∧
          t.pre.state.vault.governance.admin = some ⟨2⟩) = true := by decide +kernel
  obtain ⟨⟨history, s⟩, hrun, hchecked⟩ := Option.any_eq_true _ _ |>.mp hplayed
  obtain ⟨t, hhead, hchecked⟩ := Option.any_eq_true _ _ |>.mp hchecked
  obtain ⟨hnow, hbefore, hafter, hadmin⟩ := of_decide_eq_true hchecked
  obtain ⟨older, rfl⟩ := List.head?_eq_some_iff.mp hhead
  have hruns : (GuarantorVault.openMachine (fun _ => GuarantorVault.tableToken.client) ⟨0⟩).Run
      (t :: older) s := by
    refine Machine.Run.replay (M := GuarantorVault.openMachine _ ⟨0⟩) ?_
      (.start ⟨⟨none, [], 0⟩, ⟨1⟩, ⟨9⟩, ⟨8⟩, 10, rfl⟩) hrun
    intro c w input w' hnext
    cases input with
    | call origin call =>
        obtain ⟨hwasm, hok⟩ := Option.ite_none_right_eq_some.mp hnext
        exact ⟨hwasm, outcome_eq_some.mp hok⟩
    | moveTokens token => exact Option.some.inj (Option.ite_none_right_eq_some.mp hnext).2
  have hbecomes : GuarantorVault.Becomes (.setSettlement ⟨7⟩) t.pre.state t.post.state :=
    ⟨by rw [hbefore]; decide, hafter⟩
  obtain ⟨secs, hprovenance⟩ := (governance_provenance.1 _
    (fun _ => GuarantorVault.tableToken.client_keepsSettings) _ _ _ hruns).1
  have hwhole : (GuarantorVault.openMachine (fun _ => GuarantorVault.tableToken.client) ⟨0⟩).Run
      ([] ++ t :: older) s := hruns
  exact ⟨t, older, secs, hwhole.split, hnow, hbecomes, hadmin,
    hprovenance.changes [] t older _ rfl hbecomes⟩

end RemitCollateral.Protocol
