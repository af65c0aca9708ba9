import RemitCollateral.GuarantorVault.Audit
import RemitCollateral.GuarantorVault.Solvency
import RemitCollateral.Host.Totals

/-! # The vault's cash book

Which tokens the vault holds, to the last one. The vault moves tokens in three operations, between
its own account and one other. What it holds beyond the collateral of all guarantors is what it held
to begin with, what somebody sent it without depositing, and what it was made to pay itself; no call
takes any of that out again. -/

namespace RemitCollateral.GuarantorVault

open Soroban

/-! ## What a call books -/

/-- What paying `amount` from `src` to `dst` adds to the balance of `a`. -/
def paid (src dst : Address) (amount : ℤ) (a : Address) : ℤ :=
  (if a = dst then amount else 0) - (if a = src then amount else 0)

/-- What a call of the vault at `here` in state `s` adds to the token balance of `a`. -/
def Call.cash (here : Address) (s : State) (a : Address) : Call → ℤ
  | .deposit guarantor amount => paid guarantor here amount a
  | .withdraw guarantor amount => paid here guarantor amount a
  | .forfeitCollateral _ _ amount =>
      s.settlementAddress.elim 0 fun settlement => paid here settlement amount a
  | _ => 0

/-- What it adds to the collateral of all guarantors together. -/
def Call.collateralChange (call : Call) : ℤ := call.operation.elim 0 Operation.collateralChange

/-- What it makes the vault pay itself. -/
def Call.stranded (here : Address) (s : State) : Call → ℤ
  | .withdraw guarantor amount => if guarantor = here then amount else 0
  | .forfeitCollateral _ _ amount => if s.settlementAddress = some here then amount else 0
  | _ => 0

variable {T : Type} (tok : StandardToken T) (here : Address)

/-- What an input of a run adds to the token balance of `a`. -/
def Input.cash (a : Address) (w : World T) : Input T → ℤ
  | .call _ made => made.cash here w.vault a
  | .moveTokens token => tok.balance token a - tok.balance w.token a

/-- What an input leaves in the vault for nobody. -/
def Input.stranded (w : World T) : Input T → ℤ
  | .call _ made => made.stranded here w.vault
  | .moveTokens token => tok.balance token here - tok.balance w.token here

/-- The tokens the vault holds for nobody. -/
noncomputable def surplus (w : World T) : ℤ :=
  tok.balance w.token here - ∑ᶠ g, w.vault.collateralBalance g

variable {tok here}

section Calls

variable {env : Env} {w w' : World T} {call : Call}

theorem balance_of_transfer {t t' : T} {src dst : Address} {amount : ℤ}
    (h : tok.transfer t src dst amount = some t') (a : Address) :
    tok.balance t' a = tok.balance t a + paid src dst amount a := by
  rw [tok.transfer_moves h a, paid]
  omega

/-- Every call moves the tokens it books. -/
theorem Effect.cash (h : Effect env tok w w' call) (a : Address) :
    tok.balance w'.token a =
      tok.balance w.token a + call.cash env.currentContract w.vault a := by
  cases call with
  | deposit g amount =>
      obtain ⟨-, -, t', ht, -, -, rfl⟩ := h
      exact balance_of_transfer ht a
  | withdraw g amount =>
      obtain ⟨-, -, -, t', ht, rfl⟩ := h
      exact balance_of_transfer ht a
  | lockCollateral caller g amount =>
      obtain ⟨-, -, -, -, rfl⟩ := h
      exact (add_zero _).symm
  | releaseCollateral caller g amount =>
      obtain ⟨-, -, -, -, rfl⟩ := h
      exact (add_zero _).symm
  | forfeitCollateral caller g amount =>
      obtain ⟨-, -, -, -, settlement, hsettlement, t', ht, rfl⟩ := h
      rw [Call.cash, hsettlement, Option.elim_some]
      exact balance_of_transfer ht a
  | _ =>
      rw [h.2]
      exact (add_zero _).symm

/-- Replacing one record changes the total by what it changes the record. -/
theorem finsum_adjust (hfin : (Function.support w.vault.collateralBalance).Finite) (topic : Topic)
    (g : Address) (amount balance locked : ℤ) :
    ∑ᶠ g', (w.vault.adjust env topic g amount balance locked).collateralBalance g' =
      ∑ᶠ g', w.vault.collateralBalance g' + (balance - w.vault.collateralBalance g) := by
  rw [Pool.finsum_eq_add_sub hfin (i := g) fun g' hne => by
    rw [collateralBalance_adjust, if_neg hne], collateralBalance_adjust, if_pos rfl]

/-- Every call changes the total of all records as it is to. -/
theorem Effect.total (h : Effect env tok w w' call)
    (hfin : (Function.support w.vault.collateralBalance).Finite) :
    ∑ᶠ g, w'.vault.collateralBalance g =
      ∑ᶠ g, w.vault.collateralBalance g + call.collateralChange := by
  cases call with
  | deposit g amount =>
      obtain ⟨-, -, t', -, -, -, rfl⟩ := h
      rw [finsum_adjust hfin, add_sub_cancel_left]
      rfl
  | withdraw g amount =>
      obtain ⟨-, -, -, t', -, rfl⟩ := h
      rw [finsum_adjust hfin, sub_sub_cancel_left]
      rfl
  | lockCollateral caller g amount =>
      obtain ⟨-, -, -, -, rfl⟩ := h
      rw [finsum_adjust hfin, sub_self]
      rfl
  | releaseCollateral caller g amount =>
      obtain ⟨-, -, -, -, rfl⟩ := h
      rw [finsum_adjust hfin, sub_self]
      rfl
  | forfeitCollateral caller g amount =>
      obtain ⟨-, -, -, -, settlement, -, t', -, rfl⟩ := h
      rw [finsum_adjust hfin, sub_sub_cancel_left]
      rfl
  | _ =>
      rw [show w'.vault.collateralBalance = w.vault.collateralBalance from
        funext h.1.collateralBalance]
      exact (add_zero _).symm

/-- What a call adds to the vault's tokens is collateral, or stranded there. -/
theorem Effect.cash_here (h : Effect env tok w w' call) :
    call.cash env.currentContract w.vault env.currentContract =
      call.collateralChange + call.stranded env.currentContract w.vault := by
  cases call with
  | deposit g amount =>
      obtain ⟨-, -, t', -, hne, -, -⟩ := h
      show paid g env.currentContract amount env.currentContract = amount + 0
      rw [paid, if_pos rfl, if_neg (Ne.symm hne)]
      omega
  | withdraw g amount =>
      show paid env.currentContract g amount env.currentContract =
        -amount + if g = env.currentContract then amount else 0
      rw [paid, if_pos rfl, if_congr eq_comm rfl rfl]
      omega
  | forfeitCollateral caller g amount =>
      obtain ⟨-, -, -, -, settlement, hsettlement, -⟩ := h
      show w.vault.settlementAddress.elim 0 _ =
        -amount + if w.vault.settlementAddress = some env.currentContract then amount else 0
      rw [hsettlement, Option.elim_some, paid, if_pos rfl, if_congr Option.some_inj rfl rfl,
        if_congr eq_comm rfl rfl]
      omega
  | _ => rfl

/-- Nothing is stranded that was not paid. -/
theorem Effect.stranded_nonneg (h : Effect env tok w w' call) :
    0 ≤ call.stranded env.currentContract w.vault := by
  cases call with
  | withdraw g amount =>
      obtain ⟨-, hpos, -⟩ := h
      rw [Call.stranded]
      split <;> omega
  | forfeitCollateral caller g amount =>
      obtain ⟨-, -, hpos, -⟩ := h
      rw [Call.stranded]
      split <;> omega
  | _ => exact le_refl _

end Calls

/-! ## What a run books -/

section Runs

variable {tokens : Address → TokenClient T} {clock : Clock} {w w' : World T} {input : Input T}

/-- Every input moves the tokens it books. -/
theorem cash_act (hsolvent : Solvent tokens tok here w)
    (hact : (machine tokens tok here).act clock w input w') (a : Address) :
    tok.balance w'.token a = tok.balance w.token a + input.cash tok here a w := by
  cases input with
  | call origin call =>
      have heffect := exec_effect hsolvent.sound hsolvent.uses hact.2
      rw [heffect.cash a, Input.cash, origin.env_currentContract clock here]
  | moveTokens token =>
      obtain ⟨-, rfl⟩ := hact
      exact (add_sub_cancel _ _).symm

/-- Every input leaves in the vault for nobody what it books. -/
theorem surplus_act (hsolvent : Solvent tokens tok here w)
    (hact : (machine tokens tok here).act clock w input w') :
    surplus tok here w' = surplus tok here w + input.stranded tok here w ∧
      0 ≤ input.stranded tok here w := by
  cases input with
  | call origin call =>
      have heffect := exec_effect hsolvent.sound hsolvent.uses hact.2
      have hself := origin.env_currentContract clock here
      have hcash := heffect.cash here
      have hhere := heffect.cash_here
      have hnonneg := heffect.stranded_nonneg
      rw [hself] at hcash hhere hnonneg
      refine ⟨?_, hnonneg⟩
      show surplus tok here w' = surplus tok here w + call.stranded here w.vault
      rw [surplus, hcash, hhere, heffect.total hsolvent.finite, surplus]
      omega
  | moveTokens token =>
      obtain ⟨hle, rfl⟩ := hact
      refine ⟨?_, Int.sub_nonneg.mpr hle⟩
      show tok.balance token here - ∑ᶠ g, w.vault.collateralBalance g =
        tok.balance w.token here - ∑ᶠ g, w.vault.collateralBalance g +
          (tok.balance token here - tok.balance w.token here)
      omega

/-- No step lowers the surplus. -/
theorem surplus_step {s s' : Timed (World T)} {input : Option (Input T)}
    (hreach : (machine tokens tok here).Reachable s)
    (hstep : (machine tokens tok here).Step s input s') :
    surplus tok here s.state ≤ surplus tok here s'.state := by
  cases hstep with
  | tick => exact le_refl _
  | call acts =>
      obtain ⟨hchanges, hnonneg⟩ := surplus_act (.of_reachable hreach) acts
      rw [hchanges]
      exact le_add_of_nonneg_right hnonneg

/-- A fresh vault owes nothing. -/
theorem surplus_initial {s : Timed (World T)} (h : (machine tokens tok here).initial s) :
    surplus tok here s.state = tok.balance s.state.token here := by
  obtain ⟨origin, admin, usdc, settlement, timelockSecs, -, hvault⟩ := h
  rw [surplus, hvault]
  show _ - ∑ᶠ _ : Address, (0 : ℤ) = _
  rw [finsum_zero, sub_zero]

/-- **Every token is accounted for.** In every run of the vault against a standard token, the
balance of every address is what it was, what moved without the vault, and what the deposits,
withdrawals and forfeits that name the address moved. What the vault holds beyond the collateral of
all guarantors together is what it held when it was deployed, what it was sent without a deposit,
and what it was made to pay to its own address; nothing ever takes any of it out again. -/
theorem tokens_accounted {history : List (Transition (World T) (Input T))} {s : Timed (World T)}
    (hrun : (machine tokens tok here).Run history s) :
    let start := Machine.opening history s
    (∀ a, tok.balance s.state.token a = tok.balance start.state.token a +
      (history.map (Machine.booked (Input.cash tok here a))).sum) ∧
    ((Function.support s.state.vault.collateralBalance).Finite ∧
      surplus tok here s.state = tok.balance start.state.token here +
        (history.map (Machine.booked (Input.stranded tok here))).sum) ∧
    ∀ t ∈ history, surplus tok here t.pre.state ≤ surplus tok here t.post.state ∧
      surplus tok here t.post.state ≤ surplus tok here s.state := by
  intro start
  refine ⟨?_, ⟨(Solvent.of_reachable hrun.reachable).finite, ?_⟩, ?_⟩
  · intro a
    exact hrun.eq_opening_add_sum fun hreach hact => cash_act (.of_reachable hreach) hact a
  · rw [← surplus_initial hrun.initial_opening]
    exact hrun.eq_opening_add_sum fun hreach hact => (surplus_act (.of_reachable hreach) hact).1
  · intro t hmem
    obtain ⟨hreach, hstep⟩ := hrun.step_of_mem hmem
    refine ⟨surplus_step hreach hstep, ?_⟩
    -- what one step does not lower, the steps that follow do not
    obtain ⟨newer, older, rfl⟩ := List.append_of_mem hmem
    exact hrun.since (P := fun x => surplus tok here t.post.state ≤ surplus tok here x.state)
      (fun hreach hstep hle => hle.trans (surplus_step hreach hstep)) (le_refl _)

end Runs

/-- A vault that is its own settlement address: of the 60 that guarantor 4 deposits, 30 are
forfeited, and somebody sends the vault 7. It holds 67, of which 37 are nobody's. -/
theorem tokens_accounted_ownSettlement : ∃ history s,
    (machine (fun _ => tableToken.client) tableToken ⟨0⟩).Run history s ∧
    tableToken.balance s.state.token ⟨0⟩ = 67 ∧ tableToken.balance s.state.token ⟨4⟩ = 40 ∧
    surplus tableToken ⟨0⟩ s.state = 37 := by
  let origin : Origin := ⟨none, [⟨1⟩, ⟨2⟩, ⟨3⟩, ⟨4⟩], 0⟩
  let inputs : List (Input (Address → ℕ)) :=
    [.call origin (.setLoanLedger ⟨1⟩ ⟨2⟩), .call origin (.setLiquidationEngine ⟨1⟩ ⟨3⟩),
      .call origin (.deposit ⟨4⟩ 60), .call origin (.lockCollateral ⟨2⟩ ⟨4⟩ 40),
      .call origin (.forfeitCollateral ⟨3⟩ ⟨4⟩ 30),
      .moveTokens fun a => if a = ⟨0⟩ then 67 else if a = ⟨4⟩ then 40 else 0]
  have hplayed : (play ⟨0⟩ origin ⟨1⟩ ⟨0⟩ (fun a => if a = ⟨4⟩ then 100 else 0)
      (inputs.map fun input => (⟨0, 0⟩, input))).any (fun run =>
        tableToken.balance run.2.state.token ⟨0⟩ = 67 ∧
          tableToken.balance run.2.state.token ⟨4⟩ = 40 ∧
          tableToken.balance (Machine.opening run.1 run.2).state.token ⟨0⟩ = 0 ∧
          (run.1.map (Machine.booked (Input.stranded tableToken ⟨0⟩))).sum = 37) = true := by
    decide +kernel
  obtain ⟨⟨history, s⟩, hrun, hchecked⟩ := Option.any_eq_true _ _ |>.mp hplayed
  obtain ⟨hvault, hguarantor, hopening, hstranded⟩ := of_decide_eq_true hchecked
  have hruns := play_run hrun
  obtain ⟨-, ⟨-, hsurplus⟩, -⟩ := tokens_accounted hruns
  refine ⟨history, s, hruns, hvault, hguarantor, ?_⟩
  rw [hsurplus, hopening, hstranded]
  rfl

end RemitCollateral.GuarantorVault
