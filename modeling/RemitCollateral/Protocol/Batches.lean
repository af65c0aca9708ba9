import RemitCollateral.Host.Batches
import RemitCollateral.Protocol.Commutation

/-! # The order of operations within a ledger

Whoever assembles a ledger may order the repayments, flags, liquidations and pokes it contains as
they please. Only the order of the operations on one loan matters: settling loan by loan gives each
loan the same results whatever happens to other loans in between. -/

namespace RemitCollateral.Protocol

open Soroban

variable {T : Type} {d : Deployment} {tokens : Address → GuarantorVault.TokenClient T}
  {tok : GuarantorVault.StandardToken T} {clock : Clock} {s s' s'' : System T}

/-! ## Systems that operations cannot tell apart -/

/-- Two systems with the same loans, markers, vault records, balances and settings; what is left
are events and lifetimes. -/
structure System.Agrees (tok : GuarantorVault.StandardToken T) (s s' : System T) : Prop where
  loans : s.loans = s'.loans
  openLoans : s.ledger.openLoans = s'.ledger.openLoans
  vaults : s.world.vault.vaults = s'.world.vault.vaults
  balance : ∀ a, tok.balance s.world.token a = tok.balance s'.world.token a
  settlement : s.world.vault.settlementAddress = s'.world.vault.settlementAddress
  partners : s.ledger.partners = s'.ledger.partners
  verifiers : s.ledger.verifiers = s'.ledger.verifiers
  paused : LiquidationEngine.paused s.engine = LiquidationEngine.paused s'.engine

namespace System.Agrees

theorem refl (s : System T) : s.Agrees tok s := ⟨rfl, rfl, rfl, fun _ => rfl, rfl, rfl, rfl, rfl⟩

theorem symm (h : s.Agrees tok s') : s'.Agrees tok s where
  loans := h.loans.symm
  openLoans := h.openLoans.symm
  vaults := h.vaults.symm
  balance a := (h.balance a).symm
  settlement := h.settlement.symm
  partners := h.partners.symm
  verifiers := h.verifiers.symm
  paused := h.paused.symm

theorem trans (h : s.Agrees tok s') (h' : s'.Agrees tok s'') : s.Agrees tok s'' where
  loans := h.loans.trans h'.loans
  openLoans := h.openLoans.trans h'.openLoans
  vaults := h.vaults.trans h'.vaults
  balance a := (h.balance a).trans (h'.balance a)
  settlement := h.settlement.trans h'.settlement
  partners := h.partners.trans h'.partners
  verifiers := h.verifiers.trans h'.verifiers
  paused := h.paused.trans h'.paused

theorem equivalence : Equivalence (System.Agrees tok) := ⟨refl, symm, trans⟩

/-- A change takes systems that agree to systems that agree. -/
theorem applies {change : Option Change} {s₁ s₁' : System T} (h : s.Agrees tok s')
    (hsettled : s.world.vault.settlementAddress.isSome) (h₁ : Applies d tok change s s₁)
    (h₁' : Applies d tok change s' s₁') : s₁.Agrees tok s₁' := by
  obtain ⟨settlement, hsettlement⟩ := Option.isSome_iff_exists.mp hsettled
  refine { loans := ?_, openLoans := ?_, vaults := ?_, balance := fun a => ?_, settlement := ?_,
           partners := ?_, verifiers := ?_, paused := ?_ }
  · rw [h₁.loans, h₁'.loans, h.loans]
  · rw [h₁.openLoans, h₁'.openLoans, h.openLoans]
  · rw [h₁.world.vaults, h₁'.world.vaults, h.vaults]
  · rw [h₁.world.balance settlement hsettlement, h.balance,
      h₁'.world.balance settlement (h.settlement.symm.trans hsettlement)]
  · rw [h₁.world.settlement, h₁'.world.settlement, h.settlement]
  · rw [h₁.partners, h₁'.partners, h.partners]
  · rw [h₁.verifiers, h₁'.verifiers, h.verifiers]
  · rw [h₁.paused, h₁'.paused, h.paused]

/-- Changes to different loans leave systems that agree in either order. -/
theorem either_order {change change' : Option Change} {s₁ s₂ s₁₂ s₂₁ : System T}
    (hne : ∀ c ∈ change, ∀ c' ∈ change', c.loan.id ≠ c'.loan.id)
    (hsettled : s.world.vault.settlementAddress.isSome) (h₁ : Applies d tok change s s₁)
    (h₁₂ : Applies d tok change' s₁ s₁₂) (h₂ : Applies d tok change' s s₂)
    (h₂₁ : Applies d tok change s₂ s₂₁) : s₁₂.Agrees tok s₂₁ := by
  obtain ⟨hloans, hvaults, hmarkers, hbalances⟩ := applies_agree hne hsettled h₁ h₁₂ h₂ h₂₁
  refine { loans := hloans, openLoans := hmarkers, vaults := hvaults, balance := hbalances,
           settlement := ?_, partners := ?_, verifiers := ?_, paused := ?_ }
  · rw [h₁₂.world.settlement, h₁.world.settlement, h₂₁.world.settlement, h₂.world.settlement]
  · rw [h₁₂.partners, h₁.partners, h₂₁.partners, h₂.partners]
  · rw [h₁₂.verifiers, h₁.verifiers, h₂₁.verifiers, h₂.verifiers]
  · rw [h₁₂.paused, h₁.paused, h₂₁.paused, h₂.paused]

end System.Agrees

/-! ## Operations in a batch -/

variable (d tokens clock) in
/-- Run one operation of a batch, each with its own signers. -/
def perform (op : Origin × Operation) : System T → Option (Returned × System T) :=
  op.2.run d tokens op.1 clock

/-- The loan an operation of a batch is about. -/
def concerns (op : Origin × Operation) : ℕ := op.2.loanId

variable (d tokens tok clock) in
/-- Operations are exchanged across loans. -/
theorem perform_itemwise : Itemwise (System.Settled d tokens tok clock) (System.Agrees tok) concerns
    (perform d tokens clock) where
  equivalence := System.Agrees.equivalence
  keeps := by
    intro op value s s' hs hop
    obtain ⟨change, hplan⟩ := (operation_planned d tokens tok op.1 clock op.2).planned hs hop
    exact (hplan.applies hs hop).2
  congr := by
    intro op value s s' s₁ hs hs' hagrees hop
    obtain ⟨change, hplan⟩ := (operation_planned d tokens tok op.1 clock op.2).planned hs hop
    -- the plan reads only what agrees
    have hplan' : Plans d op.1 clock s' op.2 value change :=
      hplan.congr (congrFun hagrees.loans.symm _) hagrees.partners.symm hagrees.verifiers.symm
        hagrees.paused.symm
    obtain ⟨s₁', hop'⟩ := hplan'.succeeds hs'
    exact ⟨s₁', hop', hagrees.applies hs.1.solvent.settled (hplan.applies hs hop).1
      (hplan'.applies hs' hop').1⟩
  exchange := by
    intro op op' value value' s s₁ s₁₂ hne hs hfirst hsecond
    obtain ⟨s₂, s₂₁, change, change', hsecond', hfirst', ⟨hplan, hplan'⟩, ⟨h₁, h₁₂⟩, h₂, h₂₁⟩ :=
      (operation_planned d tokens tok op.1 clock op.2).either_order
        (operation_planned d tokens tok op'.1 clock op'.2)
        (operation_leaves d tokens tok clock hne op.1 op'.1)
        (operation_leaves d tokens tok clock (Ne.symm hne) op'.1 op.1) hs hfirst hsecond
    have hdistinct : ∀ c ∈ change, ∀ c' ∈ change', c.loan.id ≠ c'.loan.id := by
      intro c hc c' hc'
      rw [hplan.id_eq hs.1 c hc, hplan'.id_eq hs.1 c' hc']
      exact hne
    exact ⟨s₂, s₂₁, hsecond', hfirst', .either_order hdistinct hs.1.solvent.settled h₁ h₁₂ h₂ h₂₁⟩

/-- What a batch relies on holds in every reachable state. -/
theorem System.Settled.of_reachable {s : Timed (System T)}
    (h : (machine d tokens tok).Reachable s) :
    s.state.Settled d tokens tok s.clock :=
  ⟨System.Sound.of_reachable h, System.Balanced.of_reachable h⟩

open Itemwise (onItem receiptsOn)

/-- **Ordering.** In every reachable state, take any batch of repayments, flags, liquidations and
pokes of any loans by any signers that goes through in one ledger. However it is reordered, if the
operations on each loan keep their order then the batch still goes through, every operation returns
what it returned, and all loans, vault records, open-loan markers and token balances end the
same. -/
theorem batch_order_immaterial {s : Timed (System T)} (h : (machine d tokens tok).Reachable s)
    {batch batch' : List (Origin × Operation)}
    (hsame : ∀ id, onItem concerns id batch = onItem concerns id batch')
    {receipts : List ((Origin × Operation) × Returned)} {t : System T}
    (hbatch : runBatch (perform d tokens s.clock) batch s.state = some (receipts, t)) :
    ∃ receipts' t', runBatch (perform d tokens s.clock) batch' s.state = some (receipts', t') ∧
      (∀ id, receiptsOn concerns id receipts' = receiptsOn concerns id receipts) ∧
      t'.loans = t.loans ∧ t'.world.vault.vaults = t.world.vault.vaults ∧
      t'.ledger.openLoans = t.ledger.openLoans ∧
      ∀ a, tok.balance t'.world.token a = tok.balance t.world.token a := by
  obtain ⟨receipts', t', hbatch', hagrees, hreceipts⟩ :=
    (perform_itemwise d tokens tok s.clock).runBatch_of_onItem (.of_reachable h) hsame hbatch
  exact ⟨receipts', t', hbatch', hreceipts, hagrees.loans.symm, hagrees.vaults.symm,
    hagrees.openLoans.symm, fun a => (hagrees.balance a).symm⟩

/-- Two loans of one guarantor: the first is flagged and then partly repaid, the second is repaid
twice. However the four operations are interleaved, the outcome is that of settling loan after
loan. -/
theorem batch_order_immaterial_interleaved : ∃ history s receipts t receipts' t',
    sampleMachine.Run history s ∧
    runBatch (perform sample (fun _ => GuarantorVault.tableToken.client) s.clock)
      [(sampleOrigin, .flagOverdue 1), (sampleOrigin, .attestRepayment ⟨5⟩ ⟨6⟩ 1 30),
        (sampleOrigin, .attestRepayment ⟨5⟩ ⟨6⟩ 2 20),
        (sampleOrigin, .attestRepayment ⟨5⟩ ⟨6⟩ 2 10)] s.state = some (receipts, t) ∧
    runBatch (perform sample (fun _ => GuarantorVault.tableToken.client) s.clock)
      [(sampleOrigin, .attestRepayment ⟨5⟩ ⟨6⟩ 2 20), (sampleOrigin, .flagOverdue 1),
        (sampleOrigin, .attestRepayment ⟨5⟩ ⟨6⟩ 2 10),
        (sampleOrigin, .attestRepayment ⟨5⟩ ⟨6⟩ 1 30)] s.state = some (receipts', t') ∧
    t'.world.vault.vaults = t.world.vault.vaults := by
  obtain ⟨history, s, hrun, hbatch⟩ := exists_run_of_playLoan
    (P := fun _ s => (runBatch (perform sample (fun _ => GuarantorVault.tableToken.client) s.clock)
      [(sampleOrigin, .flagOverdue 1), (sampleOrigin, .attestRepayment ⟨5⟩ ⟨6⟩ 1 30),
        (sampleOrigin, .attestRepayment ⟨5⟩ ⟨6⟩ 2 20),
        (sampleOrigin, .attestRepayment ⟨5⟩ ⟨6⟩ 2 10)] s.state).isSome = true)
    (show (playLoan [(0, .ledger (.originate ⟨4⟩ 8 ⟨5⟩ 120 3 86400)),
      (86401, .ledger (.isOverdue 1))]).any _ = true by decide +kernel)
  obtain ⟨⟨receipts, t⟩, hbatch⟩ := Option.isSome_iff_exists.mp hbatch
  have hsame : ∀ id, onItem concerns id
      [(sampleOrigin, Operation.flagOverdue 1), (sampleOrigin, .attestRepayment ⟨5⟩ ⟨6⟩ 1 30),
        (sampleOrigin, .attestRepayment ⟨5⟩ ⟨6⟩ 2 20),
        (sampleOrigin, .attestRepayment ⟨5⟩ ⟨6⟩ 2 10)] = onItem concerns id
      [(sampleOrigin, .attestRepayment ⟨5⟩ ⟨6⟩ 2 20), (sampleOrigin, .flagOverdue 1),
        (sampleOrigin, .attestRepayment ⟨5⟩ ⟨6⟩ 2 10),
        (sampleOrigin, .attestRepayment ⟨5⟩ ⟨6⟩ 1 30)] := by
    intro id
    by_cases hfirst : 1 = id
    · subst hfirst
      rfl
    · by_cases hsecond : 2 = id
      · subst hsecond
        rfl
      · simp [onItem, concerns, Operation.loanId, hfirst, hsecond]
  obtain ⟨receipts', t', hbatch', -, -, hvaults, -⟩ :=
    batch_order_immaterial hrun.reachable hsame hbatch
  exact ⟨history, s, receipts, t, receipts', t', hrun, hbatch, hbatch', hvaults⟩

end RemitCollateral.Protocol
