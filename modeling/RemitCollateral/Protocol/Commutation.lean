import RemitCollateral.Host.Commutation
import RemitCollateral.Protocol.Cranks

/-! # Settlements of different loans commute

Loans of one guarantor share a record of the vault, and all loans share its pool of tokens. Still an
operation on a loan is planned from that loan alone, and what it does to records and balances is to
subtract: two loans can be settled in either order. -/

namespace RemitCollateral

open Soroban

namespace GuarantorVault

/-! ## Debits -/

/-- Take `balance` out of the record of `g`, and `locked` out of its locked part. -/
def debit (g : Address) (balance locked : ℤ) (vaults : Address → Option Vault) :
    Address → Option Vault :=
  let position := (vaults g).getD { guarantor := g, collateralBalance := 0, lockedAmount := 0 }
  Function.update vaults g (some
    { guarantor := g
      collateralBalance := position.collateralBalance - balance
      lockedAmount := position.lockedAmount - locked })

/-- Debits of one record or of two commute. -/
theorem debit_commute (g g' : Address) (balance locked balance' locked' : ℤ) :
    Function.Commute (debit g balance locked) (debit g' balance' locked') := by
  intro vaults
  by_cases heq : g = g'
  · subst heq
    simp only [debit, Function.update_self, Option.getD_some, Function.update_idem]
    rw [sub_right_comm, sub_right_comm (b := locked')]
  · simp only [debit, Function.update_of_ne heq, Function.update_of_ne (Ne.symm heq)]
    rw [Function.update_comm heq]

/-- The record after a call that is made for a positive amount only. -/
def debitPositive (amount : ℤ) (g : Address) (balance locked : ℤ) :
    (Address → Option Vault) → Address → Option Vault :=
  if 0 < amount then debit g balance locked else id

theorem debitPositive_commute (amount amount' : ℤ) (g g' : Address)
    (balance locked balance' locked' : ℤ) :
    Function.Commute (debitPositive amount g balance locked)
      (debitPositive amount' g' balance' locked') := by
  unfold debitPositive
  split <;> split
  · exact debit_commute g g' balance locked balance' locked'
  · exact Function.Commute.id_right
  · exact Function.Commute.id_left
  · exact Function.Commute.id_left

/-- The records after `forfeited` was seized from `g` and `returned` was given back to it. -/
def settle (g : Address) (forfeited returned : ℤ) :
    (Address → Option Vault) → Address → Option Vault :=
  debitPositive returned g 0 returned ∘ debitPositive forfeited g forfeited forfeited

/-- Settlements commute, also those of one record. -/
theorem settle_commute (g g' : Address) (forfeited returned forfeited' returned' : ℤ) :
    Function.Commute (settle g forfeited returned) (settle g' forfeited' returned') := by
  unfold settle
  apply Function.Commute.comp_left
  · apply Function.Commute.comp_right <;> apply debitPositive_commute
  · apply Function.Commute.comp_right <;> apply debitPositive_commute

end GuarantorVault

namespace Protocol

open LoanLedger (Loan)
open GuarantorVault (debitPositive settle)

variable {T : Type} {d : Deployment} {tokens : Address → GuarantorVault.TokenClient T}
  {tok : GuarantorVault.StandardToken T} {origin : Origin} {clock : Clock} {s s' : System T}

/-! ## What settling does to the vault -/

/-- What the balance of `a` gains when the vault pays `amount` to `settlement`. -/
def gained (vault settlement : Address) (amount : ℤ) (a : Address) : ℤ :=
  (if a = settlement then amount else 0) - if a = vault then amount else 0

theorem gained_zero (vault settlement a : Address) : gained vault settlement 0 a = 0 := by
  simp [gained]

theorem gained_add (vault settlement : Address) (amount amount' : ℤ) (a : Address) :
    gained vault settlement (amount + amount') a =
      gained vault settlement amount a + gained vault settlement amount' a := by
  unfold gained
  split <;> split <;> ring

variable (d tok) in
/-- The vault changed its records by `change` and paid `forfeited` to the settlement address. -/
structure Settles (change : (Address → Option GuarantorVault.Vault) →
    Address → Option GuarantorVault.Vault) (forfeited : ℤ) (w w' : GuarantorVault.World T) :
    Prop where
  vaults : w'.vault.vaults = change w.vault.vaults
  settlement : w'.vault.settlementAddress = w.vault.settlementAddress
  balance : ∀ settlement, w.vault.settlementAddress = some settlement → ∀ a,
    tok.balance w'.token a = tok.balance w.token a + gained d.vault settlement forfeited a

namespace Settles

variable {change change' : (Address → Option GuarantorVault.Vault) →
    Address → Option GuarantorVault.Vault} {amount amount' : ℤ}
  {w w₁ w₂ w' : GuarantorVault.World T}

theorem refl (w : GuarantorVault.World T) : Settles d tok id 0 w w where
  vaults := rfl
  settlement := rfl
  balance settlement _ a := by rw [gained_zero, add_zero]

theorem trans (h : Settles d tok change amount w w₁) (h' : Settles d tok change' amount' w₁ w₂) :
    Settles d tok (change' ∘ change) (amount + amount') w w₂ where
  vaults := by rw [h'.vaults, h.vaults, Function.comp_apply]
  settlement := h'.settlement.trans h.settlement
  balance settlement hsettlement a := by
    rw [h'.balance settlement (h.settlement.trans hsettlement), h.balance settlement hsettlement,
      gained_add, add_assoc]

/-- What the vault did determines its records and all balances. -/
theorem agree (h : Settles d tok change amount w w₁) (h' : Settles d tok change amount w w₂)
    (hsettled : w.vault.settlementAddress.isSome) :
    w₁.vault.vaults = w₂.vault.vaults ∧ ∀ a, tok.balance w₁.token a = tok.balance w₂.token a := by
  obtain ⟨settlement, hsettlement⟩ := Option.isSome_iff_exists.mp hsettled
  refine ⟨h.vaults.trans h'.vaults.symm, fun a => ?_⟩
  rw [h.balance settlement hsettlement, h'.balance settlement hsettlement]

end Settles

section Vault

variable {now : ℕ} {env : Env} {caller guarantor : Address} {amount forfeited rest : ℤ}
  {w' : GuarantorVault.World T}

/-- A release debits what is locked and moves no tokens. -/
theorem release_settles (h : s.Sound d tokens tok now)
    (hok : GuarantorVault.exec tokens env (.releaseCollateral caller guarantor amount) s.world =
      .ok w') : Settles d tok (debitPositive amount guarantor 0 amount) 0 s.world w' := by
  obtain ⟨-, -, hpos, -, rfl⟩ := GuarantorVault.exec_effect h.solvent.sound h.solvent.uses hok
  refine { vaults := ?_, settlement := rfl, balance := fun settlement _ a => ?_ }
  · rw [debitPositive, if_pos hpos, GuarantorVault.vaults_adjust, GuarantorVault.debit, sub_zero]
    rfl
  · rw [gained_zero, add_zero]

/-- A forfeit debits the record and pays the settlement address. -/
theorem forfeit_settles (h : s.Sound d tokens tok now) (hself : env.currentContract = d.vault)
    (hok : GuarantorVault.exec tokens env (.forfeitCollateral caller guarantor amount) s.world =
      .ok w') : Settles d tok (debitPositive amount guarantor amount amount) amount s.world w' := by
  obtain ⟨-, -, hpos, -, settlement, hsettlement, t', htransfer, rfl⟩ :=
    GuarantorVault.exec_effect h.solvent.sound h.solvent.uses hok
  rw [hself] at htransfer
  refine { vaults := ?_, settlement := rfl, balance := fun other hother a => ?_ }
  · rw [debitPositive, if_pos hpos, GuarantorVault.vaults_adjust, GuarantorVault.debit]
    rfl
  · obtain rfl : settlement = other := Option.some.inj (hsettlement.symm.trans hother)
    rw [tok.transfer_moves htransfer a, gained]
    ring

/-- The vault call of a repayment, if it makes one. -/
theorem releases_settles (h : s.Sound d tokens tok now)
    (hreleases : LoanLedger.Releases (ledgerVaults d tokens) env s.ledger guarantor amount s.world
      w') : Settles d tok (settle guarantor 0 amount) 0 s.world w' := by
  have hsettle : settle guarantor 0 amount = debitPositive amount guarantor 0 amount := rfl
  rw [hsettle]
  rcases h.wired.releaseCall hreleases with ⟨-, hcall⟩ | ⟨hpos, rfl⟩
  · exact release_settles h hcall
  · rw [debitPositive, if_neg hpos]
    exact .refl _

/-- The vault calls of a settlement, those it makes. -/
theorem settleCollateral_settles (h : s.Sound d tokens tok now) (h0 : 0 ≤ forfeited)
    {x' : LoanLedger.State × GuarantorVault.World T}
    (hok : LiquidationEngine.settleCollateral (engineVaults d tokens) env guarantor forfeited rest
      s.engine (s.ledger, s.world) = .ok x') :
    Settles d tok (settle guarantor forfeited rest) forfeited s.world x'.2 := by
  obtain ⟨addr, haddr, x₁, hforfeit, hrelease⟩ := LiquidationEngine.settleCollateral_eq_ok.mp hok
  obtain rfl := h.wired.eq_engineVault haddr
  rw [engineVaults_vault] at hforfeit hrelease
  obtain ⟨hseized, hsound₁⟩ :
      Settles d tok (debitPositive forfeited guarantor forfeited forfeited) forfeited s.world x₁.2 ∧
        ({ s with world := x₁.2 } : System T).Sound d tokens tok now := by
    split at hforfeit
    · obtain ⟨w₁, hw₁, rfl⟩ := Option.map_eq_some_iff.mp hforfeit
      have hcall := outcome_eq_some.mp hw₁
      exact ⟨forfeit_settles h rfl hcall, (h.vault rfl hcall).2⟩
    · obtain rfl := Option.some.inj hforfeit
      obtain rfl : forfeited = 0 := le_antisymm (not_lt.mp ‹_›) h0
      exact ⟨.refl _, h⟩
  have hreturned : Settles d tok (debitPositive rest guarantor 0 rest) 0 x₁.2 x'.2 := by
    split at hrelease
    · obtain ⟨w₂, hw₂, rfl⟩ := Option.map_eq_some_iff.mp hrelease
      exact release_settles hsound₁ (outcome_eq_some.mp hw₂)
    · obtain rfl := Option.some.inj hrelease
      rw [debitPositive, if_neg ‹_›]
      exact .refl _
  have hboth := hseized.trans hreturned
  rw [add_zero] at hboth
  exact hboth

end Vault

/-! ## Changes -/

/-- What an operation on one loan changes: the record it writes, and what it takes from the
vault. -/
structure Change where
  loan : Loan
  forfeited : ℤ
  returned : ℤ

namespace Change

/-- The book with the record written. -/
def loans (change : Change) (book : LoanLedger.LoanBook) : LoanLedger.LoanBook :=
  Function.update book change.loan.id (some change.loan)

/-- The markers, without that of the loan if it is closed. -/
def openLoans (change : Change) (markers : Address × BytesN32 → Option ℕ) :
    Address × BytesN32 → Option ℕ :=
  if change.loan.isOpen then markers
  else Function.update markers (change.loan.guarantor, change.loan.beneficiary) none

/-- The vault's records with the collateral taken out. -/
def vaults (change : Change) :
    (Address → Option GuarantorVault.Vault) → Address → Option GuarantorVault.Vault :=
  settle change.loan.guarantor change.forfeited change.returned

theorem loans_commute {change change' : Change} (hne : change.loan.id ≠ change'.loan.id) :
    Function.Commute change.loans change'.loans := by
  intro book
  exact (Function.update_comm hne _ _ book).symm

/-- Dropping markers commutes, also where two loans have one marker. -/
theorem openLoans_commute (change change' : Change) :
    Function.Commute change.openLoans change'.openLoans := by
  intro markers
  unfold openLoans
  split <;> split <;> try rfl
  by_cases heq : (change.loan.guarantor, change.loan.beneficiary) =
      (change'.loan.guarantor, change'.loan.beneficiary)
  · rw [heq]
  · rw [Function.update_comm heq]

theorem vaults_commute (change change' : Change) :
    Function.Commute change.vaults change'.vaults := by
  unfold vaults
  apply GuarantorVault.settle_commute

end Change

variable (d tok) in
/-- An operation made one change or none, and left alone what others of its kind are planned
from. -/
structure Applies (change : Option Change) (s s' : System T) : Prop where
  loans : s'.loans = change.elim id Change.loans s.loans
  openLoans : s'.ledger.openLoans = change.elim id Change.openLoans s.ledger.openLoans
  world : Settles d tok (change.elim id Change.vaults) (change.elim 0 Change.forfeited) s.world
    s'.world
  partners : s'.ledger.partners = s.ledger.partners
  verifiers : s'.ledger.verifiers = s.ledger.verifiers
  paused : LiquidationEngine.paused s'.engine = LiquidationEngine.paused s.engine

/-- Recording a loan applies its change. -/
theorem applies_record {loan : Loan} {forfeited returned : ℤ}
    (hrecord : ∃ ttl, s.ledger.record loan ttl = s'.ledger)
    (hworld : Settles d tok (settle loan.guarantor forfeited returned) forfeited s.world s'.world)
    (hpaused : LiquidationEngine.paused s'.engine = LiquidationEngine.paused s.engine) :
    Applies d tok (some { loan, forfeited, returned }) s s' := by
  obtain ⟨ttl, hrecord⟩ := hrecord
  refine { loans := ?_, openLoans := ?_, world := hworld, partners := ?_, verifiers := ?_,
           paused := hpaused }
  · rw [System.loans, ← hrecord]
    rfl
  · rw [← hrecord]
    rfl
  · rw [← hrecord]
    rfl
  · rw [← hrecord]
    rfl

/-! ## Operations -/

/-- The operations that settle a loan. -/
inductive Operation
  | attestRepayment (partner verifier : Address) (loanId : ℕ) (amountUsd : ℤ)
  | flagOverdue (loanId : ℕ)
  | liquidate (loanId : ℕ)
  | poke (loanId : ℕ)
  deriving DecidableEq, Repr

/-- What an operation returns. -/
inductive Returned
  | released (amount : ℤ)
  | flagged
  | forfeited (amount : ℤ)
  | poked (acted : Bool)
  deriving DecidableEq, Repr

namespace Operation

/-- The loan an operation is about. -/
def loanId : Operation → ℕ
  | .attestRepayment _ _ loanId _ => loanId
  | .flagOverdue loanId => loanId
  | .liquidate loanId => loanId
  | .poke loanId => loanId

variable (d : Deployment) (tokens : Address → GuarantorVault.TokenClient T) (origin : Origin)
  (clock : Clock)

/-- Run an operation: what it returns, and the system it leaves; `none` when it traps. -/
def run : Operation → System T → Option (Returned × System T)
  | .attestRepayment partner verifier loanId amountUsd, s =>
      (attest d tokens origin clock partner verifier loanId amountUsd s).map
        fun result => (.released result.1, result.2)
  | .flagOverdue loanId, s => (Protocol.flagOverdue d origin clock loanId s).map (.flagged, ·)
  | .liquidate loanId, s => (Protocol.liquidate d tokens origin clock loanId s).map
      fun result => (.forfeited result.1, result.2)
  | .poke loanId, s => (Protocol.poke d tokens origin clock loanId s).map
      fun result => (.poked result.1, result.2)

/-- The call of an operation. -/
def call : Operation → Call
  | .attestRepayment partner verifier loanId amountUsd =>
      .ledger (.attestRepayment partner verifier loanId amountUsd)
  | .flagOverdue loanId => .engine (.flagOverdue loanId)
  | .liquidate loanId => .engine (.liquidate loanId)
  | .poke loanId => .engine (.poke loanId)

/-- Running an operation is making its call. -/
theorem exec_call (op : Operation) (s : System T) :
    exec d tokens origin clock s op.call = (op.run d tokens origin clock s).map Prod.snd := by
  cases op with
  | attestRepayment partner verifier loanId amountUsd =>
      rw [call, exec_attestRepayment, run, Option.map_map]
      rfl
  | flagOverdue loanId =>
      rw [call, exec_flagOverdue, run, Option.map_map]
      exact Option.map_id'.symm
  | liquidate loanId =>
      rw [call, exec_liquidate, run, Option.map_map]
      rfl
  | poke loanId =>
      rw [call, exec_poke, run, Option.map_map]
      rfl

end Operation

variable (d origin clock) in
/-- What an operation returns and changes, read off its loan, the registered partners and verifiers,
and the pause. -/
inductive Plans (s : System T) : Operation → Returned → Option Change → Prop
  /-- A repayment returns what is newly earned. -/
  | attest {partner verifier : Address} {loanId : ℕ} {amountUsd r : ℤ} {loan : Loan}
      (checks : LoanLedger.Attestation (origin.env clock d.ledger) partner verifier loanId amountUsd
        s.ledger loan)
      (fits : loan.Fits d.config (loan.totalRepaidUsd + amountUsd))
      (earned : loan.earned d.config (loan.totalRepaidUsd + amountUsd) - loan.collateralReleased =
        r) :
      Plans s (.attestRepayment partner verifier loanId amountUsd) (.released r)
        (some ⟨loan.repay d.config clock.timestamp amountUsd, 0, r⟩)
  /-- An overdue loan is flagged. -/
  | flag {op : Operation} {value : Returned} {loanId : ℕ} {loan : Loan}
      (crank : (op = .flagOverdue loanId ∧ value = .flagged) ∨
        (op = .poke loanId ∧ value = .poked true))
      (running : LiquidationEngine.paused s.engine = false)
      (found : s.loans loanId = some loan) (overdue : loan.Overdue clock.timestamp)
      (deadline : InU64 (clock.timestamp + d.config.gracePeriodSecs)) :
      Plans s op value (some ⟨loan.flag d.config clock.timestamp, 0, 0⟩)
  /-- A loan past its grace is closed, and its collateral divided. -/
  | settle {op : Operation} {value : Returned} {loanId : ℕ} {loan : Loan}
      (crank : (op = .liquidate loanId ∧ value = .forfeited (forfeitable loan)) ∨
        (op = .poke loanId ∧ value = .poked true))
      (running : LiquidationEngine.paused s.engine = false)
      (found : s.loans loanId = some loan) (expired : loan.GraceExpired clock.timestamp) :
      Plans s op value (some ⟨loan.default, forfeitable loan, loan.remaining - forfeitable loan⟩)
  /-- A paused engine declines to poke. -/
  | paused {loanId : ℕ} (paused : LiquidationEngine.paused s.engine = true) :
      Plans s (.poke loanId) (.poked false) none
  /-- A loan due for nothing is left alone. -/
  | idle {loanId : ℕ} {loan : Loan} (running : LiquidationEngine.paused s.engine = false)
      (found : s.loans loanId = some loan) (overdue : ¬ loan.Overdue clock.timestamp)
      (expired : ¬ loan.GraceExpired clock.timestamp) :
      Plans s (.poke loanId) (.poked false) none

section Planned

variable {op : Operation} {value : Returned} {change : Option Change} {loanId : ℕ} {loan : Loan}

/-- A plan depends on the loan, the registrations and the pause only. -/
theorem Plans.congr (h : Plans d origin clock s op value change)
    (hloan : s'.loans op.loanId = s.loans op.loanId)
    (hpartners : s'.ledger.partners = s.ledger.partners)
    (hverifiers : s'.ledger.verifiers = s.ledger.verifiers)
    (hpaused : LiquidationEngine.paused s'.engine = LiquidationEngine.paused s.engine) :
    Plans d origin clock s' op value change := by
  cases h with
  | attest checks fits earned =>
      refine .attest
        { checks with found := ?_, partner_registered := ?_, verifier_registered := ?_ } fits earned
      · exact hloan.trans checks.found
      · rw [hpartners]
        exact checks.partner_registered
      · rw [hverifiers]
        exact checks.verifier_registered
  | flag crank running found overdue deadline =>
      refine .flag crank (hpaused.trans running) (Eq.trans ?_ found) overdue deadline
      rcases crank with ⟨rfl, -⟩ | ⟨rfl, -⟩ <;> exact hloan
  | settle crank running found expired =>
      refine .settle crank (hpaused.trans running) (Eq.trans ?_ found) expired
      rcases crank with ⟨rfl, -⟩ | ⟨rfl, -⟩ <;> exact hloan
  | paused paused => exact .paused (hpaused.trans paused)
  | idle running found overdue expired =>
      exact .idle (hpaused.trans running) (hloan.trans found) overdue expired

/-- The record an operation writes is that of its loan. -/
theorem Plans.id_eq (hplan : Plans d origin clock s op value change)
    (h : s.Sound d tokens tok clock.timestamp) : ∀ c ∈ change, c.loan.id = op.loanId := by
  rintro c hc
  cases hplan with
  | attest checks fits earned =>
      obtain rfl := Option.mem_some_iff.mp hc
      have hid := h.ledger.keyed _ _ checks.found
      exact hid
  | flag crank running found overdue deadline =>
      obtain rfl := Option.mem_some_iff.mp hc
      have hid := h.ledger.keyed _ _ found
      rcases crank with ⟨rfl, -⟩ | ⟨rfl, -⟩ <;> exact hid
  | settle crank running found expired =>
      obtain rfl := Option.mem_some_iff.mp hc
      have hid := h.ledger.keyed _ _ found
      rcases crank with ⟨rfl, -⟩ | ⟨rfl, -⟩ <;> exact hid
  | paused paused => cases hc
  | idle running found overdue expired => cases hc

/-- An attestation makes the change it planned. -/
theorem attest_applies (h : s.Sound d tokens tok clock.timestamp)
    {partner verifier : Address} {amountUsd r : ℤ} (hfound : s.loans loanId = some loan)
    (hok : attest d tokens origin clock partner verifier loanId amountUsd s = some (r, s')) :
    Applies d tok (some ⟨loan.repay d.config clock.timestamp amountUsd, 0, r⟩) s s' := by
  obtain ⟨loan₁, hchecks, -, -, w', hreleases, rfl⟩ := (attest_eq_some h).mp hok
  obtain rfl : loan = loan₁ := Option.some.inj (hfound.symm.trans hchecks.found)
  exact applies_record ⟨_, rfl⟩ (releases_settles h hreleases) rfl

/-- What a flagging that went through found and did. -/
theorem flagOverdue_applies (h : s.Sound d tokens tok clock.timestamp) (hbalanced : s.Balanced)
    (hok : flagOverdue d origin clock loanId s = some s') :
    LiquidationEngine.paused s.engine = false ∧ ∃ loan, s.loans loanId = some loan ∧
      loan.Overdue clock.timestamp ∧ InU64 (clock.timestamp + d.config.gracePeriodSecs) ∧
      Applies d tok (some ⟨loan.flag d.config clock.timestamp, 0, 0⟩) s s' ∧
      s'.Sound d tokens tok clock.timestamp ∧ s'.Balanced := by
  obtain ⟨⟨e', l', w'⟩, hflags, rfl⟩ := Option.map_eq_some_iff.mp hok
  obtain ⟨hrunning, addr, haddr, x₁, hoverdue, hmark, rfl⟩ :=
    LiquidationEngine.flagOverdue_eq_ok.mp (outcome_eq_some.mp hflags)
  obtain rfl := h.wired.eq_engineLedger haddr
  rw [engineLedgers_ledger] at hoverdue hmark
  obtain ⟨loan, hfound, hstatus, hlate, hdeadline, hrecord, rfl, hsound⟩ :=
    h.flags rfl hoverdue hmark
  have hmoves : Moves d origin clock s ⟨LiquidationEngine.extendInstance
      (origin.env clock d.engine) s.engine, l', s.world⟩ (.engine (.flagOverdue loanId)) :=
    .flag (.inl rfl) hrunning hfound hstatus hlate hrecord (.refl _)
  exact ⟨hrunning, loan, hfound, ⟨hstatus, hlate⟩, hdeadline,
    applies_record hrecord (.refl _) rfl,
    hsound.engine (LiquidationEngine.extendInstance_wired _ _), hbalanced.step h hmoves⟩

/-- What a liquidation that went through found and did. -/
theorem liquidate_applies (h : s.Sound d tokens tok clock.timestamp) (hbalanced : s.Balanced)
    {r : ℤ} (hok : liquidate d tokens origin clock loanId s = some (r, s')) :
    LiquidationEngine.paused s.engine = false ∧ ∃ loan, s.loans loanId = some loan ∧
      loan.GraceExpired clock.timestamp ∧ r = forfeitable loan ∧
      Applies d tok (some ⟨loan.default, forfeitable loan, loan.remaining - forfeitable loan⟩)
        s s' ∧
      s'.Sound d tokens tok clock.timestamp ∧ s'.Balanced := by
  obtain ⟨⟨r₁, e', l', w'⟩, hliquidates, heq⟩ := Option.map_eq_some_iff.mp hok
  obtain ⟨rfl, rfl⟩ := Prod.mk.inj heq
  have hcall := outcome_eq_some.mp hliquidates
  obtain ⟨hrunning, rfl, loan, hfound, hstatus, hlate, rfl, hrecord, ttl, hsettle⟩ :=
    h.liquidate_parts hcall
  obtain ⟨-, loan₁, hfound₁, -, -, -, -, hposts, hsound⟩ := h.liquidates hcall
  obtain rfl : loan = loan₁ := Option.some.inj (hfound.symm.trans hfound₁)
  have hseized := forfeitable_nonneg h.ledger.accepted (h.ledger.loans _ _ hfound)
  have hsettles : Settles d tok (settle loan.guarantor (forfeitable loan)
      (loan.remaining - forfeitable loan)) (forfeitable loan) s.world w' :=
    settleCollateral_settles ((h.withTtl ttl).engine
      (LiquidationEngine.extendInstance_wired (origin.env clock d.engine) s.engine)) hseized hsettle
  have hmoves : Moves d origin clock s ⟨LiquidationEngine.extendInstance
      (origin.env clock d.engine) s.engine, l', w'⟩ (.engine (.liquidate loanId)) :=
    .settle (.inl rfl) hrunning hfound hstatus hlate hrecord hposts
  exact ⟨hrunning, loan, hfound, ⟨hstatus, hlate⟩, rfl, applies_record hrecord hsettles rfl, hsound,
    hbalanced.step h hmoves⟩

/-- An engine that runs does not poke a loan that does not exist. -/
theorem poke_found (h : s.Sound d tokens tok clock.timestamp)
    (hrunning : LiquidationEngine.paused s.engine = false) {acted : Bool}
    (hok : poke d tokens origin clock loanId s = some (acted, s')) :
    ∃ loan, s.loans loanId = some loan := by
  obtain ⟨⟨done, e', x'⟩, hpokes, -⟩ := Option.map_eq_some_iff.mp hok
  rcases LiquidationEngine.poke_cases (outcome_eq_some.mp hpokes) with
    ⟨hpaused, -⟩ | ⟨-, addr, haddr, seen, ⟨l₁, w₁⟩, hoverdue, -⟩
  · rw [hrunning] at hpaused
    cases hpaused
  · obtain rfl := h.wired.eq_engineLedger haddr
    rw [engineLedgers_ledger] at hoverdue
    obtain ⟨hview, -⟩ := view_eq_some.mp hoverdue
    obtain ⟨loan, hfound, -⟩ := LoanLedger.isOverdue_eq_ok.mp hview
    exact ⟨loan, hfound⟩

end Planned

/-! ## Every operation is planned -/

variable (d tokens tok clock) in
/-- What operations rely on: the invariants of the contracts, and accounts that agree. -/
def System.Settled (s : System T) : Prop := s.Sound d tokens tok clock.timestamp ∧ s.Balanced

section Planned

variable {op op' : Operation} {value : Returned} {change : Option Change} {loanId : ℕ}

/-- An operation that succeeds was planned. -/
theorem exists_plan (h : s.Settled d tokens tok clock)
    (hok : op.run d tokens origin clock s = some (value, s')) :
    ∃ change, Plans d origin clock s op value change := by
  obtain ⟨hsound, hbalanced⟩ := h
  cases op with
  | attestRepayment partner verifier loanId amountUsd =>
      obtain ⟨⟨r, s₁⟩, hattest, heq⟩ := Option.map_eq_some_iff.mp hok
      obtain ⟨rfl, -⟩ := Prod.mk.inj heq
      obtain ⟨loan, hchecks, hfits, hearned, -⟩ := (attest_eq_some hsound).mp hattest
      exact ⟨_, .attest hchecks hfits hearned⟩
  | flagOverdue loanId =>
      obtain ⟨s₁, hflags, heq⟩ := Option.map_eq_some_iff.mp hok
      obtain ⟨rfl, -⟩ := Prod.mk.inj heq
      obtain ⟨hrunning, loan, hfound, hoverdue, hdeadline, -⟩ :=
        flagOverdue_applies hsound hbalanced hflags
      exact ⟨_, .flag (.inl ⟨rfl, rfl⟩) hrunning hfound hoverdue hdeadline⟩
  | liquidate loanId =>
      obtain ⟨⟨r, s₁⟩, hcloses, heq⟩ := Option.map_eq_some_iff.mp hok
      obtain ⟨rfl, -⟩ := Prod.mk.inj heq
      obtain ⟨hrunning, loan, hfound, hexpired, rfl, -⟩ :=
        liquidate_applies hsound hbalanced hcloses
      exact ⟨_, .settle (.inl ⟨rfl, rfl⟩) hrunning hfound hexpired⟩
  | poke loanId =>
      obtain ⟨⟨acted, s₁⟩, hpokes, heq⟩ := Option.map_eq_some_iff.mp hok
      obtain ⟨rfl, -⟩ := Prod.mk.inj heq
      cases hrunning : LiquidationEngine.paused s.engine with
      | true =>
          rw [poke_of_paused hrunning] at hpokes
          obtain ⟨rfl, -⟩ := Prod.mk.inj (Option.some.inj hpokes)
          exact ⟨_, .paused hrunning⟩
      | false =>
          -- a poke is the crank that the loan is due for
          obtain ⟨loan, hfound⟩ := poke_found hsound hrunning hpokes
          by_cases hoverdue : loan.Overdue clock.timestamp
          · rw [poke_of_overdue hsound hrunning hfound hoverdue] at hpokes
            obtain ⟨s₂, hflags, heq⟩ := Option.map_eq_some_iff.mp hpokes
            obtain ⟨rfl, -⟩ := Prod.mk.inj heq
            obtain ⟨-, -, -, -, hdeadline, -⟩ := flagOverdue_applies hsound hbalanced hflags
            exact ⟨_, .flag (.inr ⟨rfl, rfl⟩) hrunning hfound hoverdue hdeadline⟩
          by_cases hexpired : loan.GraceExpired clock.timestamp
          · rw [poke_of_expired hsound hrunning hfound hexpired] at hpokes
            obtain ⟨⟨r, s₂⟩, -, heq⟩ := Option.map_eq_some_iff.mp hpokes
            obtain ⟨rfl, -⟩ := Prod.mk.inj heq
            exact ⟨_, .settle (.inr ⟨rfl, rfl⟩) hrunning hfound hexpired⟩
          · rw [poke_of_idle hsound hrunning hfound hoverdue hexpired] at hpokes
            obtain ⟨rfl, -⟩ := Prod.mk.inj (Option.some.inj hpokes)
            exact ⟨_, .idle hrunning hfound hoverdue hexpired⟩

/-- Both cranks that flag an overdue loan are `flagOverdue`. -/
theorem run_of_overdue {loan : Loan} (h : s.Sound d tokens tok clock.timestamp)
    (hcrank : (op = .flagOverdue loanId ∧ value = .flagged) ∨
      (op = .poke loanId ∧ value = .poked true))
    (hrunning : LiquidationEngine.paused s.engine = false) (hfound : s.loans loanId = some loan)
    (hoverdue : loan.Overdue clock.timestamp) :
    op.run d tokens origin clock s = (flagOverdue d origin clock loanId s).map (value, ·) := by
  rcases hcrank with ⟨rfl, rfl⟩ | ⟨rfl, rfl⟩
  · rfl
  · rw [Operation.run, poke_of_overdue h hrunning hfound hoverdue, Option.map_map]
    rfl

/-- Both cranks that close a loan past its grace are `liquidate`. -/
theorem run_of_expired {loan : Loan} (h : s.Sound d tokens tok clock.timestamp)
    (hcrank : (op = .liquidate loanId ∧ value = .forfeited (forfeitable loan)) ∨
      (op = .poke loanId ∧ value = .poked true))
    (hrunning : LiquidationEngine.paused s.engine = false) (hfound : s.loans loanId = some loan)
    (hexpired : loan.GraceExpired clock.timestamp) :
    op.run d tokens origin clock s =
      (liquidate d tokens origin clock loanId s).map fun result => (value, result.2) := by
  rcases hcrank with ⟨rfl, rfl⟩ | ⟨rfl, rfl⟩
  · refine Option.map_congr fun result hmem => ?_
    obtain ⟨⟨r, e', x'⟩, hliquidates, rfl⟩ := Option.map_eq_some_iff.mp hmem
    obtain ⟨-, loan₁, hfound₁, -, -, hr, -⟩ := h.liquidates (outcome_eq_some.mp hliquidates)
    obtain rfl : loan = loan₁ := Option.some.inj (hfound.symm.trans hfound₁)
    rw [hr]
  · rw [Operation.run, poke_of_expired h hrunning hfound hexpired, Option.map_map]
    rfl

/-- An operation that was planned succeeds: the vault has what it asks for. -/
theorem Plans.succeeds (hplan : Plans d origin clock s op value change)
    (h : s.Settled d tokens tok clock) :
    ∃ s', op.run d tokens origin clock s = some (value, s') := by
  obtain ⟨hsound, hbalanced⟩ := h
  cases hplan with
  | @attest partner verifier loanId amountUsd r loan checks fits earned =>
      have hloan := hsound.ledger.loans _ _ checks.found
      have hheld : r ≤ loan.remaining := by
        rw [← earned]
        exact sub_le_sub_right (hloan.wf.earned_le hsound.ledger.accepted) _
      obtain ⟨w', hreleases⟩ :=
        releases_succeed hsound hbalanced checks.found checks.isOpen hheld origin
      have hattest := (attest_eq_some hsound).mpr
        ⟨loan, checks, fits, earned, w', hreleases, rfl⟩
      exact ⟨_, Option.map_eq_some_iff.mpr ⟨_, hattest, rfl⟩⟩
  | flag crank running found overdue deadline =>
      obtain ⟨s', hflags, -⟩ := flagOverdue_succeeds hsound running found overdue deadline
      rw [run_of_overdue hsound crank running found overdue, hflags]
      exact ⟨s', rfl⟩
  | settle crank running found expired =>
      obtain ⟨s', hcloses, -⟩ := liquidate_closes hsound running found hbalanced expired
      rw [run_of_expired hsound crank running found expired, hcloses]
      exact ⟨s', rfl⟩
  | paused paused =>
      rw [Operation.run, poke_of_paused paused]
      exact ⟨_, rfl⟩
  | idle running found overdue expired =>
      rw [Operation.run, poke_of_idle hsound running found overdue expired]
      exact ⟨_, rfl⟩

/-- An operation makes the change it planned. -/
theorem Plans.applies (hplan : Plans d origin clock s op value change)
    (h : s.Settled d tokens tok clock)
    (hok : op.run d tokens origin clock s = some (value, s')) :
    Applies d tok change s s' ∧ s'.Settled d tokens tok clock := by
  obtain ⟨hsound, hbalanced⟩ := h
  have hquiet : ∀ {e' : LiquidationEngine.State} (ttl : Lifetimes LoanLedger.Key),
      LiquidationEngine.Wired s.engine e' →
      LiquidationEngine.paused e' = LiquidationEngine.paused s.engine →
      Applies d tok none s { s with engine := e', ledger := s.ledger.withTtl ttl } ∧
        System.Settled d tokens tok clock
          { s with engine := e', ledger := s.ledger.withTtl ttl } := by
    intro e' ttl hwired hpaused
    exact ⟨{ loans := rfl, openLoans := rfl, world := .refl _, partners := rfl, verifiers := rfl,
             paused := hpaused }, (hsound.withTtl ttl).engine hwired, hbalanced⟩
  cases hplan with
  | attest checks fits earned =>
      obtain ⟨⟨r, s₁⟩, hattest, heq⟩ := Option.map_eq_some_iff.mp hok
      obtain ⟨hvalue, rfl⟩ := Prod.mk.inj heq
      obtain rfl := Returned.released.inj hvalue
      exact ⟨attest_applies hsound checks.found hattest, attest_sound hsound hattest,
        attest_balanced hsound hbalanced hattest⟩
  | flag crank running found overdue deadline =>
      rw [run_of_overdue hsound crank running found overdue] at hok
      obtain ⟨s₁, hflags, heq⟩ := Option.map_eq_some_iff.mp hok
      obtain ⟨-, rfl⟩ := Prod.mk.inj heq
      obtain ⟨-, loan₁, hfound₁, -, -, happlies⟩ := flagOverdue_applies hsound hbalanced hflags
      obtain rfl := Option.some.inj (found.symm.trans hfound₁)
      exact happlies
  | settle crank running found expired =>
      rw [run_of_expired hsound crank running found expired] at hok
      obtain ⟨⟨r, s₁⟩, hcloses, heq⟩ := Option.map_eq_some_iff.mp hok
      obtain ⟨-, rfl⟩ := Prod.mk.inj heq
      obtain ⟨-, loan₁, hfound₁, -, -, happlies⟩ := liquidate_applies hsound hbalanced hcloses
      obtain rfl := Option.some.inj (found.symm.trans hfound₁)
      exact happlies
  | paused paused =>
      rw [Operation.run, poke_of_paused paused] at hok
      obtain ⟨-, rfl⟩ := Prod.mk.inj (Option.some.inj hok)
      exact hquiet s.ledger.ttl (LiquidationEngine.extendInstance_wired _ _) rfl
  | idle running found overdue expired =>
      rw [Operation.run, poke_of_idle hsound running found overdue expired] at hok
      obtain ⟨-, rfl⟩ := Prod.mk.inj (Option.some.inj hok)
      exact hquiet _ (LiquidationEngine.extendInstance_wired _ _) rfl

variable (d tokens tok origin clock op) in
/-- Operations are planned. -/
theorem operation_planned : Planned (System.Settled d tokens tok clock) (Applies d tok)
    (op.run d tokens origin clock) fun s => Plans d origin clock s op where
  planned h hok := exists_plan h hok
  succeeds h hplan := hplan.succeeds h
  applies h hplan hok := hplan.applies h hok

variable (d tokens tok clock) in
/-- An operation does not disturb what is planned for another loan. -/
theorem operation_leaves (hne : op.loanId ≠ op'.loanId) (origin origin' : Origin) :
    Leaves (System.Settled d tokens tok clock) (Applies d tok)
      (fun s => Plans d origin clock s op) fun s => Plans d origin' clock s op' := by
  intro s s' value change h hplan happlies value' change'
  have hloan : s'.loans op'.loanId = s.loans op'.loanId := by
    rw [happlies.loans]
    cases change with
    | none => rfl
    | some change =>
        have hid : change.loan.id = op.loanId := hplan.id_eq h.1 change rfl
        refine Function.update_of_ne ?_ _ _
        rw [hid]
        exact Ne.symm hne
  constructor
  · intro hplan'
    exact hplan'.congr hloan.symm happlies.partners.symm happlies.verifiers.symm
      happlies.paused.symm
  · intro hplan'
    exact hplan'.congr hloan happlies.partners happlies.verifiers happlies.paused

end Planned

/-! ## Either order -/

/-- Changes commute if those that are made do. -/
theorem elim_commute {α : Type} {f : Change → α → α} {change change' : Option Change}
    (h : ∀ c ∈ change, ∀ c' ∈ change', Function.Commute (f c) (f c')) :
    Function.Commute (change.elim id f) (change'.elim id f) := by
  cases change with
  | none => exact Function.Commute.id_left
  | some c =>
      cases change' with
      | none => exact Function.Commute.id_right
      | some c' => exact h c rfl c' rfl

/-- Two changes to different loans leave the same records, markers and balances in either order. -/
theorem applies_agree {change change' : Option Change} {s₁ s₂ s₁₂ s₂₁ : System T}
    (hne : ∀ c ∈ change, ∀ c' ∈ change', c.loan.id ≠ c'.loan.id)
    (hsettled : s.world.vault.settlementAddress.isSome) (h₁ : Applies d tok change s s₁)
    (h₁₂ : Applies d tok change' s₁ s₁₂) (h₂ : Applies d tok change' s s₂)
    (h₂₁ : Applies d tok change s₂ s₂₁) :
    s₁₂.loans = s₂₁.loans ∧ s₁₂.world.vault.vaults = s₂₁.world.vault.vaults ∧
      s₁₂.ledger.openLoans = s₂₁.ledger.openLoans ∧
      ∀ a, tok.balance s₁₂.world.token a = tok.balance s₂₁.world.token a := by
  have hloans : s₁₂.loans = s₂₁.loans := by
    have hcommute : Function.Commute (change'.elim id Change.loans) (change.elim id Change.loans) :=
      (elim_commute fun c hc c' hc' => Change.loans_commute (hne c hc c' hc')).symm
    rw [h₁₂.loans, h₁.loans, h₂₁.loans, h₂.loans, hcommute.eq]
  have hmarkers : s₁₂.ledger.openLoans = s₂₁.ledger.openLoans := by
    have hcommute : Function.Commute (change'.elim id Change.openLoans)
        (change.elim id Change.openLoans) :=
      elim_commute fun c _ c' _ => Change.openLoans_commute c c'
    rw [h₁₂.openLoans, h₁.openLoans, h₂₁.openLoans, h₂.openLoans, hcommute.eq]
  have hvaults : Function.Commute (change'.elim id Change.vaults) (change.elim id Change.vaults) :=
    elim_commute fun c _ c' _ => Change.vaults_commute c c'
  have hfirst := h₁.world.trans h₁₂.world
  have hsecond := h₂.world.trans h₂₁.world
  rw [hvaults.comp_eq, add_comm] at hfirst
  obtain ⟨hrecords, hbalances⟩ := hfirst.agree hsecond hsettled
  exact ⟨hloans, hrecords, hmarkers, hbalances⟩

/-- **Commutation.** In every reachable state, operations on two different loans, of one guarantor
or of two, can be done in either order: each returns the same in both, and both orders end with the
same loans, vault records, open-loan markers and token balances. -/
theorem settlements_commute {s : Timed (System T)} (h : (machine d tokens tok).Reachable s)
    {op op' : Operation} (hne : op.loanId ≠ op'.loanId) {origin origin' : Origin}
    {value value' : Returned} {s₁ s₁₂ : System T}
    (hfirst : op.run d tokens origin s.clock s.state = some (value, s₁))
    (hsecond : op'.run d tokens origin' s.clock s₁ = some (value', s₁₂)) :
    ∃ s₂ s₂₁, op'.run d tokens origin' s.clock s.state = some (value', s₂) ∧
      op.run d tokens origin s.clock s₂ = some (value, s₂₁) ∧
      s₁₂.loans = s₂₁.loans ∧ s₁₂.world.vault.vaults = s₂₁.world.vault.vaults ∧
      s₁₂.ledger.openLoans = s₂₁.ledger.openLoans ∧
      ∀ a, tok.balance s₁₂.world.token a = tok.balance s₂₁.world.token a := by
  have hsound : s.state.Sound d tokens tok s.clock.timestamp := System.Sound.of_reachable h
  have hsettled : s.state.Settled d tokens tok s.clock :=
    ⟨hsound, System.Balanced.of_reachable h⟩
  obtain ⟨s₂, s₂₁, change, change', hsecond', hfirst', ⟨hplan, hplan'⟩, ⟨h₁, h₁₂⟩, h₂, h₂₁⟩ :=
    (operation_planned d tokens tok origin s.clock op).either_order
      (operation_planned d tokens tok origin' s.clock op')
      (operation_leaves d tokens tok s.clock hne origin origin')
      (operation_leaves d tokens tok s.clock (Ne.symm hne) origin' origin) hsettled hfirst hsecond
  have hdistinct : ∀ c ∈ change, ∀ c' ∈ change', c.loan.id ≠ c'.loan.id := by
    intro c hc c' hc'
    rw [hplan.id_eq hsound c hc, hplan'.id_eq hsound c' hc']
    exact hne
  exact ⟨s₂, s₂₁, hsecond', hfirst',
    applies_agree hdistinct hsound.solvent.settled h₁ h₁₂ h₂ h₂₁⟩

/-- Two loans of one guarantor, one past its grace period: it is liquidated before or after a
repayment of the other is attested. -/
theorem settlements_commute_oneGuarantor : ∃ history s forfeited released s₁ s₁₂ s₂ s₂₁,
    sampleMachine.Run history s ∧
    (Operation.liquidate 1).run sample (fun _ => GuarantorVault.tableToken.client) ⟨none, [], 0⟩
      s.clock s.state = some (forfeited, s₁) ∧
    (Operation.attestRepayment ⟨5⟩ ⟨6⟩ 2 30).run sample
      (fun _ => GuarantorVault.tableToken.client) sampleOrigin s.clock s₁ = some (released, s₁₂) ∧
    (Operation.attestRepayment ⟨5⟩ ⟨6⟩ 2 30).run sample
      (fun _ => GuarantorVault.tableToken.client) sampleOrigin s.clock s.state =
        some (released, s₂) ∧
    (Operation.liquidate 1).run sample (fun _ => GuarantorVault.tableToken.client) ⟨none, [], 0⟩
      s.clock s₂ = some (forfeited, s₂₁) ∧
    s₁₂.world.vault.vaults = s₂₁.world.vault.vaults := by
  obtain ⟨history, s, hrun, hboth⟩ := exists_run_of_playLoan
    (P := fun _ s => (((Operation.liquidate 1).run sample
      (fun _ => GuarantorVault.tableToken.client) ⟨none, [], 0⟩ s.clock s.state).bind fun first =>
        (Operation.attestRepayment ⟨5⟩ ⟨6⟩ 2 30).run sample
          (fun _ => GuarantorVault.tableToken.client) sampleOrigin s.clock first.2).isSome = true)
    (show (playLoan [(0, .ledger (.originate ⟨4⟩ 8 ⟨5⟩ 120 3 86400)),
      (86401, .engine (.flagOverdue 1)), (1296002, .ledger (.isGraceExpired 1))]).any _ = true by
        decide +kernel)
  obtain ⟨⟨released, s₁₂⟩, hboth⟩ := Option.isSome_iff_exists.mp hboth
  obtain ⟨⟨forfeited, s₁⟩, hfirst, hsecond⟩ := Option.bind_eq_some_iff.mp hboth
  have hne : (Operation.liquidate 1).loanId ≠
      (Operation.attestRepayment ⟨5⟩ ⟨6⟩ 2 30).loanId := by decide
  obtain ⟨s₂, s₂₁, hsecond', hfirst', -, hvaults, -⟩ :=
    settlements_commute hrun.reachable hne hfirst hsecond
  exact ⟨history, s, forfeited, released, s₁, s₁₂, s₂, s₂₁, hrun, hfirst, hsecond, hsecond',
    hfirst', hvaults⟩

end Protocol

end RemitCollateral
