import RemitCollateral.Protocol.Settlement

/-! # Batching repayments

An attestation computes from the total repaid, not from its own amount, so a total paid at once and
the same total paid in parts at the same time return the same collateral and leave the same records.
One field tells them apart: a payment that closes a loan leaves its due date as it found it. -/

namespace RemitCollateral.LoanLedger.Loan

variable {config : Config} {now : ℕ} {loan : Loan} {a b : ℤ}

/-- The loan with another due date, if it is closed. -/
def rescheduled (due : ℕ) (loan : Loan) : Loan :=
  if loan.isOpen then loan else { loan with nextDue := due }

theorem rescheduled_of_open {due : ℕ} (hopen : loan.isOpen = true) :
    loan.rescheduled due = loan := if_pos hopen

theorem rescheduled_of_closed {due : ℕ} (hclosed : loan.isOpen = false) :
    loan.rescheduled due = { loan with nextDue := due } := if_neg (by simp [hclosed])

section Rescheduled

variable (loan : Loan) (due : ℕ)

@[simp] theorem rescheduled_id : (loan.rescheduled due).id = loan.id := by
  unfold rescheduled
  split <;> rfl

@[simp] theorem rescheduled_guarantor : (loan.rescheduled due).guarantor = loan.guarantor := by
  unfold rescheduled
  split <;> rfl

@[simp] theorem rescheduled_beneficiary :
    (loan.rescheduled due).beneficiary = loan.beneficiary := by
  unfold rescheduled
  split <;> rfl

@[simp] theorem rescheduled_isOpen : (loan.rescheduled due).isOpen = loan.isOpen := by
  unfold rescheduled
  split <;> rfl

end Rescheduled

@[simp] theorem rescheduled_rescheduled (due due' : ℕ) :
    (loan.rescheduled due).rescheduled due' = loan.rescheduled due' := by
  cases hopen : loan.isOpen with
  | true => rw [rescheduled_of_open hopen]
  | false =>
      rw [rescheduled_of_closed hopen, rescheduled_of_closed hopen]
      exact rescheduled_of_closed hopen

/-- A repayment that closes a loan leaves its due date. -/
theorem rescheduled_repay (hopen : loan.isOpen = true) :
    (loan.repay config now a).rescheduled loan.nextDue = loan.repay config now a := by
  have hafter : (loan.repay config now a).isOpen =
    decide (loan.totalRepaidUsd + a < loan.principalUsd) := repay_isOpen hopen now
  by_cases hend : loan.principalUsd ≤ loan.totalRepaidUsd + a
  · rw [decide_eq_false (not_lt.mpr hend)] at hafter
    rw [rescheduled_of_closed hafter]
    simp only [repay, hend, if_true]
  · rw [decide_eq_true (not_le.mp hend)] at hafter
    exact rescheduled_of_open hafter

/-- What two repayments at the same time leave. -/
theorem repay_repay (hlt : loan.totalRepaidUsd + a < loan.principalUsd) :
    (loan.repay config now a).repay config now b =
      let total := loan.totalRepaidUsd + a + b
      { loan.repay config now (a + b) with
        totalRepaidUsd := total
        installmentsPaid := loan.covered total
        collateralReleased := loan.earned config total
        nextDue := if loan.principalUsd ≤ total then loan.dueAfter (loan.totalRepaidUsd + a)
          else loan.dueAfter total
        graceExpiresAt := if loan.principalUsd ≤ total ∨ now ≤ loan.dueAfter total then 0
          else if now ≤ loan.dueAfter (loan.totalRepaidUsd + a) then 0 else loan.graceExpiresAt
        status := if loan.principalUsd ≤ total then .repaid
          else if now ≤ loan.dueAfter total then .active
          else if now ≤ loan.dueAfter (loan.totalRepaidUsd + a) then .active
          else loan.status } := by
  simp only [repay, not_le.mpr hlt, if_false, false_or]
  rfl

/-- Two repayments at the same time leave what one repayment of their sum leaves, up to the due date
of a loan they close. -/
theorem Wf.repay_add (h : loan.Wf) (hopen : loan.isOpen = true)
    (hlt : loan.totalRepaidUsd + a < loan.principalUsd) (hb : 0 ≤ b) :
    loan.repay config now (a + b) =
      ((loan.repay config now a).repay config now b).rescheduled loan.nextDue := by
  have hassoc : loan.totalRepaidUsd + (a + b) = loan.totalRepaidUsd + a + b := by omega
  have hopen₁ : (loan.repay config now a).isOpen = true := by
    rw [repay_isOpen hopen]
    exact decide_eq_true hlt
  have hafter : ((loan.repay config now a).repay config now b).isOpen =
    decide (loan.totalRepaidUsd + a + b < loan.principalUsd) := repay_isOpen hopen₁ now
  by_cases hend : loan.principalUsd ≤ loan.totalRepaidUsd + a + b
  · rw [decide_eq_false (not_lt.mpr hend)] at hafter
    rw [rescheduled_of_closed hafter, repay_repay hlt]
    simp only [repay, hassoc, hend, if_true, true_or]
  · rw [decide_eq_true (not_le.mp hend)] at hafter
    -- the second due date is no earlier, so what the first repayment ends the second would end
    have hdue : loan.dueAfter (loan.totalRepaidUsd + a) ≤
        loan.dueAfter (loan.totalRepaidUsd + a + b) :=
      loan.dueDate_mono (Nat.succ_le_succ (h.covered_mono (by omega)))
    rw [rescheduled_of_open hafter, repay_repay hlt]
    simp only [repay, hassoc, hend, if_false, false_or]
    by_cases hlate : now ≤ loan.dueAfter (loan.totalRepaidUsd + a + b)
    · simp only [hlate, if_true]
    · have hlate₁ : ¬ now ≤ loan.dueAfter (loan.totalRepaidUsd + a) := by omega
      simp only [hlate, hlate₁, if_false]

end RemitCollateral.LoanLedger.Loan

namespace RemitCollateral.Protocol

open Soroban
open LoanLedger (Loan)

variable {T : Type} {d : Deployment} {tokens : Address → GuarantorVault.TokenClient T}
  {tok : GuarantorVault.StandardToken T} {origin : Origin} {clock : Clock} {s s' : System T}

/-! ## Attestations that return what they release -/

section Attest

variable (d : Deployment) (tokens : Address → GuarantorVault.TokenClient T) (origin : Origin)
  (clock : Clock) (partner verifier : Address) (loanId : ℕ)

/-- Attest one repayment: the collateral returned, and the system left; `none` when it traps. -/
def attest (amountUsd : ℤ) (s : System T) : Option (ℤ × System T) :=
  (outcome (LoanLedger.attestRepayment (ledgerVaults d tokens) (origin.env clock d.ledger) partner
    verifier loanId amountUsd s.ledger s.world)).map
      fun result => (result.1, { s with ledger := result.2.1, world := result.2.2 })

/-- Attest repayments one after the other, and collect what each returns. -/
def attestAll : List ℤ → System T → Option (List ℤ × System T)
  | [], s => some ([], s)
  | amountUsd :: rest, s => do
      let (release, s) ← attest d tokens origin clock partner verifier loanId amountUsd s
      let (releases, s) ← attestAll rest s
      some (release :: releases, s)

/-- An attestation is the call of the ledger's entry point. -/
theorem exec_attestRepayment (amountUsd : ℤ) (s : System T) :
    exec d tokens origin clock s (.ledger (.attestRepayment partner verifier loanId amountUsd)) =
      (attest d tokens origin clock partner verifier loanId amountUsd s).map Prod.snd := by
  simp only [exec, attest, LoanLedger.exec]
  cases LoanLedger.attestRepayment (ledgerVaults d tokens) (origin.env clock d.ledger) partner
    verifier loanId amountUsd s.ledger s.world <;> rfl

end Attest

section Spec

variable {partner verifier : Address} {loanId : ℕ} {a b r r₁ r₂ : ℤ} {s₁ s₂ : System T}

/-- **Attestation.** Its checks and arithmetic, the vault call and the record. -/
theorem attest_eq_some (h : s.Sound d tokens tok clock.timestamp) :
    attest d tokens origin clock partner verifier loanId a s = some (r, s') ↔
      ∃ loan, LoanLedger.Attestation (origin.env clock d.ledger) partner verifier loanId a s.ledger
          loan ∧
        loan.Fits d.config (loan.totalRepaidUsd + a) ∧
        loan.earned d.config (loan.totalRepaidUsd + a) - loan.collateralReleased = r ∧
        ∃ w', LoanLedger.Releases (ledgerVaults d tokens) (origin.env clock d.ledger) s.ledger
            loan.guarantor r s.world w' ∧
          { s with
            ledger := s.ledger.record (loan.repay d.config clock.timestamp a)
              (LoanLedger.attestedTtl (origin.env clock d.ledger) partner verifier loanId
                (loan.repay d.config clock.timestamp a) s.ledger)
            world := w' } = s' := by
  have hledger : s.ledger.Sound d.config (origin.env clock d.ledger).timestamp := h.ledger
  simp only [attest, Option.map_eq_some_iff, outcome_eq_some, Prod.exists, Prod.mk.injEq,
    LoanLedger.attestRepayment_eq_ok hledger]
  constructor
  · rintro ⟨r, l', w', ⟨loan, hchecks, hfits, hr, hreleases, rfl⟩, rfl, rfl⟩
    exact ⟨loan, hchecks, hfits, hr, w', hreleases, rfl⟩
  · rintro ⟨loan, hchecks, hfits, hr, w', hreleases, rfl⟩
    exact ⟨r, _, w', ⟨loan, hchecks, hfits, hr, hreleases, rfl⟩, rfl, rfl⟩

/-- An attestation records the repayment. -/
theorem attest_loan (h : s.Sound d tokens tok clock.timestamp) {loan : Loan}
    (hfound : s.loans loanId = some loan)
    (hattest : attest d tokens origin clock partner verifier loanId a s = some (r, s')) :
    loan.isOpen = true ∧ s'.loans loanId = some (loan.repay d.config clock.timestamp a) := by
  obtain ⟨loan₁, hchecks, -, -, w', -, rfl⟩ := (attest_eq_some h).mp hattest
  obtain rfl : loan = loan₁ := Option.some.inj (hfound.symm.trans hchecks.found)
  have hid : (loan.repay d.config clock.timestamp a).id = loan.id := rfl
  exact ⟨hchecks.isOpen, by
    rw [loans_record h.ledger hchecks.found ⟨_, rfl⟩ hid, Function.update_self]⟩

/-- An attestation keeps the accounts of both sides in agreement. -/
theorem attest_balanced (h : s.Sound d tokens tok clock.timestamp) (hbalanced : s.Balanced)
    (hattest : attest d tokens origin clock partner verifier loanId a s = some (r, s')) :
    s'.Balanced := by
  obtain ⟨loan, hchecks, -, rfl, w', hreleases, rfl⟩ := (attest_eq_some h).mp hattest
  exact hbalanced.step h (.attest hchecks ⟨_, rfl⟩ (h.releases hreleases).1)

/-- An attestation keeps the invariant. -/
theorem attest_sound (h : s.Sound d tokens tok clock.timestamp)
    (hattest : attest d tokens origin clock partner verifier loanId a s = some (r, s')) :
    s'.Sound d tokens tok clock.timestamp := by
  obtain ⟨loan, hchecks, -, -, w', hreleases, rfl⟩ := (attest_eq_some h).mp hattest
  exact (h.releases hreleases).2.record hchecks.found hchecks.isOpen
    (.repay a hchecks.isOpen hchecks.pos hchecks.le) _

/-- What the ledger's release leaves: one record of the vault, and the tokens where they were. -/
theorem releases_cases (h : s.Sound d tokens tok clock.timestamp) {env : Env} {g : Address}
    {amount : ℤ} {w' : GuarantorVault.World T}
    (hreleases : LoanLedger.Releases (ledgerVaults d tokens) env s.ledger g amount s.world w') :
    w'.token = s.world.token ∧ w'.vault.vaults = if 0 < amount then
      Function.update s.world.vault.vaults g (some
        { guarantor := g, collateralBalance := s.world.vault.collateralBalance g
          lockedAmount := s.world.vault.lockedAmount g - amount })
      else s.world.vault.vaults := by
  rcases h.wired.releaseCall hreleases with ⟨hpos, hcall⟩ | ⟨hpos, rfl⟩
  · obtain ⟨-, -, -, -, rfl⟩ := GuarantorVault.exec_effect h.solvent.sound h.solvent.uses hcall
    exact ⟨rfl, (if_pos hpos).symm⟩
  · exact ⟨rfl, (if_neg hpos).symm⟩

end Spec

/-! ## One attestation for two -/

/-- Two systems agree on everything a repayment of loan `id` touches, up to the due date of the loan
if it is closed: there the second one has `due`. -/
structure Agrees (id due : ℕ) (s s' : System T) : Prop where
  loan : s'.loans id = (s.loans id).map (Loan.rescheduled due)
  others : ∀ other, other ≠ id → s'.loans other = s.loans other
  openLoans : s'.ledger.openLoans = s.ledger.openLoans
  vaults : s'.world.vault.vaults = s.world.vault.vaults
  token : s'.world.token = s.world.token
  engine : s'.engine = s.engine

theorem Agrees.trans {id due due' : ℕ} {a b c : System T} (h : Agrees id due a b)
    (h' : Agrees id due' b c) : Agrees id due' a c where
  loan := by
    rw [h'.loan, h.loan, Option.map_map]
    congr 1
    funext loan
    exact Loan.rescheduled_rescheduled due due'
  others other hne := (h'.others other hne).trans (h.others other hne)
  openLoans := h'.openLoans.trans h.openLoans
  vaults := h'.vaults.trans h.vaults
  token := h'.token.trans h.token
  engine := h'.engine.trans h.engine

/-- Recording a loan twice leaves what recording it once leaves, up to the due date of a loan that
was closed the second time. -/
theorem agrees_record (s : System T) {id : ℕ} (due : ℕ) {loan₁ loan₂ : Loan} (hid : loan₂.id = id)
    (hopen : loan₁.isOpen = true) (hid₁ : loan₁.id = loan₂.id)
    {w₂ w' : GuarantorVault.World T} {ttl₁ ttl₂ ttl' : Lifetimes LoanLedger.Key}
    (htoken : w'.token = w₂.token) (hvaults : w'.vault.vaults = w₂.vault.vaults) :
    Agrees id due
      { s with ledger := (s.ledger.record loan₁ ttl₁).record loan₂ ttl₂, world := w₂ }
      { s with ledger := s.ledger.record (loan₂.rescheduled due) ttl', world := w' } where
  loan := by simp [System.loans, LoanLedger.State.record, hid]
  others other hne := by
    simp [System.loans, LoanLedger.State.record, hid₁, hid, Function.update_of_ne hne]
  openLoans := by simp [LoanLedger.State.record, hopen]
  vaults := hvaults
  token := htoken
  engine := rfl

section Add

variable {partner verifier : Address} {loanId : ℕ} {a b r r₁ r₂ : ℤ} {s₁ s₂ : System T}
  {loan : Loan}

/-- An attestation takes nothing back. -/
theorem attest_nonneg (h : s.Sound d tokens tok clock.timestamp)
    (hattest : attest d tokens origin clock partner verifier loanId a s = some (r, s')) :
    0 ≤ r := by
  obtain ⟨loan, hchecks, -, rfl, -⟩ := (attest_eq_some h).mp hattest
  exact earned_sub_nonneg h.ledger.accepted (h.ledger.loans _ _ hchecks.found) hchecks.isOpen
    hchecks.pos

/-- Two releases to one guarantor leave the record that one release of their sum leaves. -/
theorem vaults_releases_add (h : s.Sound d tokens tok clock.timestamp) {env : Env}
    {ledger : LoanLedger.State} {g : Address} {w₁ w₂ w' : GuarantorVault.World T} (h₁ : 0 ≤ r₁)
    (h₂ : 0 ≤ r₂)
    (hsound₁ : ({ s with ledger, world := w₁ } : System T).Sound d tokens tok clock.timestamp)
    (hreleases₁ : LoanLedger.Releases (ledgerVaults d tokens) env s.ledger g r₁ s.world w₁)
    (hreleases₂ : LoanLedger.Releases (ledgerVaults d tokens) env ledger g r₂ w₁ w₂)
    (hreleases : LoanLedger.Releases (ledgerVaults d tokens) env s.ledger g (r₁ + r₂) s.world w') :
    w'.token = w₂.token ∧ w'.vault.vaults = w₂.vault.vaults := by
  obtain ⟨htoken₁, hvaults₁⟩ := releases_cases h hreleases₁
  obtain ⟨htoken₂, hvaults₂⟩ := releases_cases hsound₁ hreleases₂
  obtain ⟨htoken, hvaults⟩ := releases_cases h hreleases
  obtain ⟨hbalance, hlocked⟩ := returned_posts h₁ (h.releases hreleases₁).1 g
  rw [if_pos rfl] at hlocked
  refine ⟨htoken.trans (htoken₂.trans htoken₁).symm, ?_⟩
  simp only [hvaults₁, hbalance, hlocked] at hvaults₂
  rw [hvaults, hvaults₂]
  -- a part that returns nothing calls no vault
  by_cases hpos₁ : 0 < r₁
  · by_cases hpos₂ : 0 < r₂
    · simp only [hpos₁, hpos₂, Int.add_pos hpos₁ hpos₂, if_true, Function.update_idem]
      rw [Int.sub_sub]
    · obtain rfl : r₂ = 0 := le_antisymm (not_lt.mp hpos₂) h₂
      simp [hpos₁]
  · obtain rfl : r₁ = 0 := le_antisymm (not_lt.mp hpos₁) h₁
    simp

/-- **Two payments.** An attestation of the sum of two payments goes through where both do, returns
what both return and leaves what both leave. -/
theorem attest_add (h : s.Sound d tokens tok clock.timestamp) (hbalanced : s.Balanced)
    (hfound : s.loans loanId = some loan)
    (ha : attest d tokens origin clock partner verifier loanId a s = some (r₁, s₁))
    (hb : attest d tokens origin clock partner verifier loanId b s₁ = some (r₂, s₂)) :
    ∃ s', attest d tokens origin clock partner verifier loanId (a + b) s = some (r₁ + r₂, s') ∧
      Agrees loanId loan.nextDue s₂ s' := by
  have h₁ := attest_sound h ha
  have hr₁ := attest_nonneg h ha
  have hr₂ := attest_nonneg h₁ hb
  obtain ⟨loan₁, hchecks₁, hfits₁, hearned₁, w₁, hreleases₁, rfl⟩ := (attest_eq_some h).mp ha
  obtain rfl : loan = loan₁ := Option.some.inj (hfound.symm.trans hchecks₁.found)
  obtain ⟨loan₂, hchecks₂, hfits₂, hearned₂, w₂, hreleases₂, rfl⟩ := (attest_eq_some h₁).mp hb
  have hid : loan.id = loanId := h.ledger.keyed _ _ hchecks₁.found
  obtain rfl : loan.repay d.config clock.timestamp a = loan₂ := by
    have hfound₂ := hchecks₂.found
    rw [← hid] at hfound₂
    exact Option.some.inj ((Function.update_self loan.id _ _).symm.trans hfound₂)
  have hsound := h.ledger.loans _ _ hchecks₁.found
  have hopen := hchecks₁.isOpen
  -- the first payment did not close the loan, or the second would have been refused
  have hlt : loan.totalRepaidUsd + a < loan.principalUsd := by
    have hopen₁ := hchecks₂.isOpen
    rw [LoanLedger.repay_isOpen hopen] at hopen₁
    exact of_decide_eq_true hopen₁
  have hassoc : loan.totalRepaidUsd + (a + b) = loan.totalRepaidUsd + a + b := by omega
  have hearned : loan.earned d.config (loan.totalRepaidUsd + (a + b)) - loan.collateralReleased =
      r₁ + r₂ := by
    have hlast : loan.earned d.config (loan.totalRepaidUsd + a + b) -
      loan.earned d.config (loan.totalRepaidUsd + a) = r₂ := hearned₂
    rw [hassoc]
    omega
  have hchecks : LoanLedger.Attestation (origin.env clock d.ledger) partner verifier loanId (a + b)
      s.ledger loan :=
    { hchecks₁ with
      pos := Int.add_pos hchecks₁.pos hchecks₂.pos
      le := hassoc ▸ hchecks₂.le }
  have hfits : loan.Fits d.config (loan.totalRepaidUsd + (a + b)) := by
    rw [hassoc]
    exact { hfits₂ with }
  -- the vault cannot refuse the sum: the loan still holds it
  have hheld : r₁ + r₂ ≤ loan.remaining := by
    rw [← hearned]
    exact sub_le_sub_right (hsound.wf.earned_le h.ledger.accepted) _
  obtain ⟨w', hreleases⟩ := releases_succeed h hbalanced hchecks₁.found hopen hheld origin
  obtain ⟨htoken, hvaults⟩ := vaults_releases_add h hr₁ hr₂ h₁ hreleases₁ hreleases₂ hreleases
  have hrepay : loan.repay d.config clock.timestamp (a + b) =
      ((loan.repay d.config clock.timestamp a).repay d.config clock.timestamp b).rescheduled
        loan.nextDue := hsound.wf.repay_add hopen hlt (le_of_lt hchecks₂.pos)
  refine ⟨_, (attest_eq_some h).mpr ⟨loan, hchecks, hfits, hearned, w', hreleases, rfl⟩, ?_⟩
  have hid₂ : ((loan.repay d.config clock.timestamp a).repay d.config clock.timestamp b).id =
    loanId := hid
  rw [hrepay]
  exact agrees_record s loan.nextDue hid₂ hchecks₂.isOpen rfl htoken hvaults

/-- **Many payments.** An attestation of the sum of any payments goes through where all of them do,
returns what they return together and leaves what they leave. -/
theorem attestAll_sum (h : s.Sound d tokens tok clock.timestamp) (hbalanced : s.Balanced)
    (hfound : s.loans loanId = some loan) {payments : List ℤ} (hne : payments ≠ [])
    {returns : List ℤ} (hpaid : attestAll d tokens origin clock partner verifier loanId payments s =
      some (returns, s₂)) :
    (∀ r ∈ returns, 0 ≤ r) ∧
    ∃ s', attest d tokens origin clock partner verifier loanId payments.sum s =
        some (returns.sum, s') ∧ Agrees loanId loan.nextDue s₂ s' := by
  -- the sum of the rest is one payment by induction, and the first is batched with it
  induction payments generalizing s loan returns with
  | nil => exact absurd rfl hne
  | cons a rest ih =>
      simp only [attestAll, Option.bind_eq_bind, Option.bind_eq_some_iff, Prod.exists,
        Option.some.injEq, Prod.mk.injEq] at hpaid
      obtain ⟨r, s₁, ha, returns, s₂, hrest, rfl, rfl⟩ := hpaid
      have hr := attest_nonneg h ha
      have h₁ := attest_sound h ha
      obtain ⟨hopen, hfound₁⟩ := attest_loan h hfound ha
      cases rest with
      | nil =>
          obtain ⟨rfl, rfl⟩ : [] = returns ∧ s₁ = s₂ := by simpa [attestAll] using hrest
          refine ⟨by simpa using hr, s₁, by simpa using ha, ?_⟩
          exact { loan := by rw [hfound₁, Option.map_some, Loan.rescheduled_repay hopen]
                  others := fun _ _ => rfl
                  openLoans := rfl
                  vaults := rfl
                  token := rfl
                  engine := rfl }
      | cons b rest =>
          obtain ⟨hreturns, s₃, hsum, hagrees⟩ :=
            ih h₁ (attest_balanced h hbalanced ha) hfound₁ (List.cons_ne_nil _ _) hrest
          obtain ⟨s', hattest, hagrees'⟩ := attest_add h hbalanced hfound ha hsum
          exact ⟨List.forall_mem_cons.mpr ⟨hr, hreturns⟩, s', hattest, hagrees.trans hagrees'⟩

end Add

/-- **Batching.** In every reachable state of the wired system, for any open loan and signers: where
two attestations at the same time go through, or any number of them one after the other, one
attestation of their sum goes through and returns what they return together, which is no less than
nothing each time; and it leaves the same loans, markers, vault records and tokens, except that a
loan that is now closed keeps the due date it had before. -/
theorem attestations_batched {s : Timed (System T)} (h : (machine d tokens tok).Reachable s)
    (origin : Origin) (partner verifier : Address) {loanId : ℕ} {loan : Loan}
    (hfound : s.state.loans loanId = some loan) :
    (∀ a b r₁ s₁ r₂ s₂,
      attest d tokens origin s.clock partner verifier loanId a s.state = some (r₁, s₁) →
      attest d tokens origin s.clock partner verifier loanId b s₁ = some (r₂, s₂) →
        0 ≤ r₁ ∧ 0 ≤ r₂ ∧
        ∃ s', attest d tokens origin s.clock partner verifier loanId (a + b) s.state =
            some (r₁ + r₂, s') ∧ Agrees loanId loan.nextDue s₂ s') ∧
    ∀ payments returns s₂, payments ≠ [] →
      attestAll d tokens origin s.clock partner verifier loanId payments s.state =
        some (returns, s₂) →
        (∀ r ∈ returns, 0 ≤ r) ∧
        ∃ s', attest d tokens origin s.clock partner verifier loanId payments.sum s.state =
            some (returns.sum, s') ∧ Agrees loanId loan.nextDue s₂ s' := by
  have hsound := System.Sound.of_reachable h
  have hbalanced := System.Balanced.of_reachable h
  refine ⟨fun a b r₁ s₁ r₂ s₂ ha hb => ?_, fun payments returns s₂ hne hpaid => ?_⟩
  · exact ⟨attest_nonneg hsound ha, attest_nonneg (attest_sound hsound ha) hb,
      attest_add hsound hbalanced hfound ha hb⟩
  · exact attestAll_sum hsound hbalanced hfound hne hpaid

/-- A loan of 120 repaid in three parts: one attestation of 120 does what the three do. -/
theorem attestations_batched_threeParts : ∃ history s s₂ s', sampleMachine.Run history s ∧
    attestAll sample (fun _ => GuarantorVault.tableToken.client) sampleOrigin s.clock ⟨5⟩ ⟨6⟩ 1
      [30, 50, 40] s.state = some ([42, 72, 66], s₂) ∧
    attest sample (fun _ => GuarantorVault.tableToken.client) sampleOrigin s.clock ⟨5⟩ ⟨6⟩ 1 120
      s.state = some (180, s') ∧ Agrees 1 86400 s₂ s' := by
  obtain ⟨history, s, hrun, hdue, hparts⟩ := exists_run_of_playLoan
    (P := fun _ s => (s.state.loans 1).any (fun loan => loan.nextDue = 86400) = true ∧
      (attestAll sample (fun _ => GuarantorVault.tableToken.client) sampleOrigin s.clock ⟨5⟩ ⟨6⟩ 1
        [30, 50, 40] s.state).any (fun paid => paid.1 = [42, 72, 66]) = true)
    (show (playLoan []).any _ = true by decide +kernel)
  obtain ⟨loan, hfound, hdue⟩ := Option.any_eq_true _ _ |>.mp hdue
  obtain ⟨⟨returns, s₂⟩, hpaid, hreturns⟩ := Option.any_eq_true _ _ |>.mp hparts
  obtain rfl : returns = [42, 72, 66] := of_decide_eq_true hreturns
  obtain ⟨-, s', hattest, hagrees⟩ := (attestations_batched hrun.reachable sampleOrigin ⟨5⟩ ⟨6⟩
    hfound).2 _ _ _ (by decide) hpaid
  rw [of_decide_eq_true hdue] at hagrees
  exact ⟨history, s, s₂, s', hrun, hpaid, hattest, hagrees⟩

/-- The due date of a closed loan tells the parts: of a loan of 120, a payment of 60 moves it to the
end of the second day and the other 60 leave it there, one payment of 120 leaves it at the end of
the first. -/
theorem attestations_not_batched : ∃ history s r₁ s₁ r₂ s₂ r s', sampleMachine.Run history s ∧
    attest sample (fun _ => GuarantorVault.tableToken.client) sampleOrigin s.clock ⟨5⟩ ⟨6⟩ 1 60
      s.state = some (r₁, s₁) ∧
    attest sample (fun _ => GuarantorVault.tableToken.client) sampleOrigin s.clock ⟨5⟩ ⟨6⟩ 1 60 s₁ =
      some (r₂, s₂) ∧
    attest sample (fun _ => GuarantorVault.tableToken.client) sampleOrigin s.clock ⟨5⟩ ⟨6⟩ 1
      (60 + 60) s.state = some (r, s') ∧
    (s₂.loans 1).map Loan.nextDue = some 172800 ∧ (s'.loans 1).map Loan.nextDue = some 86400 ∧
    s'.loans 1 ≠ s₂.loans 1 := by
  obtain ⟨history, s, hrun, hchecked⟩ := exists_run_of_playLoan
    (P := fun _ s => (attest sample (fun _ => GuarantorVault.tableToken.client) sampleOrigin s.clock
        ⟨5⟩ ⟨6⟩ 1 60 s.state).any (fun first =>
      (attest sample (fun _ => GuarantorVault.tableToken.client) sampleOrigin s.clock ⟨5⟩ ⟨6⟩ 1 60
        first.2).any fun second =>
      (attest sample (fun _ => GuarantorVault.tableToken.client) sampleOrigin s.clock ⟨5⟩ ⟨6⟩ 1
        (60 + 60) s.state).any fun both =>
      (second.2.loans 1).map Loan.nextDue = some 172800 ∧
        (both.2.loans 1).map Loan.nextDue = some 86400) = true)
    (show (playLoan []).any _ = true by decide +kernel)
  obtain ⟨⟨r₁, s₁⟩, hfirst, hchecked⟩ := Option.any_eq_true _ _ |>.mp hchecked
  obtain ⟨⟨r₂, s₂⟩, hsecond, hchecked⟩ := Option.any_eq_true _ _ |>.mp hchecked
  obtain ⟨⟨r, s'⟩, hboth, hchecked⟩ := Option.any_eq_true _ _ |>.mp hchecked
  obtain ⟨hlate, hearly⟩ := of_decide_eq_true hchecked
  refine ⟨history, s, r₁, s₁, r₂, s₂, r, s', hrun, hfirst, hsecond, hboth, hlate, hearly,
    fun hsame => ?_⟩
  rw [hsame, hlate] at hearly
  exact absurd hearly (by decide)

end RemitCollateral.Protocol
