import RemitCollateral.LoanLedger.LifeCycle

/-! # What each ledger operation does

Every operation on a loan checks its conditions, makes one move of the loan's life and records the
result. This file states that once per operation, in both directions: what follows from a call that
returned, and what is enough for it to return. Lifetimes are kept out of the statements: an
operation leaves the state they describe with some lifetimes. -/

namespace RemitCollateral.LoanLedger

open Soroban

/-! ## The invariant of the storage -/

/-- What holds of the stored data at time `now`: every loan is sound and stored under its own id,
among those originated, with an LTV no lower than the floor; the open-loan markers are those of the
open loans; no address is registered in both roles. -/
structure State.Sound (config : Config) (now : ℕ) (s : State) : Prop where
  accepted : config.Accepted
  config_eq : s.config = some config
  loans : ∀ id loan, s.loans id = some loan → loan.Sound config now
  keyed : ∀ id loan, s.loans id = some loan → loan.id = id
  counted : ∀ id loan, s.loans id = some loan → 1 ≤ id ∧ id ≤ getLoanCount s
  ltv : ∀ id loan, s.loans id = some loan → config.minLtvBps ≤ loan.ltvBps
  markers : ∀ guarantor beneficiary id, s.openLoans (guarantor, beneficiary) = some id ↔
    ∃ loan, s.loans id = some loan ∧ loan.isOpen = true ∧ loan.guarantor = guarantor ∧
      loan.beneficiary = beneficiary
  scores : ∀ beneficiary, (getReputation beneficiary s : ℤ) ≤ BPS
  roles : ∀ address, ¬ (s.partners address = some true ∧ s.verifiers address = some true)

/-- The next number to originate is not taken. -/
theorem State.Sound.fresh {config : Config} {now : ℕ} {s : State} (h : s.Sound config now) {id : ℕ}
    (hid : id = getLoanCount s + 1) : s.loans id = none := by
  cases hloan : s.loans id with
  | none => rfl
  | some loan =>
      have := (h.counted _ _ hloan).2
      omega

/-! ## Lifetimes -/

/-- The same stored data with other lifetimes. -/
def State.withTtl (s : State) (ttl : Lifetimes Key) : State := { s with ttl }

section Lifetimes

variable (env : Env) (s : State) (ttl ttl' : Lifetimes Key)

@[simp] theorem withTtl_governance : (s.withTtl ttl).governance = s.governance := rfl
@[simp] theorem withTtl_vault : (s.withTtl ttl).vault = s.vault := rfl
@[simp] theorem withTtl_wasm : (s.withTtl ttl).wasm = s.wasm := rfl
@[simp] theorem withTtl_liquidationEngine :
    (s.withTtl ttl).liquidationEngine = s.liquidationEngine := rfl
@[simp] theorem withTtl_config : (s.withTtl ttl).config = s.config := rfl
@[simp] theorem withTtl_loans : (s.withTtl ttl).loans = s.loans := rfl
@[simp] theorem withTtl_partners : (s.withTtl ttl).partners = s.partners := rfl
@[simp] theorem withTtl_verifiers : (s.withTtl ttl).verifiers = s.verifiers := rfl
@[simp] theorem withTtl_reputation : (s.withTtl ttl).reputation = s.reputation := rfl
@[simp] theorem withTtl_openLoans : (s.withTtl ttl).openLoans = s.openLoans := rfl
@[simp] theorem getLoanCount_withTtl : getLoanCount (s.withTtl ttl) = getLoanCount s := rfl
@[simp] theorem requiredLtvBps_withTtl (beneficiary : BytesN32) :
    requiredLtvBps beneficiary (s.withTtl ttl) = requiredLtvBps beneficiary s := rfl
@[simp] theorem withTtl_withTtl : (s.withTtl ttl).withTtl ttl' = s.withTtl ttl' := rfl

/-- The lifetimes after an entry has been renewed if it exists. -/
def touchedTtl (key : Key) : Lifetimes Key := (touch env key s).ttl

/-- The lifetimes after a partner's registration has been read. -/
def partnerTtl (partner : Address) : Lifetimes Key := (authorizedPartner env partner s).2.ttl

/-- The lifetimes after a verifier's registration has been read. -/
def verifierTtl (verifier : Address) : Lifetimes Key := (authorizedVerifier env verifier s).2.ttl

/-- The lifetimes after a loan has been stored. -/
def savedTtl (loan : Loan) : Lifetimes Key := (saveLoan env loan s).ttl

/-- The lifetimes after an operation has loaded a loan. -/
def loadedTtl (loanId : ℕ) : Lifetimes Key :=
  (s.ttl.extendInstance env threshold extendTo).extendEntry env threshold extendTo (.loan loanId)

theorem extendInstance_eq : extendInstance env s =
    s.withTtl (s.ttl.extendInstance env threshold extendTo) := rfl

theorem created_eq (key : Key) :
    created env key s = s.withTtl (s.ttl.onSet env (hasEntry s key) key) := rfl

theorem touch_eq (key : Key) : touch env key s = s.withTtl (touchedTtl env s key) := by
  unfold touchedTtl touch State.withTtl
  split <;> rfl

theorem authorizedPartner_eq (partner : Address) : authorizedPartner env partner s =
    ((s.partners partner).getD false, s.withTtl (partnerTtl env s partner)) := by
  unfold partnerTtl authorizedPartner
  cases s.partners partner with
  | none => rfl
  | some authorized => simp only [touch_eq, Option.getD_some]; rfl

theorem authorizedVerifier_eq (verifier : Address) : authorizedVerifier env verifier s =
    ((s.verifiers verifier).getD false, s.withTtl (verifierTtl env s verifier)) := by
  unfold verifierTtl authorizedVerifier
  cases s.verifiers verifier with
  | none => rfl
  | some authorized => simp only [touch_eq, Option.getD_some]; rfl

@[simp] theorem loanOf_eq_ok {loanId : ℕ} {loan : Loan} {s' : State} :
    loanOf env loanId s = .ok (loan, s') ↔ s.loans loanId = some loan ∧
      s.withTtl (s.ttl.extendEntry env threshold extendTo (.loan loanId)) = s' := by
  simp [loanOf, extendEntry, State.withTtl]

end Lifetimes

/-- Drop the open-loan marker of a loan. -/
def State.unmark (s : State) (loan : Loan) : State :=
  { s with openLoans := Function.update s.openLoans (loan.guarantor, loan.beneficiary) none }

/-- Record a loan, dropping its open-loan marker if it is closed. -/
def State.record (s : State) (loan : Loan) (ttl : Lifetimes Key) : State :=
  { s with
    loans := Function.update s.loans loan.id (some loan)
    openLoans := if loan.isOpen then s.openLoans
      else Function.update s.openLoans (loan.guarantor, loan.beneficiary) none
    ttl }

/-- Storing an open loan records it. -/
theorem saveLoan_of_open (env : Env) (s : State) {loan : Loan} (hopen : loan.isOpen = true) :
    saveLoan env loan s = s.record loan (savedTtl env s loan) := by
  simp only [State.record, hopen, if_true, savedTtl, saveLoan, touch_eq, extendEntry, created,
    State.withTtl]

/-- Dropping the marker of a closed loan and storing it records it. -/
theorem saveLoan_unmark (env : Env) (s : State) {loan : Loan} (hclosed : loan.isOpen = false) :
    saveLoan env loan (s.unmark loan) = s.record loan (savedTtl env (s.unmark loan) loan) := by
  simp [State.record, State.unmark, hclosed, savedTtl, saveLoan, touch_eq, extendEntry, created,
    State.withTtl]

/-- Storing a closed loan and dropping its marker records it. -/
theorem unmark_saveLoan (env : Env) (s : State) {loan : Loan} (hclosed : loan.isOpen = false) :
    (saveLoan env loan s).unmark loan = s.record loan (savedTtl env s loan) := by
  simp [State.record, State.unmark, hclosed, savedTtl, saveLoan, touch_eq, extendEntry, created,
    State.withTtl]

/-! ## The arithmetic of a repayment -/

/-- The arithmetic of a repayment that brings the repaid principal to `total` stays in range. -/
structure Loan.Fits (config : Config) (loan : Loan) (total : ℤ) : Prop where
  scaled : InI128 (total * loan.installmentCount)
  earned : total < loan.principalUsd → InI128 (loan.collateralLocked * total)
  kept : total < loan.principalUsd → InI128 (loan.collateralLocked * total * config.kept)
  scale : total < loan.principalUsd → InI128 (loan.principalUsd * BPS)
  due : total < loan.principalUsd → InU64 (loan.dueAfter total)

section Arithmetic

variable {config : Config} {loan : Loan} {s : State}

/-- The number of installments covered fits its type whenever the product it is computed from
does. -/
theorem installmentsCovered_eq_ok (hwf : loan.Wf) (h0 : 0 ≤ loan.totalRepaidUsd)
    (hle : loan.totalRepaidUsd ≤ loan.principalUsd) {k : ℕ} :
    installmentsCovered loan = .ok k ↔
      InI128 (loan.totalRepaidUsd * loan.installmentCount) ∧
        loan.covered loan.totalRepaidUsd = k := by
  have hpos := hwf.principal_pos
  have hcount := hwf.count_le
  have hscaled : 0 ≤ loan.totalRepaidUsd * loan.installmentCount :=
    mul_nonneg h0 (Int.natCast_nonneg _)
  -- at most 52 installments are covered, which neither the division nor the cast can spoil
  have hcovered0 := Proportion.covered_nonneg h0 (Int.natCast_nonneg loan.installmentCount) hpos
  have hcovered : Proportion.covered loan.totalRepaidUsd loan.installmentCount loan.principalUsd ≤
      loan.installmentCount :=
    calc Proportion.covered loan.totalRepaidUsd loan.installmentCount loan.principalUsd
        ≤ Proportion.covered loan.principalUsd loan.installmentCount loan.principalUsd :=
          Proportion.covered_mono (Int.natCast_nonneg _) hpos hle
      _ = loan.installmentCount := Proportion.covered_total hpos
  have hdiv : (loan.totalRepaidUsd * loan.installmentCount).tdiv loan.principalUsd =
      Proportion.covered loan.totalRepaidUsd loan.installmentCount loan.principalUsd :=
    Int.tdiv_eq_ediv_of_nonneg hscaled
  have hsmall : (loan.installmentCount : ℤ) ≤ 52 := by
    unfold maxInstallments at hcount
    omega
  have hi128 : InI128 (Proportion.covered loan.totalRepaidUsd loan.installmentCount
      loan.principalUsd) :=
    InI128.of_nonneg_of_le (by decide : InI128 52) hcovered0 (le_trans hcovered hsmall)
  have hcast : castU32 (Proportion.covered loan.totalRepaidUsd loan.installmentCount
      loan.principalUsd) = loan.covered loan.totalRepaidUsd := by
    have := castU32_of_lt hcovered0 (by omega)
    rw [Loan.covered]
    omega
  simp only [installmentsCovered, bind_eq_ok, i128_eq_ok, i128Div_eq_ok, pure_eq_ok, hdiv,
    and_assoc, exists_and_left, exists_eq_left', hcast]
  exact and_congr_right fun _ => ⟨fun h => h.2.2, fun h => ⟨ne_of_gt hpos, hi128, h⟩⟩

/-- The collateral earned back fits its type whenever the products it is computed from do. -/
theorem releasable_eq_ok (hconfig : config.Accepted) (hs : s.config = some config) (hwf : loan.Wf)
    (h0 : 0 ≤ loan.totalRepaidUsd) {r : ℤ} :
    releasable loan s = .ok r ↔
      (loan.totalRepaidUsd < loan.principalUsd →
        InI128 (loan.collateralLocked * loan.totalRepaidUsd) ∧
        InI128 (loan.collateralLocked * loan.totalRepaidUsd * config.kept) ∧
        InI128 (loan.principalUsd * BPS)) ∧
      loan.earned config loan.totalRepaidUsd = r := by
  by_cases hend : loan.principalUsd ≤ loan.totalRepaidUsd
  · simp [releasable, Loan.earned, hend]
  · have hlt := not_le.mp hend
    have hlocked := hwf.collateral_pos
    have hpos := hwf.principal_pos
    have hkept0 := hconfig.kept_pos
    have hkept : InI128 config.kept :=
      InI128.of_nonneg_of_le (by decide : InI128 BPS) (le_of_lt hkept0) config.kept_le
    -- on a non-negative numerator the division of the source is the floor
    have hdiv : (loan.collateralLocked * loan.totalRepaidUsd * config.kept).tdiv
        (loan.principalUsd * BPS) = loan.earned config loan.totalRepaidUsd := by
      rw [Loan.earned_of_lt hlt, Int.tdiv_eq_ediv_of_nonneg]
      · rfl
      · exact mul_nonneg (mul_nonneg (le_of_lt hlocked) h0) (le_of_lt hkept0)
    have hearned : InI128 (loan.earned config loan.totalRepaidUsd) := by
      rw [Loan.earned_of_lt hlt]
      refine hwf.collateral_i128.of_nonneg_of_le ?_ (le_of_lt ?_)
      · exact Proportion.earned_nonneg (le_of_lt hlocked) h0 hpos (le_of_lt hkept0) (by decide)
      · exact Proportion.earned_lt_whole hlocked hlt hpos (by decide) hkept0 config.kept_le
    have hscale : loan.principalUsd * BPS ≠ 0 := ne_of_gt (mul_pos hpos (by decide))
    have hconfig' : getConfig s = .ok config := by simp [getConfig, hs]
    have hkept' : BPS - (config.safetyBufferBps : ℤ) = config.kept := rfl
    simp only [releasable, if_neg hend, bind_eq_ok, hconfig', i128_eq_ok, i128Div_eq_ok, hkept',
      and_assoc, exists_and_left, exists_eq_left', Except.ok.injEq, hdiv, hlt, true_implies]
    constructor
    · rintro ⟨hi, -, hk, hp, -, -, hr⟩
      exact ⟨hi, hk, hp, hr⟩
    · rintro ⟨hi, hk, hp, hr⟩
      exact ⟨hi, hkept, hk, hp, hscale, hearned, hr⟩

end Arithmetic

/-! ## Operations on a loan -/

section Operations

variable {X : Type} {vaults : Address → VaultClient X} {env : Env} {config : Config}
  {s s' : State} {x x' : X} {loan loan' : Loan}

/-- The vault call of a repayment that earns `amount` back: none when there is
nothing to release. -/
def Releases (vaults : Address → VaultClient X) (env : Env) (s : State) (guarantor : Address)
    (amount : ℤ) (x x' : X) : Prop :=
  if 0 < amount then ∃ vault, s.vault = some vault ∧
    (vaults vault).releaseCollateral (env.call vault) env.currentContract guarantor amount x =
      some x'
  else x = x'

theorem releaseEarned_eq_ok {r : ℤ} : releaseEarned vaults env loan r s x = .ok (loan', x') ↔
    (0 < r → InI128 (loan.collateralReleased + r)) ∧ Releases vaults env s loan.guarantor r x x' ∧
    { loan with collateralReleased := loan.collateralReleased + max r 0 } = loan' := by
  unfold releaseEarned Releases
  by_cases hr : 0 < r
  · rw [if_pos hr, if_pos hr, max_eq_left (le_of_lt hr)]
    simp only [bind_eq_ok, orPanic_eq_ok, callee_eq_ok, i128_eq_ok, pure_eq_ok, Prod.mk.injEq,
      and_assoc, exists_and_left, exists_eq_left']
    constructor
    · rintro ⟨vault, hvault, x₁, hcall, hi128, hloan, rfl⟩
      exact ⟨fun _ => hi128, ⟨vault, hvault, hcall⟩, hloan⟩
    · rintro ⟨hi128, ⟨vault, hvault, hcall⟩, hloan⟩
      exact ⟨vault, hvault, x', hcall, hi128 hr, hloan, rfl⟩
  · rw [if_neg hr, if_neg hr, max_eq_right (not_lt.mp hr), add_zero]
    simp only [pure_eq_ok, Prod.mk.injEq]
    exact ⟨fun h => ⟨fun hpos => absurd hpos hr, h.2, h.1⟩, fun h => ⟨h.2.2, h.2.1⟩⟩

theorem closeOrReschedule_eq_ok : closeOrReschedule env loan s = .ok (loan', s') ↔
    if loan.principalUsd ≤ loan.totalRepaidUsd then
      { loan with status := .repaid, graceExpiresAt := 0 } = loan' ∧
      s.unmark loan = s'
    else InU64 (loan.installmentsPaid + 1) ∧
      InU64 ((loan.installmentsPaid + 1) * loan.intervalSecs) ∧
      InU64 (loan.dueDate (loan.installmentsPaid + 1)) ∧
      (if env.timestamp ≤ loan.dueDate (loan.installmentsPaid + 1) then
        { loan with
          nextDue := loan.dueDate (loan.installmentsPaid + 1), status := .active
          graceExpiresAt := 0 }
      else { loan with nextDue := loan.dueDate (loan.installmentsPaid + 1) }) = loan' ∧ s = s' := by
  unfold closeOrReschedule
  split
  · simp only [pure_eq_ok, Prod.mk.injEq, State.unmark]
  · simp only [bind_eq_ok, u64_eq_ok, pure_eq_ok, Prod.mk.injEq, and_assoc, exists_and_left,
      exists_eq_left', Loan.dueDate]
    exact Iff.rfl

/-- The loan an attestation has computed, before it closes or reschedules it. -/
def Loan.credited (config : Config) (amountUsd : ℤ) (loan : Loan) : Loan :=
  { loan with
    totalRepaidUsd := loan.totalRepaidUsd + amountUsd
    installmentsPaid := loan.covered (loan.totalRepaidUsd + amountUsd)
    collateralReleased := loan.earned config (loan.totalRepaidUsd + amountUsd) }

section Credited

variable {amountUsd : ℤ}

@[simp] theorem credited_principalUsd :
    (loan.credited config amountUsd).principalUsd = loan.principalUsd := rfl

@[simp] theorem credited_totalRepaidUsd :
    (loan.credited config amountUsd).totalRepaidUsd = loan.totalRepaidUsd + amountUsd := rfl

@[simp] theorem credited_installmentsPaid : (loan.credited config amountUsd).installmentsPaid =
    loan.covered (loan.totalRepaidUsd + amountUsd) := rfl

@[simp] theorem credited_intervalSecs :
    (loan.credited config amountUsd).intervalSecs = loan.intervalSecs := rfl

theorem credited_dueDate : (loan.credited config amountUsd).dueDate
      (loan.covered (loan.totalRepaidUsd + amountUsd) + 1) =
    loan.dueAfter (loan.totalRepaidUsd + amountUsd) := rfl

@[simp] theorem unmark_credited :
    s.unmark (loan.credited config amountUsd) = s.unmark loan := rfl

end Credited

/-- Closing or rescheduling the computed loan is the repayment. -/
theorem closeOrReschedule_credited (hwf : loan.Wf) {amountUsd : ℤ} :
    closeOrReschedule env (loan.credited config amountUsd) s = .ok (loan', s') ↔
      (loan.totalRepaidUsd + amountUsd < loan.principalUsd →
        InU64 (loan.dueAfter (loan.totalRepaidUsd + amountUsd))) ∧
      loan.repay config env.timestamp amountUsd = loan' ∧
      (if loan.principalUsd ≤ loan.totalRepaidUsd + amountUsd then s.unmark loan else s) = s' := by
  rw [closeOrReschedule_eq_ok]
  simp only [credited_principalUsd, credited_totalRepaidUsd, credited_installmentsPaid,
    credited_intervalSecs, credited_dueDate, unmark_credited]
  by_cases hend : loan.principalUsd ≤ loan.totalRepaidUsd + amountUsd
  · have hrepay : loan.repay config env.timestamp amountUsd =
        { loan.credited config amountUsd with status := .repaid, graceExpiresAt := 0 } := by
      simp [Loan.repay, Loan.credited, hend]
    simp only [hend, if_true, hrepay]
    exact ⟨fun h => ⟨fun hlt => absurd hend (not_le.mpr hlt), h⟩, fun h => h.2⟩
  · simp only [hend, if_false]
    have hrepay : loan.repay config env.timestamp amountUsd =
        if env.timestamp ≤ loan.dueAfter (loan.totalRepaidUsd + amountUsd) then
          { loan.credited config amountUsd with
            nextDue := loan.dueAfter (loan.totalRepaidUsd + amountUsd), status := .active
            graceExpiresAt := 0 }
        else { loan.credited config amountUsd with
          nextDue := loan.dueAfter (loan.totalRepaidUsd + amountUsd) } := by
      simp only [Loan.repay, Loan.credited, hend, if_false, false_or]
      split <;> rfl
    -- the two partial results are no larger than the due date they lead to
    have hsteps : loan.covered (loan.totalRepaidUsd + amountUsd) + 1 ≤
        (loan.covered (loan.totalRepaidUsd + amountUsd) + 1) * loan.intervalSecs :=
      Nat.le_mul_of_pos_right _ hwf.interval_pos
    have helapsed : (loan.covered (loan.totalRepaidUsd + amountUsd) + 1) * loan.intervalSecs ≤
        loan.dueAfter (loan.totalRepaidUsd + amountUsd) := Nat.le_add_left _ _
    rw [hrepay]
    constructor
    · rintro ⟨-, -, hdue, hloan, hs⟩
      exact ⟨fun _ => hdue, hloan, hs⟩
    · rintro ⟨hdue, hloan, hs⟩
      have hdue := hdue (not_le.mp hend)
      exact ⟨lt_of_le_of_lt (le_trans hsteps helapsed) hdue, lt_of_le_of_lt helapsed hdue, hdue,
        hloan, hs⟩

/-- What an attestation checks before it computes. -/
structure Attestation (env : Env) (partner verifier : Address) (loanId : ℕ) (amountUsd : ℤ)
    (s : State) (loan : Loan) : Prop where
  partner_signed : env.authorized partner
  verifier_signed : env.authorized verifier
  pos : 0 < amountUsd
  found : s.loans loanId = some loan
  own : partner = loan.partner
  partner_registered : s.partners partner = some true
  distinct : verifier ≠ partner
  verifier_registered : s.verifiers verifier = some true
  isOpen : loan.isOpen = true
  le : loan.totalRepaidUsd + amountUsd ≤ loan.principalUsd

section Attest

variable {partner verifier : Address} {loanId : ℕ} {amountUsd r : ℤ}

/-- The lifetimes after an attestation has read what it checks. -/
def checkedTtl (env : Env) (partner verifier : Address) (loanId : ℕ) (s : State) : Lifetimes Key :=
  let s := extendInstance env s
  let s := s.withTtl (s.ttl.extendEntry env threshold extendTo (.loan loanId))
  let s := s.withTtl (partnerTtl env s partner)
  verifierTtl env s verifier

/-- The lifetimes after an attestation has stored `loan`. -/
def attestedTtl (env : Env) (partner verifier : Address) (loanId : ℕ) (loan : Loan) (s : State) :
    Lifetimes Key :=
  let s := s.withTtl (checkedTtl env partner verifier loanId s)
  savedTtl env (if loan.isOpen then s else s.unmark loan) loan

theorem repay_isOpen (hopen : loan.isOpen = true) (now : ℕ) :
    (loan.repay config now amountUsd).isOpen =
      decide (loan.totalRepaidUsd + amountUsd < loan.principalUsd) := by
  have hstatus := Loan.isOpen_iff.mp hopen
  by_cases hend : loan.principalUsd ≤ loan.totalRepaidUsd + amountUsd
  · simp [Loan.repay, Loan.isOpen, hend]
  · have hlt := not_le.mp hend
    simp only [Loan.repay, Loan.isOpen, hend, if_false, hlt]
    split <;> simp [hstatus]

/-- Storing what a repayment left records it. -/
theorem saveLoan_repay (hopen : loan.isOpen = true) :
    saveLoan env (loan.repay config env.timestamp amountUsd)
      (if loan.principalUsd ≤ loan.totalRepaidUsd + amountUsd then s.unmark loan else s) =
    s.record (loan.repay config env.timestamp amountUsd) (savedTtl env
      (if (loan.repay config env.timestamp amountUsd).isOpen then s
        else s.unmark (loan.repay config env.timestamp amountUsd))
      (loan.repay config env.timestamp amountUsd)) := by
  have hafter : (loan.repay config env.timestamp amountUsd).isOpen =
    decide (loan.totalRepaidUsd + amountUsd < loan.principalUsd) := repay_isOpen hopen _
  by_cases hend : loan.principalUsd ≤ loan.totalRepaidUsd + amountUsd
  · -- the marker went before the record was stored
    rw [decide_eq_false (not_lt.mpr hend)] at hafter
    rw [if_pos hend, hafter, if_neg (by simp)]
    exact saveLoan_unmark env s hafter
  · rw [decide_eq_true (not_le.mp hend)] at hafter
    rw [if_neg hend, hafter, if_pos rfl]
    exact saveLoan_of_open env s hafter

/-- The computation of an attestation, once its checks have passed. -/
theorem attest_computes (hconfig : config.Accepted) (hs : s.config = some config)
    (h : loan.Sound config env.timestamp) (hopen : loan.isOpen = true) (hpos : 0 < amountUsd)
    (hle : loan.totalRepaidUsd + amountUsd ≤ loan.principalUsd) :
    (∃ paid, installmentsCovered { loan with totalRepaidUsd := loan.totalRepaidUsd + amountUsd } =
        .ok paid ∧
      ∃ e, releasable { loan with
          totalRepaidUsd := loan.totalRepaidUsd + amountUsd, installmentsPaid := paid } s = .ok e ∧
        InI128 (e - loan.collateralReleased) ∧
        (0 < e - loan.collateralReleased →
          InI128 (loan.collateralReleased + (e - loan.collateralReleased))) ∧
        ∃ credited x₁, Releases vaults env s loan.guarantor (e - loan.collateralReleased) x x₁ ∧
          { loan with
            totalRepaidUsd := loan.totalRepaidUsd + amountUsd, installmentsPaid := paid
            collateralReleased :=
              loan.collateralReleased + max (e - loan.collateralReleased) 0 } = credited ∧
          ∃ loan' s₁, closeOrReschedule env credited s = .ok (loan', s₁) ∧
            e - loan.collateralReleased = r ∧ saveLoan env loan' s₁ = s' ∧ x₁ = x') ↔
    loan.Fits config (loan.totalRepaidUsd + amountUsd) ∧
      loan.earned config (loan.totalRepaidUsd + amountUsd) - loan.collateralReleased = r ∧
      Releases vaults env s loan.guarantor r x x' ∧
      s.record (loan.repay config env.timestamp amountUsd) (savedTtl env
        (if (loan.repay config env.timestamp amountUsd).isOpen then s
          else s.unmark (loan.repay config env.timestamp amountUsd))
        (loan.repay config env.timestamp amountUsd)) = s' := by
  have h0 := h.repaid_nonneg
  have hwf := h.wf
  have htotal0 : 0 ≤ loan.totalRepaidUsd + amountUsd := by omega
  -- what the two computations return on the record with the new total
  have hcovered : ∀ paid, installmentsCovered
        { loan with totalRepaidUsd := loan.totalRepaidUsd + amountUsd } = .ok paid ↔
      InI128 ((loan.totalRepaidUsd + amountUsd) * loan.installmentCount) ∧
        loan.covered (loan.totalRepaidUsd + amountUsd) = paid := fun paid =>
    installmentsCovered_eq_ok (Loan.SameTerms.wf (by constructor <;> rfl) hwf) htotal0 hle
  have hreleasable : ∀ paid e, releasable { loan with
          totalRepaidUsd := loan.totalRepaidUsd + amountUsd, installmentsPaid := paid } s = .ok e ↔
      (loan.totalRepaidUsd + amountUsd < loan.principalUsd →
        InI128 (loan.collateralLocked * (loan.totalRepaidUsd + amountUsd)) ∧
        InI128 (loan.collateralLocked * (loan.totalRepaidUsd + amountUsd) * config.kept) ∧
        InI128 (loan.principalUsd * BPS)) ∧
      loan.earned config (loan.totalRepaidUsd + amountUsd) = e := fun paid e =>
    releasable_eq_ok hconfig hs (Loan.SameTerms.wf (by constructor <;> rfl) hwf) htotal0
  -- what was released before is what was earned before, so nothing is taken back
  have hmono : loan.collateralReleased ≤ loan.earned config (loan.totalRepaidUsd + amountUsd) := by
    rw [h.released_open hopen]
    exact hwf.earned_mono hconfig (by omega)
  have hmax : loan.collateralReleased + max (loan.earned config (loan.totalRepaidUsd + amountUsd) -
      loan.collateralReleased) 0 = loan.earned config (loan.totalRepaidUsd + amountUsd) := by
    omega
  have hreleased0 : 0 ≤ loan.collateralReleased := h.released_nonneg hconfig
  have hearned : loan.earned config (loan.totalRepaidUsd + amountUsd) ≤ loan.collateralLocked :=
    hwf.earned_le hconfig
  constructor
  · rintro ⟨paid, hk, e, he, -, -, credited, x₁, hrel, hcredited, loan', s₁, hclose, hr, hs', rfl⟩
    obtain ⟨hscaled, rfl⟩ := (hcovered _).mp hk
    obtain ⟨hfits, rfl⟩ := (hreleasable _ _).mp he
    rw [hmax] at hcredited
    obtain rfl : loan.credited config amountUsd = credited := hcredited
    obtain ⟨hdue, rfl, rfl⟩ := (closeOrReschedule_credited hwf).mp hclose
    exact ⟨⟨hscaled, fun hlt => (hfits hlt).1, fun hlt => (hfits hlt).2.1,
      fun hlt => (hfits hlt).2.2, hdue⟩, hr, hr ▸ hrel, (saveLoan_repay hopen).symm.trans hs'⟩
  · rintro ⟨hfits, rfl, hrel, hs'⟩
    refine ⟨_, (hcovered _).mpr ⟨hfits.scaled, rfl⟩, _, (hreleasable _ _).mpr
      ⟨fun hlt => ⟨hfits.earned hlt, hfits.kept hlt, hfits.scale hlt⟩, rfl⟩, ?_, fun _ => ?_,
      loan.credited config amountUsd, x', hrel, ?_, _, _,
      (closeOrReschedule_credited hwf).mpr ⟨hfits.due, rfl, rfl⟩, rfl,
      (saveLoan_repay hopen).trans hs', rfl⟩
    · exact hwf.collateral_i128.of_nonneg_of_le (by omega) (by omega)
    · exact hwf.collateral_i128.of_nonneg_of_le (by omega) (by omega)
    · rw [hmax]
      rfl

/-- **Attestation.** Its checks, its arithmetic, one vault call and one record. -/
theorem attestRepayment_eq_ok (h : s.Sound config env.timestamp) :
    attestRepayment vaults env partner verifier loanId amountUsd s x = .ok (r, s', x') ↔
      ∃ loan, Attestation env partner verifier loanId amountUsd s loan ∧
        loan.Fits config (loan.totalRepaidUsd + amountUsd) ∧
        loan.earned config (loan.totalRepaidUsd + amountUsd) - loan.collateralReleased = r ∧
        Releases vaults env s loan.guarantor r x x' ∧
        s.record (loan.repay config env.timestamp amountUsd)
          (attestedTtl env partner verifier loanId (loan.repay config env.timestamp amountUsd) s) =
            s' := by
  have hchecked : s.withTtl (checkedTtl env partner verifier loanId s) = s.withTtl (verifierTtl env
      (s.withTtl (partnerTtl env (s.withTtl (Lifetimes.extendEntry env threshold extendTo
        (.loan loanId) (s.withTtl (Lifetimes.extendInstance env threshold extendTo s.ttl)).ttl))
        partner)) verifier) := rfl
  have hconfig : (s.withTtl (checkedTtl env partner verifier loanId s)).config = some config :=
    h.config_eq
  unfold attestRepayment
  simp only [bind_eq_ok, Env.requireAuth_eq_ok, require_eq_ok, loanOf_eq_ok, authorizedPartner_eq,
    authorizedVerifier_eq, i128_eq_ok, pure_eq_ok, releaseEarned_eq_ok, extendInstance_eq,
    exists_const, and_assoc, exists_and_left, exists_eq_left', Prod.exists, withTtl_loans,
    withTtl_partners, withTtl_verifiers, withTtl_withTtl, Prod.mk.injEq, ← hchecked]
  constructor
  · rintro ⟨hp, hv, hpos, loan, hfound, hown, hreg, hne, hver, hopen, -, hle, hcomputes⟩
    exact ⟨loan, ⟨hp, hv, hpos, hfound, hown, by simpa [Option.getD_eq_iff] using hreg, hne,
      by simpa [Option.getD_eq_iff] using hver, hopen, hle⟩,
      (attest_computes h.accepted hconfig (h.loans _ _ hfound) hopen hpos hle).mp hcomputes⟩
  · rintro ⟨loan, ⟨hp, hv, hpos, hfound, hown, hreg, hne, hver, hopen, hle⟩, hcomputes⟩
    have hsound := h.loans _ _ hfound
    have h0 := hsound.repaid_nonneg
    have htotal := hsound.wf.principal_i128.of_nonneg_of_le
      (y := loan.totalRepaidUsd + amountUsd) (by omega) hle
    exact ⟨hp, hv, hpos, loan, hfound, hown, by simp [hreg], hne, by simp [hver], hopen, htotal,
      hle, (attest_computes h.accepted hconfig hsound hopen hpos hle).mpr hcomputes⟩

end Attest

section Engine

variable {caller guarantor : Address} {loanId : ℕ} {flag : Bool} {amount : ℤ}

@[simp] theorem requireAdmin_eq_ok {admin : Address} {u : Unit} :
    requireAdmin env admin s = .ok u ↔ env.authorized admin ∧ s.governance.admin = some admin :=
  Governance.requireAdmin_eq_ok

@[simp] theorem requireEngine_eq_ok {u : Unit} :
    requireEngine caller s = .ok u ↔ s.liquidationEngine = some caller := by
  simp [requireEngine]

/-- **Grace.** The engine may flag an active loan that is past its due date. -/
theorem markGrace_eq_ok (h : s.Sound config env.timestamp) :
    markGrace env caller loanId s = .ok s' ↔
      env.authorized caller ∧ s.liquidationEngine = some caller ∧
      ∃ loan, s.loans loanId = some loan ∧ loan.status = .active ∧ loan.nextDue < env.timestamp ∧
        InU64 (env.timestamp + config.gracePeriodSecs) ∧
        s.record (loan.flag config env.timestamp) (savedTtl env (s.withTtl (loadedTtl env s loanId))
          (loan.flag config env.timestamp)) = s' := by
  unfold markGrace
  -- every check becomes a conjunct, and the loaded loan the only witness
  simp only [bind_eq_ok, Env.requireAuth_eq_ok, requireEngine_eq_ok, require_eq_ok, loanOf_eq_ok,
    u64_eq_ok, pure_eq_ok, extendInstance_eq, getConfig, orPanic_eq_ok, exists_const, and_assoc,
    exists_and_left, exists_eq_left', Prod.exists, withTtl_loans, withTtl_liquidationEngine,
    withTtl_config, withTtl_withTtl, h.config_eq, Option.some.injEq]
  constructor
  · rintro ⟨hauth, hengine, loan, hfound, hstatus, hlate, hu64, hs'⟩
    exact ⟨hauth, hengine, loan, hfound, hstatus, hlate, hu64,
      (saveLoan_of_open env _ rfl).symm.trans hs'⟩
  · rintro ⟨hauth, hengine, loan, hfound, hstatus, hlate, hu64, hs'⟩
    exact ⟨hauth, hengine, loan, hfound, hstatus, hlate, hu64,
      (saveLoan_of_open env (s.withTtl (loadedTtl env s loanId)) rfl).trans hs'⟩

/-- **Default.** The engine may close a loan whose grace period is over. -/
theorem markDefaulted_eq_ok :
    markDefaulted env caller loanId s = .ok s' ↔
      env.authorized caller ∧ s.liquidationEngine = some caller ∧
      ∃ loan, s.loans loanId = some loan ∧ loan.status = .grace ∧
        loan.graceExpiresAt < env.timestamp ∧
        s.record loan.default (savedTtl env (s.withTtl (loadedTtl env s loanId)) loan.default) =
          s' := by
  unfold markDefaulted
  simp only [bind_eq_ok, Env.requireAuth_eq_ok, requireEngine_eq_ok, require_eq_ok, loanOf_eq_ok,
    pure_eq_ok, extendInstance_eq, exists_const, and_assoc, exists_and_left, exists_eq_left',
    Prod.exists, withTtl_loans, withTtl_liquidationEngine, withTtl_withTtl]
  constructor
  · rintro ⟨hauth, hengine, loan, hfound, hstatus, hexpired, hs'⟩
    exact ⟨hauth, hengine, loan, hfound, hstatus, hexpired,
      (unmark_saveLoan env _ rfl).symm.trans hs'⟩
  · rintro ⟨hauth, hengine, loan, hfound, hstatus, hexpired, hs'⟩
    exact ⟨hauth, hengine, loan, hfound, hstatus, hexpired,
      (unmark_saveLoan env (s.withTtl (loadedTtl env s loanId)) rfl).trans hs'⟩

/-- **Reassignment.** Only the admin moves an open loan, and only to a registered partner. -/
theorem reassignPartner_cases {admin partner : Address}
    (hok : reassignPartner env admin loanId partner s = .ok s') :
    (env.authorized admin ∧ s.governance.admin = some admin) ∧ s.partners partner = some true ∧
      ∃ loan, s.loans loanId = some loan ∧ loan.isOpen = true ∧
        ∃ ttl, s.record { loan with partner } ttl = s' := by
  unfold reassignPartner at hok
  simp only [bind_eq_ok, requireAdmin_eq_ok, require_eq_ok, loanOf_eq_ok, pure_eq_ok,
    authorizedPartner_eq, extendInstance_eq, exists_const, and_assoc, exists_and_left,
    exists_eq_left', Prod.exists, withTtl_loans, withTtl_partners, withTtl_governance,
    withTtl_withTtl] at hok
  obtain ⟨hauth, hadmin, hknown, loan, hfound, hopen, rfl⟩ := hok
  refine ⟨⟨hauth, hadmin⟩, by simpa [Option.getD_eq_iff] using hknown, loan, hfound, hopen, ?_⟩
  have hopen' : ({ loan with partner } : Loan).isOpen = true := hopen
  rw [saveLoan_of_open env _ hopen']
  exact ⟨_, rfl⟩

/-! ## Views -/

/-- A view loads its loan and computes from it. -/
theorem loanOf_extendInstance_eq_ok : loanOf env loanId (extendInstance env s) = .ok (loan, s') ↔
    s.loans loanId = some loan ∧ s.withTtl (loadedTtl env s loanId) = s' :=
  loanOf_eq_ok env (extendInstance env s)

theorem isOverdue_eq_ok : isOverdue env loanId s = .ok (flag, s') ↔
    ∃ loan, s.loans loanId = some loan ∧
      decide (loan.status = .active ∧ loan.nextDue < env.timestamp) = flag ∧
      s.withTtl (loadedTtl env s loanId) = s' := by
  simp only [isOverdue, bind_eq_ok, Prod.exists, loanOf_extendInstance_eq_ok, pure_eq_ok,
    Prod.mk.injEq, and_assoc, exists_and_left, exists_eq_left']

theorem isGraceExpired_eq_ok : isGraceExpired env loanId s = .ok (flag, s') ↔
    ∃ loan, s.loans loanId = some loan ∧
      decide (loan.status = .grace ∧ loan.graceExpiresAt < env.timestamp) = flag ∧
      s.withTtl (loadedTtl env s loanId) = s' := by
  simp only [isGraceExpired, bind_eq_ok, Prod.exists, loanOf_extendInstance_eq_ok, pure_eq_ok,
    Prod.mk.injEq, and_assoc, exists_and_left, exists_eq_left']

theorem loanGuarantor_eq_ok : loanGuarantor env loanId s = .ok (guarantor, s') ↔
    ∃ loan, s.loans loanId = some loan ∧ loan.guarantor = guarantor ∧
      s.withTtl (loadedTtl env s loanId) = s' := by
  simp only [loanGuarantor, bind_eq_ok, Prod.exists, loanOf_extendInstance_eq_ok, pure_eq_ok,
    Prod.mk.injEq, and_assoc, exists_and_left, exists_eq_left']

theorem loanOutstanding_eq_ok (h : s.Sound config env.timestamp) :
    loanOutstanding env loanId s = .ok (amount, s') ↔
      ∃ loan, s.loans loanId = some loan ∧ loan.outstanding = amount ∧
        s.withTtl (loadedTtl env s loanId) = s' := by
  simp only [loanOutstanding, bind_eq_ok, Prod.exists, loanOf_extendInstance_eq_ok, pure_eq_ok,
    Prod.mk.injEq, i128_eq_ok, and_assoc, exists_and_left, exists_eq_left', Loan.outstanding]
  refine exists_congr fun loan => and_congr_right fun hfound => ?_
  have hsound := h.loans _ _ hfound
  have h0 := hsound.repaid_nonneg
  have howed := hsound.outstanding_nonneg
  unfold Loan.outstanding at howed
  have hi128 := hsound.wf.principal_i128.of_nonneg_of_le
    (y := loan.principalUsd - loan.totalRepaidUsd) howed (by omega)
  -- a sound loan is never overpaid, so the view's lower bound of zero is not used
  have hclamp : (if 0 < loan.principalUsd - loan.totalRepaidUsd then
      loan.principalUsd - loan.totalRepaidUsd else 0) =
      loan.principalUsd - loan.totalRepaidUsd := by
    split <;> omega
  rw [hclamp]
  grind

theorem loanCollateralRemaining_eq_ok (h : s.Sound config env.timestamp) :
    loanCollateralRemaining env loanId s = .ok (amount, s') ↔
      ∃ loan, s.loans loanId = some loan ∧ loan.remaining = amount ∧
        s.withTtl (loadedTtl env s loanId) = s' := by
  simp only [loanCollateralRemaining, bind_eq_ok, Prod.exists, loanOf_extendInstance_eq_ok,
    pure_eq_ok, Prod.mk.injEq, i128_eq_ok, and_assoc, exists_and_left, exists_eq_left',
    Loan.remaining]
  refine exists_congr fun loan => and_congr_right fun hfound => ?_
  have hsound := h.loans _ _ hfound
  have h0 := hsound.released_nonneg h.accepted
  have hheld := hsound.remaining_nonneg h.accepted
  unfold Loan.remaining at hheld
  have hi128 := hsound.wf.collateral_i128.of_nonneg_of_le
    (y := loan.collateralLocked - loan.collateralReleased) hheld (by omega)
  grind

end Engine

/-! ## Origination -/

section Originate

variable {guarantor partner : Address} {beneficiary : BytesN32} {principalUsd : ℤ}
  {installmentCount intervalSecs id : ℕ}

/-- The LTV a beneficiary qualifies for is always computed. -/
theorem requiredLtvBps_eq (hconfig : config.Accepted) (hs : s.config = some config)
    (hscore : (getReputation beneficiary s : ℤ) ≤ BPS) :
    requiredLtvBps beneficiary s = .ok (config.ltvFor (getReputation beneficiary s)) := by
  have hle := hconfig.minLtv_le
  have hbase := config.baseLtvBps_u32
  have hget : getConfig s = .ok config := by simp [getConfig, hs]
  have hspan : (u32Sub config.baseLtvBps config.minLtvBps : Result Error ℕ) =
      .ok (config.baseLtvBps - config.minLtvBps) := by simp [hle]
  -- the score and the span stand for themselves from here on, to keep the arithmetic linear
  generalize hscoreEq : getReputation beneficiary s = score at hscore ⊢
  generalize hspanEq : config.baseLtvBps - config.minLtvBps = span at hspan ⊢
  have hscore' : score ≤ 10000 := by
    unfold BPS at hscore
    omega
  have hprod : span * score ≤ 2 ^ 32 * 10000 := Nat.mul_le_mul (by omega) hscore'
  have hcast : ((span : ℤ) * score) = ((span * score : ℕ) : ℤ) := (Nat.cast_mul _ _).symm
  have hreduced : span * score / 10000 ≤ span :=
    Nat.div_le_of_le_mul (by rw [mul_comm]; exact Nat.mul_le_mul_right _ hscore')
  have hdiv : ((span : ℤ) * score).tdiv BPS = ((span * score / 10000 : ℕ) : ℤ) := by
    rw [hcast, Int.tdiv_eq_ediv_of_nonneg (Int.natCast_nonneg _)]
    rfl
  have hscaled : InI128 ((span : ℤ) * score) := by
    rw [hcast]
    constructor <;> omega
  have hi128 : ∀ k : ℕ, k < 2 ^ 32 → InI128 (k : ℤ) := by
    intro k hk
    constructor <;> omega
  have hltv : (config.baseLtvBps : ℤ) - ((span * score / 10000 : ℕ) : ℤ) =
      (config.ltvFor score : ℤ) := by
    unfold Config.ltvFor
    rw [hspanEq]
    omega
  have hltv32 : config.ltvFor score < 2 ^ 32 := by
    unfold Config.ltvFor
    omega
  have hcast32 : castU32 (config.ltvFor score : ℤ) = config.ltvFor score := by
    have := castU32_of_lt (x := config.ltvFor score) (by omega) (by omega)
    omega
  simp only [requiredLtvBps, bind_eq_ok, hget, hspan, hscoreEq, i128_eq_ok, i128Div_eq_ok,
    pure_eq_ok, Except.ok.injEq, exists_eq_left', and_assoc, exists_and_left, hdiv, hltv, hcast32]
  exact ⟨hscaled, by decide, hi128 _ (by omega), hi128 _ hltv32, trivial⟩

/-- Record a new loan and its marker. -/
def State.open (s : State) (loan : Loan) (ttl : Lifetimes Key) : State :=
  { s with
    loanCount := some loan.id
    loans := Function.update s.loans loan.id (some loan)
    openLoans := Function.update s.openLoans (loan.guarantor, loan.beneficiary) (some loan.id)
    ttl }

/-- What an origination checks, and the loan it is about to open. -/
structure Origination (env : Env) (config : Config) (guarantor : Address) (beneficiary : BytesN32)
    (partner : Address) (principalUsd : ℤ) (installmentCount intervalSecs : ℕ) (s : State)
    (loan : Loan) : Prop where
  signed : env.authorized guarantor
  pos : 0 < principalUsd
  count : minInstallments ≤ installmentCount ∧ installmentCount ≤ maxInstallments
  interval : minIntervalSecs ≤ intervalSecs ∧ intervalSecs ≤ maxIntervalSecs
  tenor : installmentCount * intervalSecs ≤ maxTenorSecs
  registered : s.partners partner = some true
  unique : s.openLoans (guarantor, beneficiary) = none
  scaled : InI128 (principalUsd * config.ltvFor (getReputation beneficiary s))
  numbered : InU64 (getLoanCount s + 1)
  due : InU64 (env.timestamp + intervalSecs)
  opens : loan = Loan.opening env.timestamp (getLoanCount s + 1) guarantor beneficiary partner
    principalUsd (config.ltvFor (getReputation beneficiary s)) installmentCount intervalSecs

/-- **Origination.** Its checks, one vault call and one new record. -/
theorem originate_cases (h : s.Sound config env.timestamp)
    (hok : originate vaults env guarantor beneficiary partner principalUsd installmentCount
      intervalSecs s x = .ok (id, s', x')) :
    ∃ loan, Origination env config guarantor beneficiary partner principalUsd installmentCount
        intervalSecs s loan ∧ id = loan.id ∧
      (∃ vault, s.vault = some vault ∧ (vaults vault).lockCollateral (env.call vault)
        env.currentContract guarantor loan.collateralLocked x = some x') ∧
      ∃ ttl, s.open loan ttl = s' := by
  unfold originate at hok
  simp only [bind_eq_ok, Env.requireAuth_eq_ok, require_eq_ok, i128_eq_ok, i128Div_eq_ok, u64_eq_ok,
    pure_eq_ok, orPanic_eq_ok, callee_eq_ok, authorizedPartner_eq, extendInstance_eq, touch_eq,
    exists_const, and_assoc, exists_and_left, exists_eq_left', withTtl_loans,
    withTtl_partners, withTtl_openLoans, withTtl_vault, withTtl_withTtl, getLoanCount_withTtl,
    requiredLtvBps_withTtl, requiredLtvBps_eq h.accepted h.config_eq (h.scores beneficiary),
    Except.ok.injEq, Prod.mk.injEq] at hok
  obtain ⟨hauth, hpos, hcount, hcount', hint, hint', htenor, hknown, hunique, hscaled, -, -, vault,
    hvault, x₁, hlock, hnumber, -, -, hdue, rfl, rfl, rfl⟩ := hok
  -- the saturated product is under the limit only if the product is
  have htenor' : installmentCount * intervalSecs ≤ maxTenorSecs := by
    unfold maxTenorSecs at htenor ⊢
    omega
  have hcollateral : (principalUsd * config.ltvFor (getReputation beneficiary s)).tdiv BPS =
      principalUsd * config.ltvFor (getReputation beneficiary s) / BPS :=
    Int.tdiv_eq_ediv_of_nonneg (mul_nonneg (le_of_lt hpos) (Int.natCast_nonneg _))
  have hinstallment : principalUsd.tdiv installmentCount = principalUsd / installmentCount :=
    Int.tdiv_eq_ediv_of_nonneg (le_of_lt hpos)
  rw [hcollateral] at hlock ⊢
  rw [hinstallment, saveLoan_of_open env _ rfl]
  exact ⟨_, ⟨hauth, hpos, ⟨hcount, hcount'⟩, ⟨hint, hint'⟩, htenor',
    by simpa [Option.getD_eq_iff] using hknown, hunique, hscaled, hnumber, hdue, rfl⟩, rfl,
    ⟨vault, hvault, hlock⟩, _, rfl⟩

/-- An origination whose checks hold goes through if the vault locks the collateral. -/
theorem originate_succeeds (h : s.Sound config env.timestamp) {loan : Loan}
    (hchecks : Origination env config guarantor beneficiary partner principalUsd installmentCount
      intervalSecs s loan) (hcollateral : 0 < loan.collateralLocked) {vault : Address}
    (hvault : s.vault = some vault)
    (hlock : (vaults vault).lockCollateral (env.call vault) env.currentContract guarantor
      loan.collateralLocked x = some x') :
    ∃ s', originate vaults env guarantor beneficiary partner principalUsd installmentCount
      intervalSecs s x = .ok (loan.id, s', x') := by
  obtain ⟨hauth, hpos, ⟨hcount, hcount'⟩, ⟨hint, hint'⟩, htenor, hknown, hunique, hscaled, hnumber,
    hdue, rfl⟩ := hchecks
  have hpos' := le_of_lt hpos
  have hscaled_nonneg : 0 ≤ principalUsd * config.ltvFor (getReputation beneficiary s) :=
    mul_nonneg hpos' (Int.natCast_nonneg _)
  have hscaledDiv : (principalUsd * config.ltvFor (getReputation beneficiary s)).tdiv BPS =
      principalUsd * config.ltvFor (getReputation beneficiary s) / BPS :=
    Int.tdiv_eq_ediv_of_nonneg hscaled_nonneg
  have hcollateral' : InI128 (principalUsd * config.ltvFor (getReputation beneficiary s) / BPS) :=
    .of_nonneg_of_le hscaled (le_of_lt hcollateral) (Int.ediv_le_self _ hscaled_nonneg)
  -- collateral is locked at all only where the LTV is not zero
  have hltv : (1 : ℤ) ≤ config.ltvFor (getReputation beneficiary s) := by
    by_contra hlt
    have hzero : (config.ltvFor (getReputation beneficiary s) : ℤ) = 0 := by omega
    simp only [Loan.opening, hzero, mul_zero] at hcollateral
    exact absurd hcollateral (by decide)
  have hprincipal : InI128 principalUsd :=
    .of_nonneg_of_le hscaled hpos' (le_mul_of_one_le_right hpos' hltv)
  have hinstallment : InI128 (principalUsd.tdiv installmentCount) := by
    rw [Int.tdiv_eq_ediv_of_nonneg hpos']
    exact .of_nonneg_of_le hprincipal (Int.ediv_nonneg hpos' (Int.natCast_nonneg _))
      (Int.ediv_le_self _ hpos')
  have hcount_ne : (installmentCount : ℤ) ≠ 0 := by
    unfold minInstallments at hcount
    omega
  have htenor' : min (installmentCount * intervalSecs) (2 ^ 64 - 1) ≤ maxTenorSecs :=
    min_le_of_left_le htenor
  unfold originate
  simp only [bind_eq_ok, Env.requireAuth_eq_ok, require_eq_ok, i128_eq_ok, i128Div_eq_ok, u64_eq_ok,
    pure_eq_ok, orPanic_eq_ok, callee_eq_ok, authorizedPartner_eq, extendInstance_eq, touch_eq,
    exists_const, and_assoc, exists_and_left, exists_eq_left', withTtl_loans,
    withTtl_partners, withTtl_openLoans, withTtl_vault, withTtl_withTtl, getLoanCount_withTtl,
    requiredLtvBps_withTtl, requiredLtvBps_eq h.accepted h.config_eq (h.scores beneficiary),
    Except.ok.injEq, Prod.mk.injEq, hscaledDiv, hknown, Option.getD_some]
  exact ⟨hauth, hpos, hcount, hcount', hint, hint', htenor', trivial, hunique, hscaled, by decide,
    hcollateral', _, vault, hvault, x', hlock, hnumber, hcount_ne, hinstallment, hdue, rfl, rfl,
    rfl⟩

end Originate

end Operations

end RemitCollateral.LoanLedger
