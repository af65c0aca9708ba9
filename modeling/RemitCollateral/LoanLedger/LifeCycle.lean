import RemitCollateral.Arithmetic.Proportion
import RemitCollateral.LoanLedger.Model

/-! # The life of one loan

What a loan is for, apart from storage, callers and the vault: money owed over a schedule,
collateral that is earned back as it is repaid, and a status that follows the calendar. `Loan.Step`
lists the moves a loan can make at a given time, `Loan.Sound` is the invariant they keep. The
functions of the contract are shown to make exactly these moves in `LoanLedger.Spec`. -/

namespace RemitCollateral.LoanLedger

open Soroban

/-! ## Money and calendar -/

namespace Config

/-- The share of earned collateral that is let go before the loan closes, in basis points. -/
def kept (config : Config) : ℤ := BPS - config.safetyBufferBps

/-- The configurations the constructor accepts. -/
structure Accepted (config : Config) : Prop where
  minLtv_le : config.minLtvBps ≤ config.baseLtvBps
  buffer_lt : (config.safetyBufferBps : ℤ) < BPS
  grace_pos : 0 < config.gracePeriodSecs

theorem Accepted.kept_pos {config : Config} (h : config.Accepted) : 0 < config.kept := by
  have := h.buffer_lt
  unfold kept
  omega

theorem kept_le (config : Config) : config.kept ≤ BPS := by
  unfold kept
  omega

/-- The LTV a reputation score qualifies for. -/
def ltvFor (config : Config) (score : ℕ) : ℕ :=
  -- subtraction of naturals is exact here: an accepted configuration has its floor under its base
  config.baseLtvBps - (config.baseLtvBps - config.minLtvBps) * score / 10000

/-- No score takes the LTV below its floor. -/
theorem Accepted.minLtv_le_ltvFor {config : Config} (h : config.Accepted) {score : ℕ}
    (hscore : score ≤ 10000) : config.minLtvBps ≤ config.ltvFor score := by
  -- a perfect score takes off the whole span, any other one less
  have hspan : (config.baseLtvBps - config.minLtvBps) * score / 10000 ≤
      config.baseLtvBps - config.minLtvBps :=
    Nat.div_le_of_le_mul (by rw [mul_comm]; exact Nat.mul_le_mul_right _ hscore)
  have := h.minLtv_le
  unfold ltvFor
  omega

end Config

namespace Loan

/-- Collateral still locked against the loan. -/
def remaining (loan : Loan) : ℤ := loan.collateralLocked - loan.collateralReleased

/-- Principal still owed. -/
def outstanding (loan : Loan) : ℤ := loan.principalUsd - loan.totalRepaidUsd

/-- The `k`-th due date. -/
def dueDate (loan : Loan) (k : ℕ) : ℕ := loan.originatedAt + k * loan.intervalSecs

/-- The installments a repaid total covers. -/
def covered (loan : Loan) (total : ℤ) : ℕ :=
  (Proportion.covered total loan.installmentCount loan.principalUsd).toNat

/-- The first due date a repaid total does not cover. -/
def dueAfter (loan : Loan) (total : ℤ) : ℕ := loan.dueDate (loan.covered total + 1)

/-- The collateral a repaid total earns back: all of it at the end, a share less
the buffer before. -/
def earned (config : Config) (loan : Loan) (total : ℤ) : ℤ :=
  if loan.principalUsd ≤ total then loan.collateralLocked
  else Proportion.earned loan.collateralLocked total loan.principalUsd config.kept BPS

theorem isOpen_iff {loan : Loan} :
    loan.isOpen = true ↔ loan.status = .active ∨ loan.status = .grace := by
  simp [isOpen]

/-- The terms fixed at origination. -/
structure Wf (loan : Loan) : Prop where
  principal_pos : 0 < loan.principalUsd
  principal_i128 : InI128 loan.principalUsd
  collateral : loan.collateralLocked = loan.principalUsd * loan.ltvBps / BPS
  collateral_pos : 0 < loan.collateralLocked
  collateral_i128 : InI128 loan.collateralLocked
  count_pos : 0 < loan.installmentCount
  count_le : loan.installmentCount ≤ maxInstallments
  installment : loan.installmentAmount = loan.principalUsd / loan.installmentCount
  interval_pos : 0 < loan.intervalSecs

/-- Two records of the same loan: they differ in its servicing partner and its progress only. -/
structure SameTerms (loan loan' : Loan) : Prop where
  id : loan'.id = loan.id
  guarantor : loan'.guarantor = loan.guarantor
  beneficiary : loan'.beneficiary = loan.beneficiary
  principalUsd : loan'.principalUsd = loan.principalUsd
  ltvBps : loan'.ltvBps = loan.ltvBps
  collateralLocked : loan'.collateralLocked = loan.collateralLocked
  installmentCount : loan'.installmentCount = loan.installmentCount
  installmentAmount : loan'.installmentAmount = loan.installmentAmount
  intervalSecs : loan'.intervalSecs = loan.intervalSecs
  originatedAt : loan'.originatedAt = loan.originatedAt

theorem SameTerms.refl (loan : Loan) : SameTerms loan loan := by
  constructor <;> rfl

theorem SameTerms.trans {a b c : Loan} (h : SameTerms a b) (h' : SameTerms b c) :
    SameTerms a c where
  id := h'.id.trans h.id
  guarantor := h'.guarantor.trans h.guarantor
  beneficiary := h'.beneficiary.trans h.beneficiary
  principalUsd := h'.principalUsd.trans h.principalUsd
  ltvBps := h'.ltvBps.trans h.ltvBps
  collateralLocked := h'.collateralLocked.trans h.collateralLocked
  installmentCount := h'.installmentCount.trans h.installmentCount
  installmentAmount := h'.installmentAmount.trans h.installmentAmount
  intervalSecs := h'.intervalSecs.trans h.intervalSecs
  originatedAt := h'.originatedAt.trans h.originatedAt

section SameTerms

variable {loan loan' : Loan} (h : SameTerms loan loan')
include h

theorem SameTerms.dueDate (k : ℕ) : loan'.dueDate k = loan.dueDate k := by
  rw [Loan.dueDate, h.originatedAt, h.intervalSecs, Loan.dueDate]

theorem SameTerms.covered (total : ℤ) : loan'.covered total = loan.covered total := by
  rw [Loan.covered, h.installmentCount, h.principalUsd, Loan.covered]

theorem SameTerms.wf (hwf : loan.Wf) : loan'.Wf where
  principal_pos := h.principalUsd ▸ hwf.principal_pos
  principal_i128 := h.principalUsd ▸ hwf.principal_i128
  collateral := by rw [h.collateralLocked, h.principalUsd, h.ltvBps, hwf.collateral]
  collateral_pos := h.collateralLocked ▸ hwf.collateral_pos
  collateral_i128 := h.collateralLocked ▸ hwf.collateral_i128
  count_pos := h.installmentCount ▸ hwf.count_pos
  count_le := h.installmentCount ▸ hwf.count_le
  installment := by rw [h.installmentAmount, h.principalUsd, h.installmentCount, hwf.installment]
  interval_pos := h.intervalSecs ▸ hwf.interval_pos

end SameTerms

/-! ## Moves -/

/-- A repayment of `amount` at time `now`: the installments covered, the collateral earned back, and
the status and due date that follow from them. -/
def repay (config : Config) (now : ℕ) (amount : ℤ) (loan : Loan) : Loan :=
  let total := loan.totalRepaidUsd + amount
  let due := loan.dueAfter total
  -- closed, or brought up to date
  let current := loan.principalUsd ≤ total ∨ now ≤ due
  { loan with
    totalRepaidUsd := total
    installmentsPaid := loan.covered total
    collateralReleased := loan.earned config total
    nextDue := if loan.principalUsd ≤ total then loan.nextDue else due
    graceExpiresAt := if current then 0 else loan.graceExpiresAt
    status := if loan.principalUsd ≤ total then .repaid
      else if now ≤ due then .active else loan.status }

/-- Start the grace period at time `now`. -/
def flag (config : Config) (now : ℕ) (loan : Loan) : Loan :=
  { loan with status := .grace, graceExpiresAt := now + config.gracePeriodSecs }

/-- Close the loan as defaulted. -/
def default (loan : Loan) : Loan :=
  { loan with status := .defaulted, collateralReleased := loan.collateralLocked }

/-- A loan opened at time `now`. -/
structure Opened (now : ℕ) (loan : Loan) : Prop where
  wf : loan.Wf
  status : loan.status = .active
  released : loan.collateralReleased = 0
  repaid : loan.totalRepaidUsd = 0
  paid : loan.installmentsPaid = 0
  origin : loan.originatedAt = now
  due : loan.nextDue = now + loan.intervalSecs
  grace : loan.graceExpiresAt = 0

/-- The record of a loan opened at time `now`. -/
def opening (now id : ℕ) (guarantor : Address) (beneficiary : BytesN32) (partner : Address)
    (principalUsd : ℤ) (ltvBps installmentCount intervalSecs : ℕ) : Loan where
  id
  guarantor
  beneficiary
  partner
  principalUsd
  ltvBps
  collateralLocked := principalUsd * ltvBps / BPS
  collateralReleased := 0
  installmentCount
  installmentAmount := principalUsd / installmentCount
  intervalSecs
  originatedAt := now
  installmentsPaid := 0
  totalRepaidUsd := 0
  nextDue := now + intervalSecs
  graceExpiresAt := 0
  status := .active

/-- The moves of a loan at time `now`. -/
inductive Step (config : Config) (now : ℕ) (loan : Loan) : Loan → Prop
  /-- Nothing happens to this loan. -/
  | stay : Step config now loan loan
  /-- Another partner services it. -/
  | reassign (partner : Address) (isOpen : loan.isOpen = true) :
      Step config now loan { loan with partner }
  /-- Principal is repaid. -/
  | repay (amount : ℤ) (isOpen : loan.isOpen = true) (pos : 0 < amount)
      (le : loan.totalRepaidUsd + amount ≤ loan.principalUsd) :
      Step config now loan (loan.repay config now amount)
  /-- It is overdue and its grace period starts. -/
  | flag (status : loan.status = .active) (late : loan.nextDue < now) :
      Step config now loan (loan.flag config now)
  /-- Its grace period is over and it defaults. -/
  | default (status : loan.status = .grace) (expired : loan.graceExpiresAt < now) :
      Step config now loan loan.default

/-- No move changes the terms. -/
theorem Step.sameTerms {config : Config} {now : ℕ} {loan loan' : Loan}
    (h : Step config now loan loan') : SameTerms loan loan' := by
  cases h with
  | stay => exact .refl loan
  | reassign | repay | flag | default => constructor <;> rfl

/-! ## The invariant -/

/-- What holds of a loan at time `now`, whatever happened to it before. -/
structure Sound (config : Config) (now : ℕ) (loan : Loan) : Prop where
  wf : loan.Wf
  repaid_nonneg : 0 ≤ loan.totalRepaidUsd
  /-- The installments paid are those the repaid principal covers. -/
  paid : loan.installmentsPaid = loan.covered loan.totalRepaidUsd
  /-- Until it is repaid, something is owed and the next due date is the first one not covered. -/
  unpaid : loan.status ≠ .repaid → loan.totalRepaidUsd < loan.principalUsd ∧
    loan.nextDue = loan.dueDate (loan.installmentsPaid + 1)
  /-- Once it is repaid, nothing is owed. -/
  settled : loan.status = .repaid → loan.totalRepaidUsd = loan.principalUsd
  /-- While it is open, the collateral released is what the repaid principal has earned back. -/
  released_open : loan.isOpen = true →
    loan.collateralReleased = loan.earned config loan.totalRepaidUsd
  /-- Once it is closed, all of the collateral is accounted for. -/
  released_closed : loan.isOpen = false → loan.collateralReleased = loan.collateralLocked
  /-- A loan in grace, or one that went through it to default, is behind schedule. -/
  behind : loan.status = .grace ∨ loan.status = .defaulted → loan.nextDue < now
  /-- The grace deadline is set in these two states only. -/
  graceExpires : loan.graceExpiresAt ≠ 0 ↔ loan.status = .grace ∨ loan.status = .defaulted

section Invariant

variable {config : Config} {now now' : ℕ} {loan loan' : Loan}

/-- Before the end, the collateral earned back is the share of the principal repaid. -/
theorem earned_of_lt {total : ℤ} (h : total < loan.principalUsd) : loan.earned config total =
    Proportion.earned loan.collateralLocked total loan.principalUsd config.kept BPS := by
  rw [earned, if_neg (not_le.mpr h)]

/-- At the end, all of it is. -/
theorem earned_of_le {total : ℤ} (h : loan.principalUsd ≤ total) :
    loan.earned config total = loan.collateralLocked := by
  rw [earned, if_pos h]

/-- A loan just opened meets the invariant. -/
theorem Opened.sound (h : Opened now loan) : Sound config now loan where
  wf := h.wf
  repaid_nonneg := le_of_eq h.repaid.symm
  paid := by simp [h.paid, h.repaid, covered]
  unpaid _ := by
    rw [h.repaid, h.paid, h.due, dueDate, h.origin, zero_add, one_mul]
    exact ⟨h.wf.principal_pos, rfl⟩
  settled hrepaid := by simp [h.status] at hrepaid
  released_open _ := by
    rw [h.repaid, earned_of_lt h.wf.principal_pos, h.released, Proportion.earned_zero]
  released_closed hclosed := by simp [isOpen, h.status] at hclosed
  behind hlate := by simp [h.status] at hlate
  graceExpires := by simp [h.status, h.grace]

/-- Time passing keeps the invariant. -/
theorem Sound.mono (h : Sound config now loan) (hle : now ≤ now') : Sound config now' loan :=
  { h with behind := fun hlate => lt_of_lt_of_le (h.behind hlate) hle }

theorem Sound.lt_of_open (h : Sound config now loan) (hopen : loan.isOpen = true) :
    loan.totalRepaidUsd < loan.principalUsd := by
  refine (h.unpaid fun hrepaid => ?_).1
  simp [isOpen, hrepaid] at hopen

/-- A loan is never overpaid. -/
theorem Sound.outstanding_nonneg (h : Sound config now loan) : 0 ≤ loan.outstanding := by
  unfold outstanding
  by_cases hrepaid : loan.status = .repaid
  · have := h.settled hrepaid
    omega
  · have := (h.unpaid hrepaid).1
    omega

theorem Sound.nextDue_of_open (h : Sound config now loan) (hopen : loan.isOpen = true) :
    loan.nextDue = loan.dueDate (loan.installmentsPaid + 1) := by
  refine (h.unpaid fun hrepaid => ?_).2
  simp [isOpen, hrepaid] at hopen

/-- A repayment keeps the invariant. -/
theorem Sound.repay (h : Sound config now loan) (hopen : loan.isOpen = true) {amount : ℤ}
    (hpos : 0 < amount) (hle : loan.totalRepaidUsd + amount ≤ loan.principalUsd) :
    Sound config now (loan.repay config now amount) := by
  have hsame : SameTerms loan (loan.repay config now amount) :=
    (Step.repay amount hopen hpos hle).sameTerms
  have hstatus := isOpen_iff.mp hopen
  have h0 := h.repaid_nonneg
  by_cases hend : loan.principalUsd ≤ loan.totalRepaidUsd + amount
  · -- the payment closes the loan
    have htotal : loan.totalRepaidUsd + amount = loan.principalUsd := le_antisymm hle hend
    exact { wf := hsame.wf h.wf
            repaid_nonneg := by simp only [Loan.repay]; omega
            paid := rfl
            unpaid := fun hne => by simp [Loan.repay, hend] at hne
            settled := fun _ => htotal
            released_open := fun hopen' => by simp [Loan.repay, isOpen, hend] at hopen'
            released_closed := fun _ => earned_of_le hend
            behind := fun hlate => by simp [Loan.repay, hend] at hlate
            graceExpires := by simp [Loan.repay, hend] }
  · -- it stays open, on the due date of the first installment not covered
    have hlt : loan.totalRepaidUsd + amount < loan.principalUsd := not_le.mp hend
    exact { wf := hsame.wf h.wf
            repaid_nonneg := by simp only [Loan.repay]; omega
            paid := rfl
            unpaid := fun _ => ⟨hlt, by simp only [Loan.repay, if_neg hend]; rfl⟩
            settled := fun hrepaid => by
              simp only [Loan.repay, if_neg hend] at hrepaid
              split at hrepaid
              · cases hrepaid
              · simp [hrepaid] at hstatus
            released_open := fun _ => rfl
            released_closed := fun hclosed => by
              simp only [Loan.repay, isOpen, if_neg hend] at hclosed
              split at hclosed <;> simp_all
            behind := fun hlate => by
              simp only [Loan.repay, if_neg hend] at hlate ⊢
              split at hlate
              · simp at hlate
              · exact not_le.mp ‹_›
            graceExpires := by
              simp only [Loan.repay, hend, false_or]
              split
              · simp
              · exact h.graceExpires }

/-- Every move keeps the invariant. -/
theorem Sound.step (hconfig : config.Accepted) (h : Sound config now loan)
    (hstep : Step config now loan loan') : Sound config now loan' := by
  have hwf := hstep.sameTerms.wf h.wf
  cases hstep with
  | stay => exact h
  | reassign partner hopen => exact { h with wf := hwf }
  | repay amount hopen hpos hle => exact h.repay hopen hpos hle
  | flag hstatus hlate =>
      have hopen : loan.isOpen = true := isOpen_iff.mpr (.inl hstatus)
      -- a grace period of zero would leave no deadline to tell this state by
      have hgrace := hconfig.grace_pos
      exact { wf := hwf
              repaid_nonneg := h.repaid_nonneg
              paid := h.paid
              unpaid := fun _ => ⟨h.lt_of_open hopen, h.nextDue_of_open hopen⟩
              settled := fun hrepaid => by simp [flag] at hrepaid
              released_open := fun _ => h.released_open hopen
              released_closed := fun hclosed => by simp [flag, isOpen] at hclosed
              behind := fun _ => hlate
              graceExpires := by simp only [flag]; simp; omega }
  | default hstatus hexpired =>
      have hopen : loan.isOpen = true := isOpen_iff.mpr (.inr hstatus)
      exact { wf := hwf
              repaid_nonneg := h.repaid_nonneg
              paid := h.paid
              unpaid := fun _ => ⟨h.lt_of_open hopen, h.nextDue_of_open hopen⟩
              settled := fun hrepaid => by simp [Loan.default] at hrepaid
              released_open := fun hopen' => by simp [Loan.default, isOpen] at hopen'
              released_closed := fun _ => rfl
              behind := fun _ => h.behind (.inl hstatus)
              graceExpires := by
                have hset := h.graceExpires.mpr (.inl hstatus)
                simp [Loan.default, hset] }

/-! ## Coverage -/

section Earned

variable {total total' : ℤ} (hconfig : config.Accepted) (h : loan.Wf)
include hconfig h

theorem Wf.earned_nonneg (h0 : 0 ≤ total) : 0 ≤ loan.earned config total := by
  unfold earned
  split
  · exact le_of_lt h.collateral_pos
  · exact Proportion.earned_nonneg (le_of_lt h.collateral_pos) h0 h.principal_pos
      (le_of_lt hconfig.kept_pos) (by decide)

theorem Wf.earned_le : loan.earned config total ≤ loan.collateralLocked := by
  unfold earned
  split
  · exact le_refl _
  · exact le_of_lt (Proportion.earned_lt_whole h.collateral_pos (not_le.mp ‹_›) h.principal_pos
      (by decide) hconfig.kept_pos config.kept_le)

/-- Repaying more never earns less back. -/
theorem Wf.earned_mono (hle : total ≤ total') :
    loan.earned config total ≤ loan.earned config total' := by
  by_cases hend' : loan.principalUsd ≤ total'
  · rw [earned_of_le hend']
    exact h.earned_le hconfig
  · rw [earned_of_lt (not_le.mp hend'), earned_of_lt (lt_of_le_of_lt hle (not_le.mp hend'))]
    exact Proportion.earned_mono (le_of_lt h.collateral_pos) (le_of_lt hconfig.kept_pos)
      h.principal_pos (by decide) hle

end Earned

/-- The collateral ratio never drops below the ratio at origination. -/
theorem Sound.ratio (h : Sound config now loan) (hopen : loan.isOpen = true) :
    loan.collateralLocked * loan.outstanding ≤ loan.remaining * loan.principalUsd := by
  rw [remaining, outstanding, h.released_open hopen, earned_of_lt (h.lt_of_open hopen)]
  exact Proportion.unpaid_le_remaining (le_of_lt h.wf.collateral_pos) h.repaid_nonneg
    h.wf.principal_pos (by decide) config.kept_le

/-- A loan opened with at least its principal in collateral never owes more than stays locked. -/
theorem Sound.outstanding_le_remaining (h : Sound config now loan) (hopen : loan.isOpen = true)
    (hltv : 10000 ≤ loan.ltvBps) : loan.outstanding ≤ loan.remaining := by
  have hcollateral : loan.principalUsd ≤ loan.collateralLocked := by
    -- a ratio of at least one survives the rounding of the lock
    rw [h.wf.collateral, Int.le_ediv_iff_mul_le (by decide)]
    exact mul_le_mul_of_nonneg_left (by unfold BPS; omega) (le_of_lt h.wf.principal_pos)
  refine le_of_mul_le_mul_right ?_ h.wf.principal_pos
  calc loan.outstanding * loan.principalUsd
      = loan.principalUsd * loan.outstanding := mul_comm _ _
    _ ≤ loan.collateralLocked * loan.outstanding :=
        mul_le_mul_of_nonneg_right hcollateral h.outstanding_nonneg
    _ ≤ loan.remaining * loan.principalUsd := h.ratio hopen

section Coverage

variable (hconfig : config.Accepted) (h : Sound config now loan)
include hconfig h

theorem Sound.released_nonneg : 0 ≤ loan.collateralReleased := by
  by_cases hopen : loan.isOpen = true
  · -- open, it is what has been earned back; closed, it is everything
    rw [h.released_open hopen]
    exact h.wf.earned_nonneg hconfig h.repaid_nonneg
  · rw [h.released_closed (by simpa using hopen)]
    exact le_of_lt h.wf.collateral_pos

/-- Something stays locked while the loan is open. -/
theorem Sound.remaining_pos (hopen : loan.isOpen = true) : 0 < loan.remaining := by
  have hlt := Proportion.earned_lt_whole h.wf.collateral_pos (h.lt_of_open hopen)
    h.wf.principal_pos (by decide : 0 < BPS) hconfig.kept_pos config.kept_le
  rw [remaining, h.released_open hopen, earned_of_lt (h.lt_of_open hopen)]
  omega

/-- The safety buffer is withheld while the loan is open. -/
theorem Sound.withheld (hopen : loan.isOpen = true) :
    loan.collateralLocked * config.safetyBufferBps < loan.remaining * BPS := by
  have hlt := Proportion.withheld_lt_remaining h.wf.collateral_pos (h.lt_of_open hopen)
    h.wf.principal_pos (by decide : 0 < BPS) hconfig.kept_pos
  rw [remaining, h.released_open hopen, earned_of_lt (h.lt_of_open hopen)]
  -- the buffer is what the kept share leaves
  have hbuffer : (config.safetyBufferBps : ℤ) = BPS - config.kept := by
    unfold Config.kept
    omega
  rw [hbuffer]
  exact hlt

theorem Sound.remaining_nonneg : 0 ≤ loan.remaining := by
  by_cases hopen : loan.isOpen = true
  · exact le_of_lt (h.remaining_pos hconfig hopen)
  · rw [remaining, h.released_closed (by simpa using hopen), sub_self]

end Coverage

/-! ## Schedule -/

/-- A covered count is the floor it is defined by. -/
theorem Wf.covered_eq (h : loan.Wf) {total : ℤ} (h0 : 0 ≤ total) :
    (loan.covered total : ℤ) = Proportion.covered total loan.installmentCount loan.principalUsd :=
  Int.toNat_of_nonneg (Proportion.covered_nonneg h0 (Int.natCast_nonneg _) h.principal_pos)

/-- Repaying more covers no fewer installments. -/
theorem Wf.covered_mono (h : loan.Wf) {total total' : ℤ} (hle : total ≤ total') :
    loan.covered total ≤ loan.covered total' :=
  Int.toNat_le_toNat (Proportion.covered_mono (Int.natCast_nonneg _) h.principal_pos hle)

/-- Until the principal is repaid, not every installment is covered. -/
theorem Wf.covered_lt (h : loan.Wf) {total : ℤ} (h0 : 0 ≤ total) (hlt : total < loan.principalUsd) :
    loan.covered total < loan.installmentCount := by
  have hcount : (0 : ℤ) < loan.installmentCount := by
    have := h.count_pos
    omega
  have hcovered := Proportion.covered_lt_count hcount h.principal_pos hlt
  rw [← h.covered_eq h0] at hcovered
  omega

theorem dueDate_mono (loan : Loan) {j k : ℕ} (h : j ≤ k) : loan.dueDate j ≤ loan.dueDate k :=
  Nat.add_le_add_left (Nat.mul_le_mul_right _ h) _

/-- An open loan has an installment left to cover. -/
theorem Sound.paid_lt_count (h : Sound config now loan) (hopen : loan.isOpen = true) :
    loan.installmentsPaid < loan.installmentCount := by
  rw [h.paid]
  exact h.wf.covered_lt h.repaid_nonneg (h.lt_of_open hopen)

/-- While a loan is open its next due date is no later than the last one. -/
theorem Sound.nextDue_le (h : Sound config now loan) (hopen : loan.isOpen = true) :
    loan.nextDue ≤ loan.dueDate loan.installmentCount := by
  rw [h.nextDue_of_open hopen]
  exact dueDate_mono loan (h.paid_lt_count hopen)

/-- A move never takes back an installment. -/
theorem Step.paid_le (h : Sound config now loan) (hstep : Step config now loan loan') :
    loan.installmentsPaid ≤ loan'.installmentsPaid := by
  cases hstep with
  | repay amount hopen hpos hle =>
      rw [h.paid]
      exact h.wf.covered_mono (by omega)
  | stay | reassign | flag | default => exact le_refl _

/-- A move never brings the due date forward. -/
theorem Step.nextDue_le (h : Sound config now loan) (hstep : Step config now loan loan') :
    loan.nextDue ≤ loan'.nextDue := by
  cases hstep with
  | repay amount hopen hpos hle =>
      simp only [Loan.repay]
      split
      · exact le_refl _
      · -- both dates are derived from the installments covered
        rw [h.nextDue_of_open hopen, h.paid]
        exact dueDate_mono loan (Nat.succ_le_succ (h.wf.covered_mono (by omega)))
  | stay | reassign | flag | default => exact le_refl _

/-- A loan comes out of grace only by catching up with its schedule. -/
theorem Step.current (hstep : Step config now loan loan') (hgrace : loan.status = .grace)
    (hactive : loan'.status = .active) : now ≤ loan'.nextDue := by
  cases hstep with
  | repay amount hopen hpos hle =>
      simp only [Loan.repay] at hactive ⊢
      split at hactive
      · cases hactive
      · rw [if_neg ‹_›]
        -- still behind, the payment leaves the status alone
        by_contra hbehind
        rw [if_neg hbehind, hgrace] at hactive
        cases hactive
  | stay | reassign => simp [hgrace] at hactive
  | flag hstatus => simp [hgrace] at hstatus
  | default => simp [Loan.default] at hactive

/-- Catching up takes another covered installment. -/
theorem Step.paid_lt (hconfig : config.Accepted) (h : Sound config now loan)
    (hstep : Step config now loan loan') (hgrace : loan.status = .grace)
    (hactive : loan'.status = .active) : loan.installmentsPaid < loan'.installmentsPaid := by
  have hlate := h.behind (.inl hgrace)
  have hcurrent := hstep.current hgrace hactive
  have hopen' : loan'.isOpen = true := isOpen_iff.mpr (.inl hactive)
  rw [h.nextDue_of_open (isOpen_iff.mpr (.inr hgrace))] at hlate
  rw [(h.step hconfig hstep).nextDue_of_open hopen', hstep.sameTerms.dueDate] at hcurrent
  -- with no further installment covered the due date would not have moved past `now`
  by_contra hnot
  have hback := loan.dueDate_mono (Nat.succ_le_succ (not_lt.mp hnot))
  exact absurd (lt_of_lt_of_le hlate hcurrent) (not_lt.mpr hback)

/-- Past the last due date nothing short of full repayment ends the grace of a loan but default. -/
theorem Step.not_active (hconfig : config.Accepted) (h : Sound config now loan)
    (hstep : Step config now loan loan') (hgrace : loan.status = .grace)
    (hlast : loan.dueDate loan.installmentCount < now) : loan'.status ≠ .active := by
  intro hactive
  have hopen' : loan'.isOpen = true := isOpen_iff.mpr (.inl hactive)
  have hdue := (h.step hconfig hstep).nextDue_le hopen'
  rw [hstep.sameTerms.dueDate, hstep.sameTerms.installmentCount] at hdue
  exact absurd (hstep.current hgrace hactive) (not_le.mpr (lt_of_le_of_lt hdue hlast))

/-- A loan in grace was in it already, with the same deadline, or is flagged now. -/
theorem Step.grace_cases (hstep : Step config now loan loan') (hgrace : loan'.status = .grace) :
    (loan.status = .grace ∧ loan'.graceExpiresAt = loan.graceExpiresAt) ∨
      (loan.status = .active ∧ loan.nextDue < now ∧ loan' = loan.flag config now) := by
  cases hstep with
  | stay | reassign => exact .inl ⟨hgrace, rfl⟩
  | repay amount hopen hpos hle =>
      simp only [Loan.repay] at hgrace ⊢
      split at hgrace
      · cases hgrace
      · split at hgrace
        · cases hgrace
        · exact .inl ⟨hgrace, if_neg (by tauto)⟩
  | flag hstatus hlate => exact .inr ⟨hstatus, hlate, rfl⟩
  | default => simp [Loan.default] at hgrace

/-- A loan in default was in it already or defaults now, its grace over. -/
theorem Step.default_cases (hstep : Step config now loan loan')
    (hdefault : loan'.status = .defaulted) :
    loan' = loan ∨ (loan.status = .grace ∧ loan.graceExpiresAt < now ∧ loan' = loan.default) := by
  cases hstep with
  | stay => exact .inl rfl
  | reassign partner hopen =>
      have hdefault : loan.status = .defaulted := hdefault
      simp [isOpen, hdefault] at hopen
  | repay amount hopen hpos hle =>
      simp only [Loan.repay] at hdefault
      split at hdefault
      · cases hdefault
      · split at hdefault
        · cases hdefault
        · simp [isOpen, hdefault] at hopen
  | flag => simp [Loan.flag] at hdefault
  | default hstatus hexpired => exact .inr ⟨hstatus, hexpired, rfl⟩

/-- A closed loan makes no move. -/
theorem Step.eq_of_closed (hstep : Step config now loan loan') (hclosed : loan.isOpen = false) :
    loan' = loan := by
  cases hstep with
  | stay => rfl
  | reassign _ hopen | repay _ hopen => simp [hclosed] at hopen
  | flag hstatus | default hstatus => simp [isOpen, hstatus] at hclosed

/-- Once everything is repaid, every installment is covered. -/
theorem Sound.paid_of_repaid (h : Sound config now loan) (hrepaid : loan.status = .repaid) :
    loan.installmentsPaid = loan.installmentCount := by
  rw [h.paid, h.settled hrepaid, covered, Proportion.covered_total h.wf.principal_pos]
  exact Int.toNat_natCast _

theorem Sound.paid_le_count (h : Sound config now loan) :
    loan.installmentsPaid ≤ loan.installmentCount := by
  by_cases hrepaid : loan.status = .repaid
  · exact le_of_eq (h.paid_of_repaid hrepaid)
  · rw [h.paid]
    exact le_of_lt (h.wf.covered_lt h.repaid_nonneg (h.unpaid hrepaid).1)

/-- How often a loan can have entered grace: once for each installment covered, and once more if it
has not come out. -/
def graceEntries (loan : Loan) : ℕ :=
  loan.installmentsPaid + if loan.status = .grace ∨ loan.status = .defaulted then 1 else 0

theorem Sound.graceEntries_le (h : Sound config now loan) :
    loan.graceEntries ≤ loan.installmentCount := by
  have hle := h.paid_le_count
  unfold graceEntries
  split
  · have hrepaid : loan.status ≠ .repaid := by
      rintro hrepaid
      simp [hrepaid] at *
    have := h.wf.covered_lt h.repaid_nonneg (h.unpaid hrepaid).1
    rw [h.paid]
    omega
  · omega

/-- A move that enters grace uses up one entry, and no move takes one back. -/
theorem Step.graceEntries_le (hconfig : config.Accepted) (h : Sound config now loan)
    (hstep : Step config now loan loan') :
    loan.graceEntries + (if loan.status ≠ .grace ∧ loan'.status = .grace then 1 else 0) ≤
      loan'.graceEntries := by
  have hpaid := hstep.paid_le h
  by_cases hopen : loan.isOpen = true
  · have hsound' := h.step hconfig hstep
    have hlt := h.paid_lt_count hopen
    unfold graceEntries
    rcases isOpen_iff.mp hopen with hstatus | hstatus
    · -- from active, the one entry possible is the one being made
      cases hstatus' : loan'.status <;> simp [hstatus] <;> omega
    · -- from grace, leaving it is paid for by an installment
      cases hstatus' : loan'.status with
      | active =>
          have hcaught := hstep.paid_lt hconfig h hstatus hstatus'
          simp only [hstatus, reduceCtorEq, or_false, if_false, if_true, ne_eq, not_true_eq_false,
            and_self, or_self]
          omega
      | repaid =>
          have hall := hsound'.paid_of_repaid hstatus'
          rw [hstep.sameTerms.installmentCount] at hall
          simp only [hstatus, reduceCtorEq, or_false, if_false, if_true, ne_eq, not_true_eq_false,
            and_self, or_self]
          omega
      | grace | defaulted =>
          simp only [hstatus, reduceCtorEq, or_false, or_true, if_false, if_true, ne_eq,
            not_true_eq_false, and_self, and_true]
          omega
  · obtain rfl := hstep.eq_of_closed (by simpa using hopen)
    simp

/-- The installments that have fallen due at time `now`. -/
def fallenDue (loan : Loan) (now : ℕ) : ℕ :=
  ((Finset.Icc 1 loan.installmentCount).filter fun k => loan.dueDate k < now).card

/-- Past the due date of an installment, it and all before it have fallen due. -/
theorem lt_fallenDue {k : ℕ} (hk : k < loan.installmentCount) (hlate : loan.dueDate (k + 1) < now) :
    k < loan.fallenDue now := by
  -- due dates increase, so every earlier one is past as well
  have hsub : Finset.Icc 1 (k + 1) ⊆
      (Finset.Icc 1 loan.installmentCount).filter fun j => loan.dueDate j < now := by
    intro j hj
    obtain ⟨hj1, hjk⟩ := Finset.mem_Icc.mp hj
    have hjlate := lt_of_le_of_lt (loan.dueDate_mono hjk) hlate
    exact Finset.mem_filter.mpr ⟨Finset.mem_Icc.mpr ⟨hj1, by omega⟩, hjlate⟩
  have hcard := Finset.card_le_card hsub
  rw [Nat.card_Icc] at hcard
  unfold fallenDue
  omega

/-- A loan in grace has fewer installments covered than have fallen due. -/
theorem Sound.paid_lt_fallenDue (h : Sound config now loan) (hgrace : loan.status = .grace) :
    loan.installmentsPaid < loan.fallenDue now := by
  have hopen : loan.isOpen = true := isOpen_iff.mpr (.inr hgrace)
  refine lt_fallenDue (h.paid_lt_count hopen) ?_
  rw [← h.nextDue_of_open hopen]
  exact h.behind (.inl hgrace)

end Invariant

end Loan

end RemitCollateral.LoanLedger
