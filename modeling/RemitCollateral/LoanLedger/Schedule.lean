import RemitCollateral.LoanLedger.Runs

/-! # Schedules and installments

Two results about the calendar of a loan. Default cannot be put off: the due date follows the
principal repaid, and a loan enters grace at most once for each installment. And the published
installment keeps a loan current exactly when the installments divide the principal: it is the
principal divided by their number, rounded down, while the installments covered are counted against
the exact share. -/

namespace RemitCollateral.LoanLedger

open Soroban

variable {config : Config} {here : Address}

/-! ## Default cannot be put off -/

/-- **Deferral.** While a loan is open its schedule is that of the principal repaid, the due date
never goes back, grace ends only with another installment covered, and past the last due date only
full repayment or default ends it. -/
theorem default_not_deferred {history : List (Transition State Input)} {s : Timed State}
    (hrun : (machine config here).Run history s) {id : ℕ} {loan : Loan}
    (hloan : s.state.loans id = some loan) :
    (loan.isOpen = true →
      (loan.installmentsPaid : ℤ) =
          loan.totalRepaidUsd * loan.installmentCount / loan.principalUsd ∧
        loan.installmentsPaid + 1 ≤ loan.installmentCount ∧
        loan.nextDue = loan.originatedAt + (loan.installmentsPaid + 1) * loan.intervalSecs ∧
        loan.nextDue ≤ loan.originatedAt + loan.installmentCount * loan.intervalSecs) ∧
    (∀ t ∈ history, ∀ before after, t.pre.state.loans id = some before →
      t.post.state.loans id = some after →
        before.nextDue ≤ after.nextDue ∧
        (before.status = .grace → after.status = .active →
          before.installmentsPaid < after.installmentsPaid) ∧
        (before.status = .grace →
          before.originatedAt + before.installmentCount * before.intervalSecs < t.pre.now →
            after.status ≠ .active ∧
            (before.totalRepaidUsd < after.totalRepaidUsd →
              after.totalRepaidUsd < after.principalUsd → after.status = .grace))) ∧
    history.countP (entersGrace State.loans id) ≤ loan.installmentCount ∧
    (loan.status = .active →
      loan.originatedAt + loan.installmentCount * loan.intervalSecs < s.now →
        ∀ origin, ∃ s', isOverdue (Origin.env origin s.clock here) id s.state =
          .ok (true, s')) := by
  have hbooks := machine_books config here
  have hsound := hbooks.sound hrun hloan
  refine ⟨fun hopen => ⟨?_, hsound.paid_lt_count hopen, hsound.nextDue_of_open hopen,
    hsound.nextDue_le hopen⟩, fun t ht before after hbefore hafter => ?_, ?_,
    fun hactive hlast origin => ?_⟩
  · rw [hsound.paid]
    exact hsound.wf.covered_eq hsound.repaid_nonneg
  · -- the loan before and after `t` are one move apart
    obtain ⟨⟨older, hpast⟩, hstep⟩ := hrun.step_of_mem ht
    have hconfig := hbooks.accepted_of_run hpast
    have hbeforeSound := hbooks.sound hpast hbefore
    rcases hbooks.step_cases hpast hstep hafter with ⟨hnone, -⟩ | ⟨loan₁, hloan₁, hmove⟩
    · simp [hnone] at hbefore
    · obtain rfl : before = loan₁ := Option.some.inj (hbefore.symm.trans hloan₁)
      refine ⟨hmove.nextDue_le hbeforeSound, hmove.paid_lt hconfig hbeforeSound, fun hgrace hlast =>
        ⟨hmove.not_active hconfig hbeforeSound hgrace hlast, fun hpaid howing => ?_⟩⟩
      have hactive := hmove.not_active hconfig hbeforeSound hgrace hlast
      have hafterSound := hbeforeSound.step hconfig hmove
      -- it was paid and still owes, which leaves no other status
      cases hstatus : after.status with
      | grace => rfl
      | active => exact absurd hstatus hactive
      | repaid =>
          have := hafterSound.settled hstatus
          omega
      | defaulted =>
          rcases hmove.default_cases hstatus with rfl | ⟨-, -, rfl⟩
          · omega
          · simp [Loan.default] at hpaid
  · exact le_trans (hbooks.count_entersGrace_le hrun hloan) hsound.graceEntries_le
  · have hopen : loan.isOpen = true := Loan.isOpen_iff.mpr (.inl hactive)
    have hlate : loan.nextDue < s.now := lt_of_le_of_lt (hsound.nextDue_le hopen) hlast
    exact ⟨_, isOverdue_eq_ok.mpr ⟨loan, hloan, decide_eq_true ⟨hactive, hlate⟩, rfl⟩⟩

/-- A loan of 120 in three installments is flagged one second past its first due date and comes out
of grace by paying an installment a second later: one entry, of at most three. -/
theorem default_not_deferred_caughtUp : ∃ history s loan,
    (machine deployConfig ⟨0⟩).Run history s ∧ s.state.loans 1 = some loan ∧
      loan.status = .active ∧ loan.installmentsPaid = 1 ∧
      history.countP (entersGrace State.loans 1) = 1 ∧
      history.countP (entersGrace State.loans 1) ≤ loan.installmentCount := by
  obtain ⟨history, s, loan, hrun, hloan, hstatus, hpaid, hcount⟩ := exists_run_of_playLoan
    (P := fun history _ loan => loan.status = .active ∧ loan.installmentsPaid = 1 ∧
      history.countP (entersGrace State.loans 1) = 1)
    (show (playLoan 120 [(86401, .markGrace ⟨3⟩ 1),
      (86402, .attestRepayment ⟨5⟩ ⟨6⟩ 1 40)]).any _ = true by decide +kernel)
  exact ⟨history, s, loan, hrun, hloan, hstatus, hpaid, hcount,
    (default_not_deferred hrun hloan).2.2.1⟩

/-! ## Payments -/

/-- What a call attests on a loan. -/
def Call.paid (id : ℕ) : Call → ℤ
  | .attestRepayment _ _ loanId amountUsd => if loanId = id then amountUsd else 0
  | _ => 0

/-- What a transition attests on a loan. -/
def paid (id : ℕ) (t : Transition State Input) : ℤ :=
  match t.call with
  | some input => input.call.paid id
  | none => 0

/-- Whether a transition attests exactly `amount` on a loan. -/
def attests (id : ℕ) (amount : ℤ) (t : Transition State Input) : Bool :=
  match t.call with
  | some ⟨_, .attestRepayment _ _ loanId amountUsd⟩ => loanId = id ∧ amountUsd = amount
  | _ => false

/-- The principal repaid on a loan, zero if there is none. -/
def State.repaid (s : State) (id : ℕ) : ℤ := ((s.loans id).map Loan.totalRepaidUsd).getD 0

section Payments

variable {X : Type} {vaults : Address → VaultClient X} {env : Env} {s s' : State} {x x' : X}

theorem repaid_of_some {id : ℕ} {loan : Loan} (h : s.loans id = some loan) :
    s.repaid id = loan.totalRepaidUsd := by
  simp [State.repaid, h]

theorem repaid_record (s : State) (loan : Loan) (ttl : Lifetimes Key) (id : ℕ) :
    (s.record loan ttl).repaid id = if id = loan.id then loan.totalRepaidUsd else s.repaid id := by
  by_cases heq : id = loan.id
  · subst heq
    simp [State.repaid, State.record]
  · simp [State.repaid, State.record, heq]

/-- Recording a move that repays nothing repays nothing. -/
theorem repaid_record_same {id : ℕ} {loan : Loan} (loan' : Loan) (h : s.Sound config env.timestamp)
    (hfound : s.loans id = some loan) (hid : loan'.id = loan.id)
    (hsame : loan'.totalRepaidUsd = loan.totalRepaidUsd) (ttl : Lifetimes Key) (id' : ℕ) :
    (s.record loan' ttl).repaid id' = s.repaid id' := by
  rw [repaid_record, hid, h.keyed _ _ hfound]
  split
  · subst id'
    rw [hsame, repaid_of_some hfound]
  · rfl

/-- A call adds what it attests on a loan to the principal repaid, and nothing else does. -/
theorem Effect.repaid (h : s.Sound config env.timestamp) {call : Call}
    (heffect : Effect vaults env config s x s' x' call) (id : ℕ) :
    s'.repaid id = s.repaid id + call.paid id := by
  cases call with
  | originate guarantor beneficiary partner principalUsd installmentCount intervalSecs =>
      obtain ⟨loan, hchecks, -, ttl, rfl⟩ := heffect
      have hopens := hchecks.opens
      have hid : loan.id = getLoanCount s + 1 := hopens ▸ rfl
      have hzero : loan.totalRepaidUsd = 0 := hopens ▸ rfl
      -- the two ways to write a loan agree on the loans themselves
      show (s.record loan ttl).repaid id = s.repaid id + 0
      rw [repaid_record, add_zero, hzero]
      split
      · cases hloan : s.loans id with
        | none => simp [State.repaid, hloan]
        | some loan₁ =>
            have := (h.counted _ _ hloan).2
            omega
      · rfl
  | attestRepayment partner verifier loanId amountUsd =>
      obtain ⟨loan, hchecks, -, ttl, rfl⟩ := heffect
      have hkeyed : loan.id = loanId := h.keyed _ _ hchecks.found
      have hkeyed' : (loan.repay config env.timestamp amountUsd).id = loanId := hkeyed
      rw [repaid_record, hkeyed', Call.paid]
      by_cases heq : id = loanId
      · subst heq
        rw [if_pos rfl, if_pos rfl, repaid_of_some hchecks.found]
        rfl
      · rw [if_neg heq, if_neg (Ne.symm heq), add_zero]
  | markGrace caller loanId =>
      obtain ⟨-, -, -, loan, hfound, -, -, ttl, rfl⟩ := heffect
      rw [repaid_record_same (loan.flag config env.timestamp) h hfound rfl rfl ttl id]
      exact (add_zero _).symm
  | markDefaulted caller loanId =>
      obtain ⟨-, -, -, loan, hfound, -, -, ttl, rfl⟩ := heffect
      rw [repaid_record_same loan.default h hfound rfl rfl ttl id]
      exact (add_zero _).symm
  | reassignPartner admin loanId partner =>
      obtain ⟨-, -, -, -, loan, hfound, -, ttl, rfl⟩ := heffect
      rw [repaid_record_same { loan with partner } h hfound rfl rfl ttl id]
      exact (add_zero _).symm
  | _ =>
      show s'.repaid id = s.repaid id + 0
      rw [State.repaid, heffect.2.loans, State.repaid, add_zero]

/-- An attestation that returned was for a positive amount. -/
theorem Effect.paid_pos {partner verifier : Address} {loanId : ℕ} {amountUsd : ℤ}
    (heffect : Effect vaults env config s x s' x'
      (.attestRepayment partner verifier loanId amountUsd)) : 0 < amountUsd := by
  obtain ⟨loan, hchecks, -⟩ := heffect
  exact hchecks.pos

end Payments

section Runs

variable {history : List (Transition State Input)} {s : Timed State}

/-- The principal repaid on a loan is the total of what its run attests. -/
theorem repaid_eq_sum (hrun : (machine config here).Run history s) (id : ℕ) :
    s.state.repaid id = (history.map (paid id)).sum := by
  induction hrun with
  | start initial =>
      have hnone := (machine_books config here).initial _ initial id
      simp [State.repaid, hnone]
  | step run step ih =>
      rw [List.map_cons, List.sum_cons, ← ih]
      cases step with
      | tick => simp [paid]
      | call acts =>
          obtain ⟨-, X, vaults, x, x', hvaults, hok⟩ := acts
          have hsound := State.Sound.of_reachable run.reachable
          rw [(exec_effect hsound hok).repaid hsound id, add_comm]
          rfl

/-- No transition attests a negative amount, and none attests zero by an attestation. -/
theorem paid_of_mem (hrun : (machine config here).Run history s) {t : Transition State Input}
    (ht : t ∈ history) (id : ℕ) :
    0 ≤ paid id t ∧ ∀ amount, attests id amount t = true → paid id t = amount ∧ 0 < amount := by
  obtain ⟨hpast, hstep⟩ := hrun.step_of_mem ht
  obtain ⟨pre, call, post⟩ := t
  cases hstep with
  | tick => exact ⟨le_refl _, nofun⟩
  | @call c s s' input acts =>
      obtain ⟨origin, call⟩ := input
      obtain ⟨-, X, vaults, x, x', hvaults, hok⟩ := acts
      have heffect := exec_effect (State.Sound.of_reachable hpast) hok
      cases call with
      | attestRepayment partner verifier loanId amountUsd =>
          have hpos := heffect.paid_pos
          refine ⟨?_, fun amount hattests => ?_⟩
          · simp only [paid, Call.paid]
            split <;> omega
          · obtain ⟨rfl, rfl⟩ : loanId = id ∧ amountUsd = amount := by
              simpa [attests] using hattests
            exact ⟨if_pos rfl, hpos⟩
      | _ => exact ⟨le_refl _, nofun⟩

/-- Payments of one amount come to at most the total of a list of payments. -/
theorem count_mul_le_sum {α : Type} {payment : α → ℤ} {exact : α → Bool} {amount : ℤ} (l : List α)
    (h : ∀ t ∈ l, 0 ≤ payment t ∧ (exact t = true → payment t = amount)) :
    (l.countP exact : ℤ) * amount ≤ (l.map payment).sum := by
  induction l with
  | nil => simp
  | cons t l ih =>
      have hrest := ih fun t' ht' => h t' (List.mem_cons_of_mem t ht')
      obtain ⟨h0, hexact⟩ := h t List.mem_cons_self
      rw [List.countP_cons, List.map_cons, List.sum_cons]
      split
      · rw [hexact ‹_›]
        push_cast
        linarith [add_mul (l.countP exact : ℤ) 1 amount]
      · simpa using by linarith

/-- When all payments are of one amount, they come to exactly that many of it. -/
theorem count_mul_eq_sum {α : Type} {payment : α → ℤ} {exact : α → Bool} {amount : ℤ} (l : List α)
    (h : ∀ t ∈ l, payment t = if exact t = true then amount else 0) :
    (l.countP exact : ℤ) * amount = (l.map payment).sum := by
  induction l with
  | nil => simp
  | cons t l ih =>
      rw [List.countP_cons, List.map_cons, List.sum_cons, h t List.mem_cons_self,
        ← ih fun t' ht' => h t' (List.mem_cons_of_mem t ht')]
      split
      · push_cast
        ring
      · simp

end Runs

/-! ## The published installment -/

/-- The installments divide the principal, or are so small that none can be attested. -/
def Loan.ExactInstallments (loan : Loan) : Prop :=
  (loan.installmentCount : ℤ) ∣ loan.principalUsd ∨ loan.principalUsd < loan.installmentCount

instance (loan : Loan) : Decidable loan.ExactInstallments := inferInstanceAs (Decidable (_ ∨ _))

/-- The loan is not overdue, not in grace and not in default. -/
def Loan.InGoodStanding (now : ℕ) (loan : Loan) : Prop :=
  loan.status ≠ .grace ∧ loan.status ≠ .defaulted ∧
    ¬ (loan.status = .active ∧ loan.nextDue < now)

/-- Every installment that has fallen due by `now` was paid by then, in one payment of the published
amount each. -/
def PaidOnTime (history : List (Transition State Input)) (now id : ℕ) (loan : Loan) : Prop :=
  ∀ k, 1 ≤ k → k ≤ loan.installmentCount → loan.dueDate k < now →
    k ≤ history.countP fun t => attests id loan.installmentAmount t ∧ t.pre.now ≤ loan.dueDate k

/-- Paying the published installment keeps the loan current: `k` payments cover `k` installments,
all of them repay it, and payments on time keep it in good standing throughout. -/
structure KeepsCurrent (history : List (Transition State Input)) (s : Timed State) (id : ℕ)
    (loan : Loan) : Prop where
  covers : ∀ k, 1 ≤ k → k ≤ loan.installmentCount →
    k ≤ history.countP (attests id loan.installmentAmount) →
      k ≤ loan.installmentsPaid ∧ (k = loan.installmentCount → loan.status = .repaid)
  current : PaidOnTime history s.now id loan → loan.InGoodStanding s.now ∧
    ∀ t ∈ history, ∀ loan', t.post.state.loans id = some loan' → loan'.InGoodStanding t.post.now

section Published

variable {history newer older : List (Transition State Input)} {t : Transition State Input}
  {s : Timed State} {id : ℕ} {loan loan' : Loan}

/-- Payments of the published installment come to at most the principal repaid. -/
theorem installments_le_repaid (hrun : (machine config here).Run history s)
    (hloan : s.state.loans id = some loan) (amount : ℤ) :
    (history.countP (attests id amount) : ℤ) * amount ≤ loan.totalRepaidUsd := by
  rw [← repaid_of_some hloan, repaid_eq_sum hrun id]
  exact count_mul_le_sum history fun t ht =>
    ⟨(paid_of_mem hrun ht id).1, fun hattests => ((paid_of_mem hrun ht id).2 amount hattests).1⟩

/-- Exact installments cover as many installments as there were payments of them. -/
theorem count_le_paid (hrun : (machine config here).Run history s)
    (hloan : s.state.loans id = some loan) (hexact : loan.ExactInstallments) :
    history.countP (attests id loan.installmentAmount) ≤ loan.installmentsPaid := by
  have hsound := (machine_books config here).sound hrun hloan
  have hpos := hsound.wf.principal_pos
  have hcount := hsound.wf.count_pos
  rcases Nat.eq_zero_or_pos (history.countP (attests id loan.installmentAmount)) with hzero | hsome
  · omega
  · have hdvd : (loan.installmentCount : ℤ) ∣ loan.principalUsd := by
      rcases hexact with hdvd | hsmall
      · exact hdvd
      · -- the published amount is zero, and no attestation is for zero
        obtain ⟨t, ht, hattests⟩ := List.countP_pos_iff.mp hsome
        have hamount := ((paid_of_mem hrun ht id).2 _ hattests).2
        rw [hsound.wf.installment, Int.ediv_eq_zero_of_lt (le_of_lt hpos) hsmall] at hamount
        omega
    have hle := installments_le_repaid hrun hloan loan.installmentAmount
    rw [hsound.wf.installment] at hle
    have hcovered := Proportion.covered_mono (Int.natCast_nonneg loan.installmentCount) hpos hle
    rw [← hsound.wf.covered_eq hsound.repaid_nonneg, ← hsound.paid] at hcovered
    have hexactly := (Proportion.le_covered_equal_steps_iff (by omega) hpos
      (k := history.countP (attests id loan.installmentAmount)) (by omega)).mpr hdvd
    rw [← hsound.wf.installment] at hexactly hcovered
    omega

/-- A loan paid on time was paid on time at every earlier moment. -/
theorem PaidOnTime.before (hrun : (machine config here).Run (newer ++ t :: older) s)
    (h : PaidOnTime (newer ++ t :: older) s.now id loan) (hsame : Loan.SameTerms loan' loan) :
    PaidOnTime (t :: older) t.post.now id loan' := by
  intro k hk hkcount hdue
  obtain ⟨hnow, hlater⟩ := hrun.now_le
  rw [← hsame.dueDate] at hdue
  have hpaid := h k hk (hsame.installmentCount ▸ hkcount) (lt_of_lt_of_le hdue hnow)
  rw [List.countP_append, hsame.installmentAmount] at hpaid
  -- what came after the earlier moment is past a date that had already passed then
  have hnone : newer.countP (fun t' => attests id loan'.installmentAmount t' ∧
      t'.pre.now ≤ loan.dueDate k) = 0 := by
    refine List.countP_eq_zero.mpr fun t' ht' => ?_
    have := hlater t' ht'
    simp only [Bool.decide_and, Bool.decide_eq_true, Bool.and_eq_true, decide_eq_true_eq, not_and]
    omega
  rw [hnone, zero_add] at hpaid
  simpa only [hsame.dueDate] using hpaid

/-- A loan with exact installments that is paid on time is in good standing. -/
theorem inGoodStanding (hrun : (machine config here).Run history s)
    (hloan : s.state.loans id = some loan) (hexact : loan.ExactInstallments)
    (honTime : PaidOnTime history s.now id loan) : loan.InGoodStanding s.now := by
  have hsound := (machine_books config here).sound hrun hloan
  have hpaid := count_le_paid hrun hloan hexact
  -- the first installment not covered has fallen due, so as many payments were made
  have hcurrent : ∀ (hunpaid : loan.status ≠ .repaid), ¬ loan.nextDue < s.now := by
    intro hunpaid hlate
    obtain ⟨howing, hdue⟩ := hsound.unpaid hunpaid
    have hlt := hsound.wf.covered_lt hsound.repaid_nonneg howing
    rw [← hsound.paid] at hlt
    rw [hdue] at hlate
    have hmade := honTime (loan.installmentsPaid + 1) (by omega) hlt hlate
    have hsub := List.countP_mono_left (l := history)
      (p := fun t => attests id loan.installmentAmount t ∧
        t.pre.now ≤ loan.dueDate (loan.installmentsPaid + 1))
      (q := attests id loan.installmentAmount) fun t _ ht => by
        simp only [Bool.decide_and, Bool.decide_eq_true, Bool.and_eq_true] at ht
        exact ht.1
    omega
  refine ⟨fun hgrace => ?_, fun hdefault => ?_, fun ⟨hactive, hlate⟩ => ?_⟩
  · exact hcurrent (by simp [hgrace]) (hsound.behind (.inl hgrace))
  · exact hcurrent (by simp [hdefault]) (hsound.behind (.inr hdefault))
  · exact hcurrent (by simp [hactive]) hlate

/-- **Published installments.** Paying the published installment keeps a loan current whenever the
installments are exact, in every run; and when all that was attested on it is some payments of the
published installment, they cover that many installments only then. -/
theorem installments_keep_current (hrun : (machine config here).Run history s)
    (hloan : s.state.loans id = some loan) :
    (loan.ExactInstallments → KeepsCurrent history s id loan) ∧
    (1 ≤ history.countP (attests id loan.installmentAmount) →
      (∀ t ∈ history, paid id t =
        if attests id loan.installmentAmount t = true then loan.installmentAmount else 0) →
      (history.countP (attests id loan.installmentAmount) ≤ loan.installmentsPaid ↔
        loan.ExactInstallments)) := by
  have hbooks := machine_books config here
  have hsound := hbooks.sound hrun hloan
  refine ⟨fun hexact => ⟨fun k _ hkcount hk => ?_, fun honTime => ?_⟩, fun hsome honly => ?_⟩
  · -- as many covered as paid, and all of them only when it is repaid
    have hpaid := count_le_paid hrun hloan hexact
    refine ⟨le_trans hk hpaid, ?_⟩
    intro hall
    by_contra hunpaid
    have hlt := hsound.wf.covered_lt hsound.repaid_nonneg (hsound.unpaid hunpaid).1
    rw [← hsound.paid] at hlt
    omega
  · -- at an earlier moment the same holds of the loan as it was
    refine ⟨inGoodStanding hrun hloan hexact honTime, ?_⟩
    intro t ht loan' hloan'
    obtain ⟨newer, older, rfl⟩ := List.append_of_mem ht
    obtain ⟨loan₁, hloan₁, hsame⟩ := hbooks.sameTerms hrun hloan'
    obtain rfl : loan = loan₁ := Option.some.inj (hloan.symm.trans hloan₁)
    have hexact' : loan'.ExactInstallments := by
      rw [Loan.ExactInstallments, ← hsame.installmentCount, ← hsame.principalUsd]
      exact hexact
    exact inGoodStanding hrun.split hloan' hexact' (honTime.before hrun hsame)
  · -- with nothing else attested, the principal repaid is exactly those payments
    refine ⟨fun hcovers => .inl ?_, fun hexact => count_le_paid hrun hloan hexact⟩
    have hpos := hsound.wf.principal_pos
    have hcount := hsound.wf.count_pos
    have htotal := count_mul_eq_sum history honly
    rw [← repaid_eq_sum hrun id, repaid_of_some hloan] at htotal
    have hcovered := hsound.wf.covered_eq hsound.repaid_nonneg
    rw [← hsound.paid, ← htotal, hsound.wf.installment] at hcovered
    refine (Proportion.le_covered_equal_steps_iff (by omega) hpos
      (k := history.countP (attests id loan.installmentAmount)) (by omega)).mp ?_
    rw [hsound.wf.installment] at hcovers ⊢
    omega

end Published

/-- The due dates that have passed one second after the first are the first one only. -/
theorem eq_one_of_dueDate_lt {loan : Loan} {now k : ℕ} (hk : 1 ≤ k) (hdue : loan.dueDate k < now)
    (hnow : now ≤ loan.dueDate 2) : k = 1 := by
  by_contra hne
  have := loan.dueDate_mono (show 2 ≤ k by omega)
  omega

/-- A loan of 120 in three installments of 40: one payment on time, and it is in good standing past
its first due date. -/
theorem installments_keep_current_exact : ∃ history s loan,
    (machine deployConfig ⟨0⟩).Run history s ∧ s.state.loans 1 = some loan ∧
      history.countP (attests 1 loan.installmentAmount) = 1 ∧ loan.dueDate 1 < s.now ∧
      loan.InGoodStanding s.now := by
  obtain ⟨history, s, loan, hrun, hloan, hexact, hcount, hlate, hnow, honTime⟩ :=
    exists_run_of_playLoan
    (P := fun history s loan => loan.ExactInstallments ∧
      history.countP (attests 1 loan.installmentAmount) = 1 ∧ loan.dueDate 1 < s.now ∧
      s.now ≤ loan.dueDate 2 ∧ 1 ≤ history.countP (fun t =>
        attests 1 loan.installmentAmount t ∧ t.pre.now ≤ loan.dueDate 1))
    (show (playLoan 120 [(86400, .attestRepayment ⟨5⟩ ⟨6⟩ 1 40),
      (86401, .isOverdue 1)]).any _ = true by decide +kernel)
  have hcurrent := ((installments_keep_current hrun hloan).1 hexact).current
  refine ⟨history, s, loan, hrun, hloan, hcount, hlate, (hcurrent fun k hk hkcount hdue => ?_).1⟩
  obtain rfl := eq_one_of_dueDate_lt hk hdue hnow
  exact honTime

/-- A loan of 100 in three published installments of 33: the first is paid on time and covers no
installment, and one second past the first due date the loan is overdue and moved to grace. -/
theorem installments_fall_short : ∃ history s loan,
    (machine deployConfig ⟨0⟩).Run history s ∧ s.state.loans 1 = some loan ∧
      loan.principalUsd = 100 ∧ loan.installmentCount = 3 ∧
      history.countP (attests 1 loan.installmentAmount) = 1 ∧ loan.installmentsPaid = 0 ∧
      PaidOnTime history s.now 1 loan ∧ loan.status = .grace ∧ ¬ KeepsCurrent history s 1 loan := by
  obtain ⟨history, s, loan, hrun, hloan, hprincipal, hcount, hmade, hpaid, hstatus, hnow,
      honTime⟩ := exists_run_of_playLoan
    (P := fun history s loan => loan.principalUsd = 100 ∧ loan.installmentCount = 3 ∧
      history.countP (attests 1 loan.installmentAmount) = 1 ∧ loan.installmentsPaid = 0 ∧
      loan.status = .grace ∧ s.now ≤ loan.dueDate 2 ∧ 1 ≤ history.countP (fun t =>
        attests 1 loan.installmentAmount t ∧ t.pre.now ≤ loan.dueDate 1))
    (show (playLoan 100 [(86400, .attestRepayment ⟨5⟩ ⟨6⟩ 1 33),
      (86401, .markGrace ⟨3⟩ 1)]).any _ = true by decide +kernel)
  refine ⟨history, s, loan, hrun, hloan, hprincipal, hcount, hmade, hpaid,
    fun k hk hkcount hdue => ?_, hstatus, fun hcurrent => ?_⟩
  · obtain rfl := eq_one_of_dueDate_lt hk hdue hnow
    exact honTime
  · have hcovers := (hcurrent.covers 1 (by decide) (by omega) (by omega)).1
    omega

end RemitCollateral.LoanLedger
