import RemitCollateral.Protocol.Sweep

/-! # A guarantor can always get out

A guarantor's collateral is tied up by loans that only others can repay or service. It needs none of
them: two sweeps of its own loans, which it can make itself, close all of them, and what they did
not forfeit can be withdrawn. -/

namespace RemitCollateral.Protocol

open Soroban
open LoanLedger (Loan)

variable {T : Type} {d : Deployment} {tokens : Address → GuarantorVault.TokenClient T}
  {tok : GuarantorVault.StandardToken T} {clock clock' : Clock} {s s' : System T}

/-! ## Cranked twice -/

section Twice

variable {config : LoanLedger.Config} {now now' : ℕ} {loan : Loan}

/-- Cranking changes no terms. -/
theorem cranked_sameTerms (config : LoanLedger.Config) (now : ℕ) (loan : Loan) :
    Loan.SameTerms loan (cranked config now loan) := by
  unfold cranked
  split
  · constructor <;> rfl
  · split
    · constructor <;> rfl
    · exact .refl loan

/-- A closed loan is past cranking. -/
theorem cranked_of_closed (hclosed : loan.isOpen = false) : cranked config now loan = loan := by
  have hstatus : ¬ (loan.status = .active ∨ loan.status = .grace) := by
    rw [← Loan.isOpen_iff, hclosed]
    decide
  rw [cranked, if_neg fun hoverdue => hstatus (.inl hoverdue.1),
    if_neg fun hexpired => hstatus (.inr hexpired.1)]

/-- A closed loan has no grace that could be over. -/
theorem not_expired_of_closed (hclosed : loan.isOpen = false) : ¬ loan.GraceExpired now := by
  intro hexpired
  exact absurd ((Loan.isOpen_iff.mpr (.inr hexpired.1)).symm.trans hclosed) (by decide)

/-- An open loan past its due date is closed by two cranks a grace period apart, and settled once,
whichever of the two does it. -/
theorem cranked_twice (hopen : loan.isOpen = true) (hlate : loan.nextDue < now)
    (hdeadline : loan.status = .grace → loan.graceExpiresAt < now')
    (hlater : now + config.gracePeriodSecs < now') :
    (cranked config now' (cranked config now loan)).isOpen = false ∧
      ∀ amount : Loan → ℤ, amount (loan.flag config now) = amount loan →
        ifExpired now amount (some loan) + ifExpired now' amount (some (cranked config now loan)) =
          amount loan := by
  rcases Loan.isOpen_iff.mp hopen with hactive | hgrace
  · -- flagged by the first, closed by the second
    have hoverdue : loan.Overdue now := ⟨hactive, hlate⟩
    have hfirst : cranked config now loan = loan.flag config now := if_pos hoverdue
    have hexpired : (loan.flag config now).GraceExpired now' := ⟨rfl, hlater⟩
    have hnot : ¬ loan.GraceExpired now :=
      fun hexpired => loan.not_overdue_and_expired _ ⟨hoverdue, hexpired⟩
    rw [hfirst]
    refine ⟨?_, fun amount hamount => ?_⟩
    · rw [cranked, if_neg fun h => loan.flag config now |>.not_overdue_and_expired _ ⟨h, hexpired⟩,
        if_pos hexpired]
      rfl
    · rw [ifExpired, if_neg hnot, ifExpired, if_pos hexpired, hamount, zero_add]
  · have hnot : ∀ t, ¬ loan.Overdue t := by
      intro t hoverdue
      exact absurd (hgrace.symm.trans hoverdue.1) (by decide)
    by_cases hexpired : loan.GraceExpired now
    · -- closed by the first
      have hfirst : cranked config now loan = loan.default := by
        rw [cranked, if_neg (hnot now), if_pos hexpired]
      have hclosed : loan.default.isOpen = false := rfl
      rw [hfirst]
      refine ⟨?_, fun amount _ => ?_⟩
      · rw [cranked_of_closed hclosed]
        exact hclosed
      · rw [ifExpired, if_pos hexpired, ifExpired, if_neg (not_expired_of_closed hclosed), add_zero]
    · -- left alone by the first, closed by the second
      have hfirst : cranked config now loan = loan := by
        rw [cranked, if_neg (hnot now), if_neg hexpired]
      have hexpired' : loan.GraceExpired now' := ⟨hgrace, hdeadline hgrace⟩
      rw [hfirst]
      refine ⟨?_, fun amount _ => ?_⟩
      · rw [cranked, if_neg (hnot now'), if_pos hexpired']
        rfl
      · rw [ifExpired, if_neg hexpired, ifExpired, if_pos hexpired', zero_add]

end Twice

/-! ## Sweeping all loans of a guarantor -/

/-- Time passing keeps what operations rely on. -/
theorem System.Settled.mono (h : s.Settled d tokens tok clock) (hle : clock ≤ clock') :
    s.Settled d tokens tok clock' :=
  ⟨{ h.1 with ledger := h.1.ledger.mono hle.1 }, h.2⟩

/-- What `g` owes on a loan of the book that is still open: the principal, up to what is held. -/
def exposure (g : Address) : Option Loan → ℤ
  | some loan => if loan.guarantor = g ∧ loan.isOpen = true then forfeitable loan else 0
  | none => 0

/-- The loans of `ids` include every open loan of `g`. -/
def Covers (g : Address) (s : System T) (ids : Finset ℕ) : Prop :=
  ∀ id loan, s.loans id = some loan → loan.isOpen = true → loan.guarantor = g → id ∈ ids

/-- A total over loans that include the open ones of `g` is a total over all loans. -/
theorem expiredTotal_of_covers {g : Address} {ids all : Finset ℕ} {amount : Loan → ℤ}
    (hsub : ids ⊆ all) (hcovers : Covers g s ids)
    (hothers : ∀ loan : Loan, loan.guarantor ≠ g → amount loan = 0) (now : ℕ) :
    expiredTotal now amount s.loans ids = ∑ id ∈ all, ifExpired now amount (s.loans id) := by
  refine Finset.sum_subset hsub fun id _ hid => ?_
  -- a loan that is not named is closed or another's
  cases hloan : s.loans id with
  | none => rfl
  | some loan =>
      rw [ifExpired]
      split
      · refine hothers loan fun hg => hid (hcovers id loan hloan ?_ hg)
        exact Loan.isOpen_iff.mpr (.inr (‹loan.GraceExpired now›).1)
      · rfl

/-- The entry of a loan in a book that was cranked. -/
theorem crankBook_of_some {config : LoanLedger.Config} {now id : ℕ} {book : LoanLedger.LoanBook}
    {loan : Loan} (ids : Finset ℕ) (h : book id = some loan) : crankBook config now ids book id =
      some (if id ∈ ids then cranked config now loan else loan) := by
  rw [crankBook, h]
  split <;> rfl

/-- A loan in grace was flagged at most one grace period before its deadline. -/
theorem deadline_le {s : Timed (System T)} (h : (machine d tokens tok).Reachable s) {id : ℕ}
    {loan : Loan} (hloan : s.state.loans id = some loan) (hgrace : loan.status = .grace) :
    loan.graceExpiresAt ≤ s.now + d.config.gracePeriodSecs := by
  obtain ⟨history, hrun⟩ := h
  obtain ⟨since, flag, before, rfl, -, hdeadline, -⟩ :=
    (machine_books d tokens tok).grace_history hrun hloan hgrace
  have hflag := (hrun.step_of_mem (List.mem_append_right _ List.mem_cons_self)).2.now_le
  have hnow := hrun.now_le.1
  omega

section Sweeps

variable {s₁ s₂ : System T} {now now' : ℕ} {g : Address} {ids ids' : Finset ℕ}

/-- Two sweeps, a grace period apart, that include every open loan of `g`, all of them past their
due dates. -/
structure SweptTwice (d : Deployment) (tok : GuarantorVault.StandardToken T) (g : Address)
    (now now' : ℕ) (ids ids' : Finset ℕ) (s s₁ s₂ : System T) : Prop where
  late : ∀ id loan, s.loans id = some loan → loan.isOpen = true → loan.guarantor = g →
    loan.nextDue < now ∧ (loan.status = .grace → loan.graceExpiresAt < now')
  later : now + d.config.gracePeriodSecs < now'
  covers : Covers g s ids
  covers' : Covers g s ids'
  first : Swept d tok now ids s s₁
  second : Swept d tok now' ids' s₁ s₂

namespace SweptTwice

variable (h : SweptTwice d tok g now now' ids ids' s s₁ s₂)
include h

/-- What both sweeps settle of one loan is what `g` owed on it. -/
theorem settles (id : ℕ) : ifExpired now (forfeitedBy g) (s.loans id) +
    ifExpired now' (forfeitedBy g) (s₁.loans id) = exposure g (s.loans id) := by
  rw [h.first.loans]
  cases hloan : s.loans id with
  | none => simp [crankBook, hloan, ifExpired, exposure]
  | some loan =>
      rw [crankBook_of_some ids hloan]
      by_cases hg : loan.guarantor = g
      · cases hopen : loan.isOpen with
        | false =>
            have hsame : (if id ∈ ids then cranked d.config now loan else loan) = loan := by
              rw [cranked_of_closed hopen, ite_self]
            rw [hsame, ifExpired, if_neg (not_expired_of_closed hopen), ifExpired,
              if_neg (not_expired_of_closed hopen)]
            simp [exposure, hopen]
        | true =>
            obtain ⟨hdue, hdeadline⟩ := h.late id loan hloan hopen hg
            have hflag : forfeitedBy g (loan.flag d.config now) = forfeitedBy g loan := rfl
            rw [if_pos (h.covers id loan hloan hopen hg),
              (cranked_twice hopen hdue hdeadline h.later).2 _ hflag]
            simp [exposure, forfeitedBy, hg, hopen]
      · -- another guarantor's loan stays another guarantor's
        have hkeeps : (if id ∈ ids then cranked d.config now loan else loan).guarantor =
            loan.guarantor := by
          split
          · exact (cranked_sameTerms _ _ _).guarantor
          · rfl
        have hnothing : ∀ loan' : Loan, loan'.guarantor = loan.guarantor → ∀ t,
            ifExpired t (forfeitedBy g) (some loan') = 0 := by
          intro loan' hsame t
          rw [ifExpired, forfeitedBy, hsame, if_neg hg, ite_self]
        rw [hnothing loan rfl, hnothing _ hkeeps]
        simp [exposure, hg]

/-- No loan of `g` is left open. -/
theorem closes (id : ℕ) {loan₂ : Loan} (hloan₂ : s₂.loans id = some loan₂)
    (hg : loan₂.guarantor = g) : loan₂.isOpen = false := by
  rw [h.second.loans, h.first.loans] at hloan₂
  cases hloan : s.loans id with
  | none => simp [crankBook, hloan] at hloan₂
  | some loan =>
      rw [crankBook_of_some ids' (crankBook_of_some ids hloan)] at hloan₂
      obtain rfl := Option.some.inj hloan₂
      cases hopen : loan.isOpen with
      | false =>
          -- closed before, and so throughout
          rw [cranked_of_closed hopen, ite_self, cranked_of_closed hopen, ite_self]
          exact hopen
      | true =>
          have howner : loan.guarantor = g := by
            rw [← hg]
            split <;> split <;> simp only [(cranked_sameTerms _ _ _).guarantor]
          obtain ⟨hdue, hdeadline⟩ := h.late id loan hloan hopen howner
          rw [if_pos (h.covers id loan hloan hopen howner),
            if_pos (h.covers' id loan hloan hopen howner)]
          exact (cranked_twice hopen hdue hdeadline h.later).1

/-- No loan of `g` was opened by the first sweep. -/
theorem covers_second : Covers g s₁ ids' := by
  intro id loan₁ hloan₁ hopen₁ hg
  rw [h.first.loans] at hloan₁
  cases hloan : s.loans id with
  | none => simp [crankBook, hloan] at hloan₁
  | some loan =>
      rw [crankBook_of_some ids hloan] at hloan₁
      obtain rfl := Option.some.inj hloan₁
      have howner : loan.guarantor = g := by
        rw [← hg]
        split <;> simp only [(cranked_sameTerms _ _ _).guarantor]
      cases hopen : loan.isOpen with
      | false =>
          rw [cranked_of_closed hopen, ite_self, hopen] at hopen₁
          cases hopen₁
      | true => exact h.covers' id loan hloan hopen howner

/-- The balance of `g` falls by what it owed on its open loans. -/
theorem balance {all : Finset ℕ} (hsub : ids ⊆ all) (hsub' : ids' ⊆ all) :
    s₂.world.vault.collateralBalance g =
      s.world.vault.collateralBalance g - ∑ id ∈ all, exposure g (s.loans id) := by
  have hothers : ∀ loan : Loan, loan.guarantor ≠ g → forfeitedBy g loan = 0 := by
    intro loan hne
    exact if_neg hne
  rw [h.second.balance, h.first.balance, expiredTotal_of_covers hsub h.covers hothers,
    expiredTotal_of_covers hsub' h.covers_second hothers, sub_sub, ← Finset.sum_add_distrib,
    Finset.sum_congr rfl fun id _ => h.settles id]

/-- Nothing of `g` is left locked. -/
theorem locked (hbalanced : s₂.Balanced) : s₂.world.vault.lockedAmount g = 0 := by
  rw [hbalanced g, System.held]
  refine Finset.sum_eq_zero fun id _ => ?_
  cases hloan : s₂.loans id with
  | none => rfl
  | some loan =>
      by_cases hg : loan.guarantor = g
      · exact held_of_closed (h.closes id hloan hg)
      · exact if_neg fun hheld => hg hheld.1

end SweptTwice

end Sweeps

/-- What a guarantor has free it can withdraw, and then it has it. -/
theorem withdraw_all (h : s.Settled d tokens tok clock) {g : Address} {origin : Origin}
    (hsigned : (origin.env clock d.vault).authorized g)
    (hlocked : s.world.vault.lockedAmount g = 0) (hpos : 0 < s.world.vault.collateralBalance g) :
    ∃ s', exec d tokens origin clock s (.vault (.withdraw g (s.world.vault.collateralBalance g))) =
        some s' ∧ s'.world.vault.collateralBalance g = 0 ∧
      ∀ a, tok.balance s'.world.token a = tok.balance s.world.token a -
        (if a = d.vault then s.world.vault.collateralBalance g else 0) +
        if a = g then s.world.vault.collateralBalance g else 0 := by
  have hsolvent := h.1.solvent
  have hfree : s.world.vault.collateralBalance g ≤
      s.world.vault.collateralBalance g - s.world.vault.lockedAmount g := by rw [hlocked, sub_zero]
  obtain ⟨w', hok⟩ :=
    hsolvent.withdraw_succeeds (origin.env_currentContract clock d.vault) hsigned hpos hfree
  obtain ⟨-, -, -, -, t', htransfer, rfl⟩ :=
    (GuarantorVault.withdraw_eq_ok hsolvent.sound hsolvent.uses).mp hok
  refine ⟨_, Option.map_eq_some_iff.mpr ⟨_, outcome_eq_some.mpr hok, rfl⟩, ?_, ?_⟩
  · rw [GuarantorVault.collateralBalance_adjust, if_pos rfl, sub_self]
  · exact tok.transfer_moves htransfer

/-- **Exit.** In every reachable state with the engine running, any keepers can free a guarantor
without the beneficiaries, partners or admin of its loans: poke its open loans once when all are
past their due dates, and again when another grace period has passed. As long as the clock has room
for a grace period, both sweeps go through, no matter which other loans they name; nothing of the
guarantor is then locked, its balance has fallen by exactly what it owed on its open loans, and it
can withdraw all of the rest. -/
theorem exit_without_cooperation {s : Timed (System T)} (h : (machine d tokens tok).Reachable s)
    (hrunning : LiquidationEngine.paused s.state.engine = false) {g : Address}
    {pokes pokes' : List (Origin × ℕ)}
    (hfound : ∀ poke ∈ pokes ++ pokes', (s.state.loans poke.2).isSome)
    (hcovers : Covers g s.state (sweptIds pokes)) (hcovers' : Covers g s.state (sweptIds pokes'))
    {clock clock' : Clock} (hle : s.clock ≤ clock) (hle' : clock ≤ clock')
    (hlate : ∀ id loan, s.state.loans id = some loan → loan.isOpen = true → loan.guarantor = g →
      loan.nextDue < clock.timestamp)
    (hlater : clock.timestamp + d.config.gracePeriodSecs < clock'.timestamp)
    (htime : clock'.timestamp + d.config.gracePeriodSecs < 2 ^ 64) :
    ∃ receipts s₁ receipts' s₂,
      runBatch (perform d tokens clock) (sweep pokes) s.state = some (receipts, s₁) ∧
      runBatch (perform d tokens clock') (sweep pokes') s₁ = some (receipts', s₂) ∧
      s₂.world.vault.lockedAmount g = 0 ∧
      s₂.world.vault.collateralBalance g = s.state.world.vault.collateralBalance g -
        ∑ id ∈ Finset.Icc 1 (LoanLedger.getLoanCount s.state.ledger),
          exposure g (s.state.loans id) ∧
      ∀ origin, (Origin.env origin clock' d.vault).authorized g →
        0 < s₂.world.vault.collateralBalance g →
        ∃ s₃, exec d tokens origin clock' s₂
            (.vault (.withdraw g (s₂.world.vault.collateralBalance g))) = some s₃ ∧
          s₃.world.vault.collateralBalance g = 0 ∧
          ∀ a, tok.balance s₃.world.token a = tok.balance s₂.world.token a -
            (if a = d.vault then s₂.world.vault.collateralBalance g else 0) +
            if a = g then s₂.world.vault.collateralBalance g else 0 := by
  have hsettled : s.state.Settled d tokens tok s.clock := .of_reachable h
  obtain ⟨hpokes, hpokes'⟩ := List.forall_mem_append.mp hfound
  obtain ⟨receipts, s₁, hbatch, hswept, hsettled₁⟩ :=
    sweep_swept (hsettled.mono hle) hrunning (by unfold InU64; omega) hpokes
  have hfound₁ : ∀ poke ∈ pokes', (s₁.loans poke.2).isSome := by
    intro poke hmem
    rw [hswept.isSome]
    exact hpokes' poke hmem
  obtain ⟨receipts', s₂, hbatch', hswept', hsettled₂⟩ :=
    sweep_swept (hsettled₁.mono hle') (hswept.paused.trans hrunning) htime hfound₁
  have htwice : SweptTwice d tok g clock.timestamp clock'.timestamp (sweptIds pokes)
      (sweptIds pokes') s.state s₁ s₂ := by
    refine { late := fun id loan hloan hopen hg => ⟨hlate id loan hloan hopen hg, fun hgrace => ?_⟩
             later := hlater, covers := hcovers, covers' := hcovers', first := hswept
             second := hswept' }
    have hdeadline := deadline_le h hloan hgrace
    have hnow : s.now ≤ clock.timestamp := hle.1
    omega
  have hall : ∀ pokes : List (Origin × ℕ), (∀ poke ∈ pokes, (s.state.loans poke.2).isSome) →
      sweptIds pokes ⊆ Finset.Icc 1 (LoanLedger.getLoanCount s.state.ledger) := by
    intro pokes hfound id hid
    obtain ⟨poke, hmem, rfl⟩ := List.mem_map.mp (List.mem_toFinset.mp hid)
    obtain ⟨loan, hloan⟩ := Option.isSome_iff_exists.mp (hfound poke hmem)
    exact Finset.mem_Icc.mpr (hsettled.1.ledger.counted _ loan hloan)
  have hlocked := htwice.locked hsettled₂.2
  exact ⟨receipts, s₁, receipts', s₂, hbatch, hbatch', hlocked,
    htwice.balance (hall pokes hpokes) (hall pokes' hpokes'),
    fun origin hsigned hpos => withdraw_all hsettled₂ hsigned hlocked hpos⟩

/-- A guarantor whose beneficiary never pays: with two pokes of its own it gets back what the loan
did not forfeit. -/
theorem exit_without_cooperation_neverRepaid : ∃ history s receipts s₁ receipts' s₂,
    sampleMachine.Run history s ∧
    runBatch (perform sample (fun _ => GuarantorVault.tableToken.client) ⟨300000, 0⟩)
      (sweep [(⟨none, [⟨4⟩], 0⟩, 1)]) s.state = some (receipts, s₁) ∧
    runBatch (perform sample (fun _ => GuarantorVault.tableToken.client) ⟨1509601, 0⟩)
      (sweep [(⟨none, [⟨4⟩], 0⟩, 1)]) s₁ = some (receipts', s₂) ∧
    s₂.world.vault.lockedAmount ⟨4⟩ = 0 ∧
    s₂.world.vault.collateralBalance ⟨4⟩ = s.state.world.vault.collateralBalance ⟨4⟩ -
      ∑ id ∈ Finset.Icc 1 (LoanLedger.getLoanCount s.state.ledger),
        exposure ⟨4⟩ (s.state.loans id) := by
  obtain ⟨history, s, hrun, hclock, hrunning, hcount, hloan⟩ := exists_run_of_playLoan
    (P := fun _ s => s.clock ≤ ⟨300000, 0⟩ ∧ LiquidationEngine.paused s.state.engine = false ∧
      LoanLedger.getLoanCount s.state.ledger = 1 ∧
      (s.state.loans 1).any (fun loan => loan.nextDue < 300000) = true)
    (show (playLoan []).any _ = true by decide +kernel)
  obtain ⟨loan, hfound, hdue⟩ := Option.any_eq_true _ _ |>.mp hloan
  have hdue := of_decide_eq_true hdue
  have hall : ∀ poke ∈ [((⟨none, [⟨4⟩], 0⟩ : Origin), 1)] ++ [((⟨none, [⟨4⟩], 0⟩ : Origin), 1)],
      (s.state.loans poke.2).isSome := by simp [hfound]
  -- there is but one loan
  have honly : ∀ id loan, s.state.loans id = some loan → id = 1 := by
    intro id loan hloan
    have hcounted := (System.Sound.of_reachable hrun.reachable).ledger.counted id loan hloan
    omega
  have hcovers : Covers ⟨4⟩ s.state (sweptIds [((⟨none, [⟨4⟩], 0⟩ : Origin), 1)]) := by
    intro id loan hloan _ _
    rw [honly id loan hloan]
    decide
  have hlate : ∀ id loan, s.state.loans id = some loan → loan.isOpen = true →
      loan.guarantor = ⟨4⟩ → loan.nextDue < (⟨300000, 0⟩ : Clock).timestamp := by
    intro id loan₁ hloan _ _
    obtain rfl := honly id loan₁ hloan
    obtain rfl := Option.some.inj (hfound.symm.trans hloan)
    exact hdue
  obtain ⟨receipts, s₁, receipts', s₂, hfirst, hsecond, hlocked, hbalance, -⟩ :=
    exit_without_cooperation hrun.reachable hrunning hall hcovers hcovers hclock
      (show (⟨300000, 0⟩ : Clock) ≤ ⟨1509601, 0⟩ by decide) hlate (by decide) (by decide)
  exact ⟨history, s, receipts, s₁, receipts', s₂, hrun, hfirst, hsecond, hlocked, hbalance⟩

end RemitCollateral.Protocol
