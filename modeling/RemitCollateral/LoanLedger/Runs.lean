import RemitCollateral.LoanLedger.Calls

/-! # The storage invariant over a run

Every call keeps the storage invariant and moves each loan by at most one step, so the runs of the
ledger move a book of loans. The vault is not part of the state: it may be any vault, and may change
in any way between two calls, as long as it refuses to lock nothing, as GuarantorVault does. -/

namespace RemitCollateral.LoanLedger

open Soroban

variable {X : Type} {vaults : Address → VaultClient X} {env : Env} {config : Config} {now : ℕ}
  {s s' : State} {x x' : X}

/-- A vault that refuses to lock an amount of zero or less. -/
def VaultClient.RefusesEmpty (client : VaultClient X) : Prop :=
  ∀ {env caller guarantor amount x x'},
    client.lockCollateral env caller guarantor amount x = some x' → 0 < amount

/-- The loan an origination opens, once the vault has locked its collateral. -/
theorem Origination.opened {guarantor partner : Address} {beneficiary : BytesN32} {principalUsd : ℤ}
    {installmentCount intervalSecs : ℕ} {loan : Loan}
    (h : Origination env config guarantor beneficiary partner principalUsd installmentCount
      intervalSecs s loan) (hcollateral : 0 < loan.collateralLocked) :
    loan.Opened env.timestamp := by
  obtain rfl := h.opens
  have hpos := h.pos
  have hcount := h.count
  have hinterval := h.interval
  have hscaled := h.scaled
  unfold minInstallments at hcount
  unfold minIntervalSecs at hinterval
  generalize config.ltvFor (getReputation beneficiary s) = ltv at hscaled hcollateral ⊢
  -- something was locked, so the ratio is not zero and bounds the principal by the product
  have hltv : (1 : ℤ) ≤ ltv := by
    by_contra hzero
    have : ltv = 0 := by omega
    simp [Loan.opening, this] at hcollateral
  have hprincipal : principalUsd ≤ principalUsd * ltv := by
    calc principalUsd = principalUsd * 1 := (mul_one _).symm
      _ ≤ principalUsd * ltv := mul_le_mul_of_nonneg_left hltv (le_of_lt hpos)
  have hdiv : principalUsd * ltv / BPS ≤ principalUsd * ltv :=
    Int.ediv_le_self _ (le_trans (le_of_lt hpos) hprincipal)
  exact { wf := { principal_pos := hpos
                  principal_i128 := hscaled.of_nonneg_of_le (le_of_lt hpos) hprincipal
                  collateral := rfl
                  collateral_pos := hcollateral
                  collateral_i128 := hscaled.of_nonneg_of_le (le_of_lt hcollateral) hdiv
                  count_pos := hcount.1
                  count_le := hcount.2
                  installment := rfl
                  interval_pos := lt_of_lt_of_le (by decide) hinterval.1 }
          status := rfl, released := rfl, repaid := rfl, paid := rfl, origin := rfl, due := rfl
          grace := rfl }

namespace State.Sound

/-- Time passing keeps the invariant. -/
theorem mono (h : s.Sound config now) {now' : ℕ} (hle : now ≤ now') : s.Sound config now' :=
  { h with loans := fun id loan hfound => (h.loans id loan hfound).mono hle }

/-- A quiet call keeps the invariant. -/
theorem quiet (h : s.Sound config now) (hq : Quiet s s') : s'.Sound config now where
  accepted := h.accepted
  config_eq := hq.config.trans h.config_eq
  loans := hq.loans ▸ h.loans
  keyed := hq.loans ▸ h.keyed
  counted := by
    rw [getLoanCount, hq.loans, hq.loanCount]
    exact h.counted
  ltv := hq.loans ▸ h.ltv
  markers := by
    rw [hq.loans, hq.openLoans]
    exact h.markers
  scores := (hq.registered ⟨h.roles, h.scores⟩).scores
  roles := (hq.registered ⟨h.roles, h.scores⟩).roles

/-- The loans after a move are those before, but for the one that moved. -/
theorem record_loans (h : s.Sound config now) {id : ℕ} {loan loan' : Loan}
    (hfound : s.loans id = some loan) (hmove : Loan.Step config now loan loan')
    (ttl : Lifetimes Key) :
    (s.record loan' ttl).loans = Function.update s.loans id (some loan') := by
  have hid : loan'.id = id := hmove.sameTerms.id.trans (h.keyed id loan hfound)
  rw [← hid]
  rfl

/-- After a move the markers are still those of the open loans. -/
theorem record_markers (h : s.Sound config now) {id : ℕ} {loan loan' : Loan}
    (hfound : s.loans id = some loan) (hopen : loan.isOpen = true)
    (hmove : Loan.Step config now loan loan') (ttl : Lifetimes Key) (guarantor : Address)
    (beneficiary : BytesN32) (id' : ℕ) :
    (s.record loan' ttl).openLoans (guarantor, beneficiary) = some id' ↔
      ∃ loan₁, (s.record loan' ttl).loans id' = some loan₁ ∧ loan₁.isOpen = true ∧
        loan₁.guarantor = guarantor ∧ loan₁.beneficiary = beneficiary := by
  have hsame := hmove.sameTerms
  rw [h.record_loans hfound hmove ttl]
  have hmark : s.openLoans (loan.guarantor, loan.beneficiary) = some id :=
    (h.markers _ _ _).mpr ⟨loan, hfound, hopen, rfl, rfl⟩
  simp only [State.record, hsame.guarantor, hsame.beneficiary, update_eq_some]
  by_cases hopen' : loan'.isOpen = true
  · -- the loan stays open, and so does its marker
    rw [if_pos hopen', h.markers]
    constructor
    · rintro ⟨loan₁, hloan₁, hopen₁, hg, hb⟩
      by_cases heq : id' = id
      · subst heq
        obtain rfl : loan = loan₁ := Option.some.inj (hfound.symm.trans hloan₁)
        exact ⟨loan', .inl ⟨rfl, rfl⟩, hopen', hsame.guarantor.trans hg,
          hsame.beneficiary.trans hb⟩
      · exact ⟨loan₁, .inr ⟨heq, hloan₁⟩, hopen₁, hg, hb⟩
    · rintro ⟨loan₁, ⟨rfl, rfl⟩ | ⟨-, hloan₁⟩, hopen₁, hg, hb⟩
      · exact ⟨loan, hfound, hopen, hsame.guarantor.symm.trans hg,
          hsame.beneficiary.symm.trans hb⟩
      · exact ⟨loan₁, hloan₁, hopen₁, hg, hb⟩
  · -- the loan closes, and its marker goes
    rw [if_neg hopen', update_none_eq_some, h.markers]
    constructor
    · rintro ⟨hkey, loan₁, hloan₁, hopen₁, rfl, rfl⟩
      -- a marker that is left belongs to another pair, hence to another loan
      refine ⟨loan₁, .inr ⟨?_, hloan₁⟩, hopen₁, rfl, rfl⟩
      rintro rfl
      obtain rfl : loan = loan₁ := Option.some.inj (hfound.symm.trans hloan₁)
      exact hkey rfl
    · rintro ⟨loan₁, ⟨rfl, rfl⟩ | ⟨hne, hloan₁⟩, hopen₁, rfl, rfl⟩
      · exact absurd hopen₁ hopen'
      · -- two open loans of one pair would share the marker
        refine ⟨fun hkey => hne ?_, loan₁, hloan₁, hopen₁, rfl, rfl⟩
        have hmark₁ := (h.markers _ _ _).mpr ⟨loan₁, hloan₁, hopen₁, rfl, rfl⟩
        rw [hkey, hmark] at hmark₁
        exact (Option.some.inj hmark₁).symm

/-- Recording a move of an open loan keeps the invariant. -/
theorem record (h : s.Sound config now) {id : ℕ} {loan loan' : Loan}
    (hfound : s.loans id = some loan) (hopen : loan.isOpen = true)
    (hmove : Loan.Step config now loan loan') (ttl : Lifetimes Key) :
    (s.record loan' ttl).Sound config now := by
  have hsame := hmove.sameTerms
  have hid : loan'.id = id := hsame.id.trans (h.keyed id loan hfound)
  -- every other loan is where it was
  have hcases : ∀ id' loan₁, (s.record loan' ttl).loans id' = some loan₁ →
      (id' = id ∧ loan' = loan₁) ∨ s.loans id' = some loan₁ := by
    intro id' loan₁ hloan₁
    rw [h.record_loans hfound hmove ttl, update_eq_some] at hloan₁
    exact hloan₁.imp_right And.right
  refine { accepted := h.accepted, config_eq := h.config_eq, loans := ?_, keyed := ?_
           counted := ?_, ltv := ?_, markers := h.record_markers hfound hopen hmove ttl
           scores := h.scores, roles := h.roles }
  · intro id' loan₁ hloan₁
    rcases hcases id' loan₁ hloan₁ with ⟨rfl, rfl⟩ | hloan₁
    · exact (h.loans _ _ hfound).step h.accepted hmove
    · exact h.loans _ _ hloan₁
  · intro id' loan₁ hloan₁
    rcases hcases id' loan₁ hloan₁ with ⟨rfl, rfl⟩ | hloan₁
    · exact hid
    · exact h.keyed _ _ hloan₁
  · intro id' loan₁ hloan₁
    rcases hcases id' loan₁ hloan₁ with ⟨rfl, rfl⟩ | hloan₁
    · exact h.counted _ _ hfound
    · exact h.counted _ _ hloan₁
  · intro id' loan₁ hloan₁
    rcases hcases id' loan₁ hloan₁ with ⟨rfl, rfl⟩ | hloan₁
    · exact hsame.ltvBps ▸ h.ltv _ _ hfound
    · exact h.ltv _ _ hloan₁

/-- Recording a new loan keeps the invariant. -/
theorem opened (h : s.Sound config now) {loan : Loan} (hopened : loan.Opened now)
    (hid : loan.id = getLoanCount s + 1) (hltv : config.minLtvBps ≤ loan.ltvBps)
    (hunique : s.openLoans (loan.guarantor, loan.beneficiary) = none) (ttl : Lifetimes Key) :
    (s.open loan ttl).Sound config now := by
  have hfresh : ∀ id loan₁, s.loans id = some loan₁ → id ≠ loan.id := by
    rintro id loan₁ hloan₁ rfl
    have := (h.counted _ _ hloan₁).2
    omega
  have hopen : loan.isOpen = true := Loan.isOpen_iff.mpr (.inl hopened.status)
  refine { accepted := h.accepted, config_eq := h.config_eq, loans := ?_, keyed := ?_
           counted := ?_, ltv := ?_, markers := ?_, scores := h.scores, roles := h.roles }
  · intro id loan₁ hloan₁
    rcases update_eq_some.mp hloan₁ with ⟨rfl, rfl⟩ | ⟨-, hloan₁⟩
    · exact hopened.sound
    · exact h.loans _ _ hloan₁
  · intro id loan₁ hloan₁
    rcases update_eq_some.mp hloan₁ with ⟨rfl, rfl⟩ | ⟨-, hloan₁⟩
    · rfl
    · exact h.keyed _ _ hloan₁
  · intro id loan₁ hloan₁
    have hcount : getLoanCount (s.open loan ttl) = getLoanCount s + 1 := hid
    rcases update_eq_some.mp hloan₁ with ⟨rfl, rfl⟩ | ⟨-, hloan₁⟩
    · omega
    · have := h.counted _ _ hloan₁
      omega
  · intro id loan₁ hloan₁
    rcases update_eq_some.mp hloan₁ with ⟨rfl, rfl⟩ | ⟨-, hloan₁⟩
    · exact hltv
    · exact h.ltv _ _ hloan₁
  · intro guarantor beneficiary id
    simp only [State.open, update_eq_some, h.markers]
    constructor
    · rintro (⟨hkey, rfl⟩ | ⟨hkey, loan₁, hloan₁, hrest⟩)
      · obtain ⟨rfl, rfl⟩ := Prod.mk.inj hkey
        exact ⟨loan, .inl ⟨rfl, rfl⟩, hopen, rfl, rfl⟩
      · exact ⟨loan₁, .inr ⟨hfresh _ _ hloan₁, hloan₁⟩, hrest⟩
    · rintro ⟨loan₁, ⟨rfl, rfl⟩ | ⟨hne, hloan₁⟩, hopen₁, rfl, rfl⟩
      · exact .inl ⟨rfl, rfl⟩
      · -- the pair had no marker, so none of its loans was open
        refine .inr ⟨fun hkey => ?_, loan₁, hloan₁, hopen₁, rfl, rfl⟩
        have hmark₁ := (h.markers _ _ _).mpr ⟨loan₁, hloan₁, hopen₁, rfl, rfl⟩
        rw [hkey, hunique] at hmark₁
        cases hmark₁

/-- Every call keeps the invariant. -/
theorem effect (h : s.Sound config env.timestamp) (hvaults : ∀ a, (vaults a).RefusesEmpty)
    {call : Call} (heffect : Effect vaults env config s x s' x' call) :
    s'.Sound config env.timestamp := by
  cases call with
  | originate guarantor beneficiary partner principalUsd installmentCount intervalSecs =>
      obtain ⟨loan, hchecks, ⟨vault, -, hlock⟩, ttl, rfl⟩ := heffect
      have hopened := hchecks.opened (hvaults vault hlock)
      have hopens := hchecks.opens
      -- with a published score of at most one the ratio keeps its floor
      have hscore : getReputation beneficiary s ≤ 10000 := by
        have := h.scores beneficiary
        unfold BPS at this
        omega
      refine h.opened hopened (hopens ▸ rfl) ?_ ?_ ttl
      · rw [hopens]
        exact h.accepted.minLtv_le_ltvFor hscore
      · rw [hopens]
        exact hchecks.unique
  | attestRepayment partner verifier loanId amountUsd =>
      obtain ⟨loan, hchecks, -, ttl, rfl⟩ := heffect
      exact h.record hchecks.found hchecks.isOpen
        (.repay amountUsd hchecks.isOpen hchecks.pos hchecks.le) ttl
  | markGrace caller loanId =>
      obtain ⟨-, -, -, loan, hfound, hstatus, hlate, ttl, rfl⟩ := heffect
      exact h.record hfound (Loan.isOpen_iff.mpr (.inl hstatus)) (.flag hstatus hlate) ttl
  | markDefaulted caller loanId =>
      obtain ⟨-, -, -, loan, hfound, hstatus, hexpired, ttl, rfl⟩ := heffect
      exact h.record hfound (Loan.isOpen_iff.mpr (.inr hstatus)) (.default hstatus hexpired) ttl
  | reassignPartner admin loanId partner =>
      obtain ⟨-, -, -, -, loan, hfound, hopen, ttl, rfl⟩ := heffect
      exact h.record hfound hopen (.reassign partner hopen) ttl
  | _ => exact h.quiet heffect.2

/-- A fresh ledger meets the invariant. -/
theorem construct (now : ℕ) {admin vault : Address} {timelockSecs : ℕ}
    (hok : LoanLedger.construct env admin vault config timelockSecs = .ok s) :
    s.Sound config now ∧ s.loans = (fun _ => none) ∧ s.vault = some vault ∧
      s.liquidationEngine = none := by
  simp only [LoanLedger.construct, bind_eq_ok, require_eq_ok, exists_const, pure_eq_ok, not_or,
    not_lt, not_le] at hok
  obtain ⟨⟨hltv, hbuffer, hgrace⟩, rfl⟩ := hok
  refine ⟨?_, rfl, rfl, rfl⟩
  exact { accepted := ⟨hltv, hbuffer, Nat.pos_of_ne_zero hgrace⟩
          config_eq := rfl
          loans := by rintro _ _ ⟨⟩
          keyed := by rintro _ _ ⟨⟩
          counted := by rintro _ _ ⟨⟩
          ltv := by rintro _ _ ⟨⟩
          markers := fun _ _ _ => ⟨by rintro ⟨⟩, by rintro ⟨_, ⟨⟩, _⟩⟩
          scores := fun _ => (by decide : ((0 : ℕ) : ℤ) ≤ BPS)
          roles := by rintro _ ⟨⟨⟩, _⟩ }

/-- Renewing entries keeps the invariant. -/
theorem withTtl (h : s.Sound config now) (ttl : Lifetimes Key) : (s.withTtl ttl).Sound config now :=
  h.quiet (withTtl_quiet s ttl)

end State.Sound

/-- **Previews.** What the engine reads before it settles a loan is one loan past its grace period,
and reading it only renews entries. -/
theorem previews_cases (h : s.Sound config env.timestamp) {loanId : ℕ} {guarantor : Address}
    {outstanding remaining : ℤ} {s₁ s₂ s₃ s₄ : State}
    (hexpired : isGraceExpired env loanId s = .ok (true, s₁))
    (hguarantor : loanGuarantor env loanId s₁ = .ok (guarantor, s₂))
    (houtstanding : loanOutstanding env loanId s₂ = .ok (outstanding, s₃))
    (hremaining : loanCollateralRemaining env loanId s₃ = .ok (remaining, s₄)) :
    ∃ loan, s.loans loanId = some loan ∧ loan.status = .grace ∧
      loan.graceExpiresAt < env.timestamp ∧ guarantor = loan.guarantor ∧
      outstanding = loan.outstanding ∧ remaining = loan.remaining ∧
      ∃ ttl, s₄ = s.withTtl ttl := by
  -- four reads of one entry, each through lifetimes the one before has renewed
  obtain ⟨loan, hfound, hdue, rfl⟩ := isGraceExpired_eq_ok.mp hexpired
  obtain ⟨loan₂, hfound₂, rfl, rfl⟩ := loanGuarantor_eq_ok.mp hguarantor
  rw [withTtl_withTtl] at houtstanding
  obtain ⟨loan₃, hfound₃, rfl, rfl⟩ := (loanOutstanding_eq_ok (h.withTtl _)).mp houtstanding
  rw [withTtl_withTtl] at hremaining
  obtain ⟨loan₄, hfound₄, rfl, rfl⟩ := (loanCollateralRemaining_eq_ok (h.withTtl _)).mp hremaining
  rw [withTtl_loans, hfound, Option.some.injEq] at hfound₂ hfound₃ hfound₄
  obtain ⟨hstatus, hlate⟩ := of_decide_eq_true hdue
  exact ⟨loan, hfound, hstatus, hlate, by rw [hfound₂], by rw [hfound₃], by rw [hfound₄], _, rfl⟩

/-- The engine can read a loan past its grace period. -/
theorem previews_succeed (h : s.Sound config env.timestamp) {loanId : ℕ} {loan : Loan}
    (hfound : s.loans loanId = some loan) (hstatus : loan.status = .grace)
    (hexpired : loan.graceExpiresAt < env.timestamp) :
    ∃ t₁ t₂ t₃ t₄, isGraceExpired env loanId s = .ok (true, s.withTtl t₁) ∧
      loanGuarantor env loanId (s.withTtl t₁) = .ok (loan.guarantor, s.withTtl t₂) ∧
      loanOutstanding env loanId (s.withTtl t₂) = .ok (loan.outstanding, s.withTtl t₃) ∧
      loanCollateralRemaining env loanId (s.withTtl t₃) = .ok (loan.remaining, s.withTtl t₄) := by
  have hdue : decide (loan.status = .grace ∧ loan.graceExpiresAt < env.timestamp) = true :=
    decide_eq_true ⟨hstatus, hexpired⟩
  obtain ⟨t₁, h₁⟩ : ∃ ttl, isGraceExpired env loanId s = .ok (true, s.withTtl ttl) :=
    ⟨_, isGraceExpired_eq_ok.mpr ⟨loan, hfound, hdue, rfl⟩⟩
  obtain ⟨t₂, h₂⟩ : ∃ ttl, loanGuarantor env loanId (s.withTtl t₁) =
      .ok (loan.guarantor, s.withTtl ttl) :=
    ⟨_, loanGuarantor_eq_ok.mpr ⟨loan, hfound, rfl, rfl⟩⟩
  obtain ⟨t₃, h₃⟩ : ∃ ttl, loanOutstanding env loanId (s.withTtl t₂) =
      .ok (loan.outstanding, s.withTtl ttl) :=
    ⟨_, (loanOutstanding_eq_ok (h.withTtl t₂)).mpr ⟨loan, hfound, rfl, rfl⟩⟩
  obtain ⟨t₄, h₄⟩ : ∃ ttl, loanCollateralRemaining env loanId (s.withTtl t₃) =
      .ok (loan.remaining, s.withTtl ttl) :=
    ⟨_, (loanCollateralRemaining_eq_ok (h.withTtl t₃)).mpr ⟨loan, hfound, rfl, rfl⟩⟩
  exact ⟨t₁, t₂, t₃, t₄, h₁, h₂, h₃, h₄⟩

/-! ## Moves of the book -/

/-- A recorded move is a move of one entry. -/
theorem record_entryStep (h : s.Sound config now) {id : ℕ} {loan loan' : Loan}
    (hfound : s.loans id = some loan) (hmove : Loan.Step config now loan loan')
    (ttl : Lifetimes Key) (id' : ℕ) :
    EntryStep config now id' (s.loans id') ((s.record loan' ttl).loans id') := by
  rw [h.record_loans hfound hmove ttl]
  by_cases heq : id' = id
  · subst heq
    rw [Function.update_self, hfound]
    exact .moved hmove
  · rw [Function.update_of_ne heq]
    exact .refl _

/-- A recorded origination is a new entry. -/
theorem open_entryStep (h : s.Sound config now) {loan : Loan} (hopened : loan.Opened now)
    (hid : loan.id = getLoanCount s + 1) (ttl : Lifetimes Key) (id : ℕ) :
    EntryStep config now id (s.loans id) ((s.open loan ttl).loans id) := by
  by_cases heq : id = loan.id
  · rw [h.fresh (heq.trans hid), heq]
    simp only [State.open, Function.update_self]
    exact .opened hopened rfl
  · simp only [State.open, Function.update_of_ne heq]
    exact .refl _

/-- Every call moves each loan by at most one step. -/
theorem Effect.entryStep (h : s.Sound config env.timestamp) (hvaults : ∀ a, (vaults a).RefusesEmpty)
    {call : Call} (heffect : Effect vaults env config s x s' x' call) (id : ℕ) :
    EntryStep config env.timestamp id (s.loans id) (s'.loans id) := by
  cases call with
  | originate guarantor beneficiary partner principalUsd installmentCount intervalSecs =>
      obtain ⟨loan, hchecks, ⟨vault, -, hlock⟩, ttl, rfl⟩ := heffect
      have hopened := hchecks.opened (hvaults vault hlock)
      exact open_entryStep h hopened (hchecks.opens ▸ rfl) ttl id
  | attestRepayment partner verifier loanId amountUsd =>
      obtain ⟨loan, hchecks, -, ttl, rfl⟩ := heffect
      exact record_entryStep h hchecks.found
        (.repay amountUsd hchecks.isOpen hchecks.pos hchecks.le) ttl id
  | markGrace caller loanId =>
      obtain ⟨-, -, -, loan, hfound, hstatus, hlate, ttl, rfl⟩ := heffect
      exact record_entryStep h hfound (.flag hstatus hlate) ttl id
  | markDefaulted caller loanId =>
      obtain ⟨-, -, -, loan, hfound, hstatus, hexpired, ttl, rfl⟩ := heffect
      exact record_entryStep h hfound (.default hstatus hexpired) ttl id
  | reassignPartner admin loanId partner =>
      obtain ⟨-, -, -, -, loan, hfound, hopen, ttl, rfl⟩ := heffect
      exact record_entryStep h hfound (.reassign partner hopen) ttl id
  | _ =>
      rw [heffect.2.loans]
      exact .refl _

/-! ## Runs -/

/-- A call and where it comes from. -/
structure Input where
  origin : Origin
  call : Call

/-- Runs of a ledger contract at `here` deployed with `config`, up to the first upgrade, against any
vault that refuses to lock nothing and in any state the vault may be in. -/
def machine (config : Config) (here : Address) : Machine State Input where
  initial s := ∃ (origin : Origin) (admin vault : Address) (timelockSecs : ℕ),
    construct (origin.env s.clock here) admin vault config timelockSecs = .ok s.state
  act clock s input s' := s.wasm = none ∧
    ∃ (X : Type) (vaults : Address → VaultClient X) (x x' : X), (∀ a, (vaults a).RefusesEmpty) ∧
      exec vaults (input.origin.env clock here) input.call s x = .ok (s', x')

/-- The storage invariant holds in every reachable state. -/
theorem State.Sound.of_reachable {here : Address} {s : Timed State}
    (h : (machine config here).Reachable s) : s.state.Sound config s.now := by
  refine Machine.Reachable.invariant (I := fun s => s.state.Sound config s.now) ?_ ?_ ?_ h
  · rintro s ⟨origin, admin, vault, timelockSecs, hok⟩
    exact (State.Sound.construct s.now hok).1
  · exact fun c c' s hle h => h.mono hle.1
  · rintro c s input s' ⟨-, X, vaults, x, x', hvaults, hok⟩ h
    have hstorage : s.Sound config (input.origin.env c here).timestamp := h
    exact hstorage.effect hvaults (exec_effect h hok)

/-- The runs of the ledger move a book of loans. -/
theorem machine_books (config : Config) (here : Address) :
    Books (machine config here) config State.loans where
  accepted := by
    rintro s ⟨origin, admin, vault, timelockSecs, hok⟩
    exact (State.Sound.construct s.now hok).1.accepted
  initial := by
    rintro s ⟨origin, admin, vault, timelockSecs, hok⟩ id
    rw [(State.Sound.construct s.now hok).2.1]
  act := by
    rintro c s input s' hreach ⟨-, X, vaults, x, x', hvaults, hok⟩ id
    have hsound : s.Sound config (input.origin.env c here).timestamp :=
      State.Sound.of_reachable hreach
    exact (exec_effect hsound hok).entryStep hsound hvaults id

/-! ## Playing a run -/

/-- A vault with collateral for everything: it accepts every positive amount. -/
def fundedVault : VaultClient Unit where
  lockCollateral _ _ _ amount x := if 0 < amount then some x else none
  releaseCollateral _ _ _ amount x := if 0 < amount then some x else none

theorem fundedVault_refusesEmpty : fundedVault.RefusesEmpty := by
  intro env caller guarantor amount x x' h
  exact (Option.ite_none_right_eq_some.mp h).1

/-- Make a call against the funded vault. -/
def next (here : Address) (clock : Clock) (s : State) (input : Input) : Option State :=
  if s.wasm = none then
    (outcome (exec (fun _ => fundedVault) (input.origin.env clock here) input.call s ())).map (·.1)
  else none

/-- Deploy a ledger and make calls against the funded vault, each at its own clock. -/
def play (config : Config) (here : Address) (origin : Origin) (admin vault : Address)
    (inputs : List (Clock × Input)) : Option (List (Transition State Input) × Timed State) :=
  match outcome (construct (origin.env ⟨0, 0⟩ here) admin vault config 0) with
  | some s => Machine.replay (next here) inputs ([], ⟨⟨0, 0⟩, s⟩)
  | none => none

/-- What was played is a run. -/
theorem play_run {here : Address} {origin : Origin} {admin vault : Address}
    {inputs : List (Clock × Input)} {run : List (Transition State Input) × Timed State}
    (h : play config here origin admin vault inputs = some run) :
    (machine config here).Run run.1 run.2 := by
  unfold play at h
  split at h
  · rename_i s hs
    have hstart : (machine config here).Run [] ⟨⟨0, 0⟩, s⟩ :=
      .start ⟨origin, admin, vault, 0, outcome_eq_some.mp hs⟩
    refine hstart.replay (fun c s input s' hnext => ?_) h
    unfold next at hnext
    split at hnext
    · rename_i hwasm
      obtain ⟨⟨s₁, x₁⟩, hok, rfl⟩ := Option.map_eq_some_iff.mp hnext
      exact ⟨hwasm, Unit, fun _ => fundedVault, (), x₁, fun _ => fundedVault_refusesEmpty,
        outcome_eq_some.mp hok⟩
    · cases hnext
  · cases h

/-- The configuration the deploy script uses, with its default grace period. -/
def deployConfig : Config where
  baseLtvBps := 15000
  minLtvBps := 11000
  safetyBufferBps := 500
  gracePeriodSecs := 1209600

/-- A ledger with one partner, one verifier and one loan of three daily installments, and the calls
made on it later, each at its own time. Addresses: 1 admin, 2 vault, 3 engine, 4 guarantor,
5 partner, 6 verifier. -/
def playLoan (principalUsd : ℤ) (later : List (ℕ × Call)) :
    Option (List (Transition State Input) × Timed State) :=
  let origin : Origin :=
    { invoker := none, signers := [⟨1⟩, ⟨3⟩, ⟨4⟩, ⟨5⟩, ⟨6⟩], minPersistentTtl := 0 }
  let opening : List (ℕ × Call) :=
    [(0, .setLiquidationEngine ⟨1⟩ ⟨3⟩), (0, .setPartner ⟨1⟩ ⟨5⟩ true),
      (0, .setVerifier ⟨1⟩ ⟨6⟩ true), (0, .originate ⟨4⟩ 7 ⟨5⟩ principalUsd 3 86400)]
  play deployConfig ⟨0⟩ origin ⟨1⟩ ⟨2⟩
    ((opening ++ later).map fun call => (⟨call.1, 0⟩, ⟨origin, call.2⟩))

/-- What is checked of a played run and of its loan holds of a run and of its loan. -/
theorem exists_run_of_playLoan {P : List (Transition State Input) → Timed State → Loan → Prop}
    [∀ history s loan, Decidable (P history s loan)] {principalUsd : ℤ} {later : List (ℕ × Call)}
    (h : (playLoan principalUsd later).any (fun run =>
      (run.2.state.loans 1).any fun loan => P run.1 run.2 loan) = true) :
    ∃ history s loan, (machine deployConfig ⟨0⟩).Run history s ∧ s.state.loans 1 = some loan ∧
      P history s loan := by
  obtain ⟨run, hrun, hchecked⟩ := Option.any_eq_true _ _ |>.mp h
  obtain ⟨loan, hloan, hholds⟩ := Option.any_eq_true _ _ |>.mp hchecked
  exact ⟨run.1, run.2, loan, play_run hrun, hloan, of_decide_eq_true hholds⟩

end RemitCollateral.LoanLedger
