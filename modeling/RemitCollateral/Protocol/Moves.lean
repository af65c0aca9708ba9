import RemitCollateral.GuarantorVault.Postings
import RemitCollateral.Protocol.Model

/-! # What a call does to the system

Whatever entry point of whichever contract is called, the system makes one of eight moves, each
under its own conditions: money comes in or goes out of one record, a loan is opened, serviced by
another partner, repaid, flagged or settled, or nothing happens to money and loans. The two sides of
a move, the vault's postings and the ledger's record, are stated together. -/

namespace RemitCollateral.Protocol

open Soroban

variable {T : Type} (d : Deployment)

/-! ## The invariant of a run -/

/-- The contracts call each other at the deployed addresses. -/
structure System.Wired (s : System T) : Prop where
  engineVault : s.engine.vault = some d.vault
  engineLedger : s.engine.loanLedger = some d.ledger
  ledgerVault : s.ledger.vault = some d.vault
  ledgerEngine : s.ledger.liquidationEngine = some d.engine
  vaultLedger : s.world.vault.loanLedger = some d.ledger
  vaultEngine : s.world.vault.liquidationEngine = some d.engine

/-- Each contract's own invariant holds, and the three are wired together. -/
structure System.Sound (tokens : Address → GuarantorVault.TokenClient T)
    (tok : GuarantorVault.StandardToken T) (now : ℕ) (s : System T) : Prop where
  wired : s.Wired d
  solvent : GuarantorVault.Solvent tokens tok d.vault s.world
  ledger : s.ledger.Sound d.config now

/-! ## Moves -/

open GuarantorVault (Posting Posts)

/-- What is published when `amount` is returned to a guarantor: nothing for an amount of zero. -/
def returned (guarantor : Address) (amount : ℤ) : List Posting :=
  if 0 < amount then [⟨.release, guarantor, amount⟩] else []

/-- What is published when `amount` is seized from a guarantor: nothing for an amount of zero. -/
def seized (guarantor : Address) (amount : ℤ) : List Posting :=
  if 0 < amount then [⟨.forfeit, guarantor, amount⟩] else []

/-- What a liquidation takes: the principal owed, up to what is still locked. -/
def forfeitable (loan : LoanLedger.Loan) : ℤ := min loan.outstanding loan.remaining

/-- What a liquidation publishes, latest first. -/
def settlement (loan : LoanLedger.Loan) : List Posting :=
  returned loan.guarantor (loan.remaining - forfeitable loan) ++
    seized loan.guarantor (forfeitable loan)

/-- The payments a call makes in its caller's name, in or out of a record. -/
def Call.payments : Call → List Posting
  | .vault (.deposit guarantor amount) => [⟨.deposit, guarantor, amount⟩]
  | .vault (.withdraw guarantor amount) => [⟨.withdraw, guarantor, amount⟩]
  | _ => []

/-- The moves of the system under a call from `origin` at `clock`. -/
inductive Moves (origin : Origin) (clock : Clock) (s s' : System T) : Call → Prop
  /-- Neither money nor loans change. -/
  | quiet {call : Call} (ledger : LoanLedger.Quiet s.ledger s'.ledger)
      (vault : Posts [] s.world.vault s'.world.vault) (token : s'.world.token = s.world.token)
      (unpaid : call.payments = []) : Moves origin clock s s' call
  /-- A guarantor pays in. -/
  | deposit {g : Address} {amount : ℤ} (signed : (origin.env clock d.vault).authorized g)
      (pos : 0 < amount) (ledger : s'.ledger = s.ledger)
      (vault : Posts [⟨.deposit, g, amount⟩] s.world.vault s'.world.vault) :
      Moves origin clock s s' (.vault (.deposit g amount))
  /-- A guarantor takes out what is not locked. -/
  | withdraw {g : Address} {amount : ℤ} (signed : (origin.env clock d.vault).authorized g)
      (pos : 0 < amount) (ledger : s'.ledger = s.ledger)
      (vault : Posts [⟨.withdraw, g, amount⟩] s.world.vault s'.world.vault) :
      Moves origin clock s s' (.vault (.withdraw g amount))
  /-- A loan is opened against collateral of its guarantor. -/
  | originate {guarantor partner : Address} {beneficiary : BytesN32} {principalUsd : ℤ}
      {installmentCount intervalSecs : ℕ} {loan : LoanLedger.Loan}
      (checks : LoanLedger.Origination (origin.env clock d.ledger) d.config guarantor beneficiary
        partner principalUsd installmentCount intervalSecs s.ledger loan)
      (pos : 0 < loan.collateralLocked) (ledger : ∃ ttl, s.ledger.open loan ttl = s'.ledger)
      (vault : Posts [⟨.lock, loan.guarantor, loan.collateralLocked⟩] s.world.vault
        s'.world.vault) :
      Moves origin clock s s' (.ledger (.originate guarantor beneficiary partner principalUsd
        installmentCount intervalSecs))
  /-- The admin moves a loan to another registered partner. -/
  | reassign {admin partner : Address} {loanId : ℕ} {loan : LoanLedger.Loan}
      (signed : (origin.env clock d.ledger).authorized admin)
      (found : s.ledger.loans loanId = some loan) (isOpen : loan.isOpen = true)
      (ledger : ∃ ttl, s.ledger.record { loan with partner } ttl = s'.ledger)
      (vault : Posts [] s.world.vault s'.world.vault) (token : s'.world.token = s.world.token) :
      Moves origin clock s s' (.ledger (.reassignPartner admin loanId partner))
  /-- Principal is repaid, and the collateral it earns back is returned. -/
  | attest {partner verifier : Address} {loanId : ℕ} {amountUsd : ℤ} {loan : LoanLedger.Loan}
      (checks : LoanLedger.Attestation (origin.env clock d.ledger) partner verifier loanId amountUsd
        s.ledger loan)
      (ledger : ∃ ttl, s.ledger.record (loan.repay d.config clock.timestamp amountUsd) ttl =
        s'.ledger)
      (vault : Posts (returned loan.guarantor
        (loan.earned d.config (loan.totalRepaidUsd + amountUsd) - loan.collateralReleased))
        s.world.vault s'.world.vault) :
      Moves origin clock s s' (.ledger (.attestRepayment partner verifier loanId amountUsd))
  /-- An overdue loan enters its grace period. -/
  | flag {call : Call} {loanId : ℕ} {loan : LoanLedger.Loan}
      (crank : call = .engine (.flagOverdue loanId) ∨ call = .engine (.poke loanId))
      (running : LiquidationEngine.paused s.engine = false)
      (found : s.ledger.loans loanId = some loan) (status : loan.status = .active)
      (late : loan.nextDue < clock.timestamp)
      (ledger : ∃ ttl, s.ledger.record (loan.flag d.config clock.timestamp) ttl = s'.ledger)
      (vault : Posts [] s.world.vault s'.world.vault) : Moves origin clock s s' call
  /-- A loan past its grace period is settled out of its collateral. -/
  | settle {call : Call} {loanId : ℕ} {loan : LoanLedger.Loan}
      (crank : call = .engine (.liquidate loanId) ∨ call = .engine (.poke loanId))
      (running : LiquidationEngine.paused s.engine = false)
      (found : s.ledger.loans loanId = some loan) (status : loan.status = .grace)
      (expired : loan.graceExpiresAt < clock.timestamp)
      (ledger : ∃ ttl, s.ledger.record loan.default ttl = s'.ledger)
      (vault : Posts (settlement loan) s.world.vault s'.world.vault) : Moves origin clock s s' call

/-! ## Calls inside a call -/

variable {d} {tokens : Address → GuarantorVault.TokenClient T}
  {tok : GuarantorVault.StandardToken T} {origin : Origin} {clock : Clock} {s s' : System T}

/-- A vault refuses to lock nothing, whatever state it is in. -/
theorem ledgerVaults_refusesEmpty (address : Address) :
    (ledgerVaults d tokens address).RefusesEmpty := by
  intro env caller guarantor amount w w' h
  unfold ledgerVaults at h
  split at h
  · obtain ⟨s', hok, -⟩ := GuarantorVault.onVault_eq_ok.mp (outcome_eq_some.mp h)
    simp only [GuarantorVault.lockCollateral, bind_eq_ok, require_eq_ok, exists_const] at hok
    obtain ⟨-, -, -, -, -, -, hpos, -⟩ := hok
    exact hpos
  · cases h

namespace System.Wired

variable {address : Address}

/-! Whatever address a contract calls, it is the one that was deployed. -/

theorem eq_ledgerVault (h : s.Wired d) (haddress : s.ledger.vault = some address) :
    d.vault = address := Option.some.inj (h.ledgerVault.symm.trans haddress)

theorem eq_engineVault (h : s.Wired d) (haddress : s.engine.vault = some address) :
    d.vault = address := Option.some.inj (h.engineVault.symm.trans haddress)

theorem eq_engineLedger (h : s.Wired d) (haddress : s.engine.loanLedger = some address) :
    d.ledger = address := Option.some.inj (h.engineLedger.symm.trans haddress)

variable {env : Env} {caller guarantor : Address} {amount : ℤ} {w w' : GuarantorVault.World T}

/-- The vault call of an origination is a call of the deployed vault. -/
theorem lockCall (h : s.Wired d) (haddress : s.ledger.vault = some address)
    (hlock : (ledgerVaults d tokens address).lockCollateral (env.call address) caller guarantor
      amount w = some w') :
    GuarantorVault.exec tokens (env.call d.vault) (.lockCollateral caller guarantor amount) w =
      .ok w' := by
  obtain rfl := h.eq_ledgerVault haddress
  rw [ledgerVaults_vault] at hlock
  exact outcome_eq_some.mp hlock

/-- The vault call of a repayment, if it makes one, is a call of the deployed vault. -/
theorem releaseCall (h : s.Wired d)
    (hreleases : LoanLedger.Releases (ledgerVaults d tokens) env s.ledger guarantor amount w w') :
    (0 < amount ∧ GuarantorVault.exec tokens (env.call d.vault)
      (.releaseCollateral env.currentContract guarantor amount) w = .ok w') ∨
    (¬ 0 < amount ∧ w = w') := by
  unfold LoanLedger.Releases at hreleases
  split at hreleases
  · rename_i hpos
    obtain ⟨address, haddress, hcall⟩ := hreleases
    obtain rfl := h.eq_ledgerVault haddress
    rw [ledgerVaults_vault] at hcall
    exact .inl ⟨hpos, outcome_eq_some.mp hcall⟩
  · rename_i hpos
    exact .inr ⟨hpos, hreleases⟩

end System.Wired

namespace System.Sound

variable {now : ℕ}

/-- Renewing entries of the ledger keeps the invariant. -/
theorem withTtl (h : s.Sound d tokens tok now) (ttl : Lifetimes LoanLedger.Key) :
    ({ s with ledger := s.ledger.withTtl ttl } : System T).Sound d tokens tok now where
  wired := { h.wired with ledgerVault := h.wired.ledgerVault, ledgerEngine := h.wired.ledgerEngine }
  solvent := h.solvent
  ledger := h.ledger.quiet (LoanLedger.withTtl_quiet s.ledger ttl)

/-- A call of the vault publishes its postings and keeps the invariant. -/
theorem vault (h : s.Sound d tokens tok now) {env : Env} (hself : env.currentContract = d.vault)
    {call : GuarantorVault.Call} {w' : GuarantorVault.World T}
    (hok : GuarantorVault.exec tokens env call s.world = .ok w') :
    Posts call.postings s.world.vault w'.vault ∧
      ({ s with world := w' } : System T).Sound d tokens tok now := by
  have heffect := GuarantorVault.exec_effect h.solvent.sound h.solvent.uses hok
  exact ⟨heffect.posts,
    { wired := { h.wired with
        vaultLedger := heffect.loanLedger h.wired.vaultLedger
        vaultEngine := heffect.liquidationEngine h.wired.vaultEngine }
      solvent := h.solvent.step hself heffect
      ledger := h.ledger }⟩

/-- A call of the ledger, apart from what the vault does in it, keeps the invariant. -/
theorem ledgerCall (h : s.Sound d tokens tok clock.timestamp) {env : Env}
    (hnow : env.timestamp = clock.timestamp) {call : LoanLedger.Call} {l' : LoanLedger.State}
    {x x' : GuarantorVault.World T}
    (heffect : LoanLedger.Effect (ledgerVaults d tokens) env d.config s.ledger x l' x' call) :
    ({ s with ledger := l' } : System T).Sound d tokens tok clock.timestamp where
  wired := { h.wired with
    ledgerVault := heffect.vault.trans h.wired.ledgerVault
    ledgerEngine := heffect.liquidationEngine h.wired.ledgerEngine }
  solvent := h.solvent
  ledger := by
    have hledger := h.ledger
    rw [← hnow] at hledger ⊢
    exact hledger.effect ledgerVaults_refusesEmpty heffect

/-- The vault call of a repayment. -/
theorem releases (h : s.Sound d tokens tok now) {env : Env} {guarantor : Address} {amount : ℤ}
    {w' : GuarantorVault.World T}
    (hrel : LoanLedger.Releases (ledgerVaults d tokens) env s.ledger guarantor amount s.world w') :
    Posts (returned guarantor amount) s.world.vault w'.vault ∧
      ({ s with world := w' } : System T).Sound d tokens tok now := by
  unfold returned
  rcases h.wired.releaseCall hrel with ⟨hpos, hcall⟩ | ⟨hpos, rfl⟩
  · rw [if_pos hpos]
    exact h.vault rfl hcall
  · rw [if_neg hpos]
    exact ⟨.refl _, h⟩

/-- The vault calls of a settlement. -/
theorem settles (h : s.Sound d tokens tok now) {env : Env} {guarantor : Address}
    {forfeited rest : ℤ} {x' : LoanLedger.State × GuarantorVault.World T}
    (hok : LiquidationEngine.settleCollateral (engineVaults d tokens) env guarantor forfeited rest
      s.engine (s.ledger, s.world) = .ok x') :
    x'.1 = s.ledger ∧
      Posts (returned guarantor rest ++ seized guarantor forfeited) s.world.vault x'.2.vault ∧
      ({ s with world := x'.2 } : System T).Sound d tokens tok now := by
  obtain ⟨addr, haddr, x₁, hforfeit, hrelease⟩ := LiquidationEngine.settleCollateral_eq_ok.mp hok
  obtain rfl := h.wired.eq_engineVault haddr
  rw [engineVaults_vault] at hforfeit hrelease
  -- either call is skipped when its amount is zero, and then publishes nothing
  obtain ⟨hledger₁, hposts₁, hsound₁⟩ : x₁.1 = s.ledger ∧
      Posts (seized guarantor forfeited) s.world.vault x₁.2.vault ∧
      ({ s with world := x₁.2 } : System T).Sound d tokens tok now := by
    unfold seized
    split at hforfeit
    · obtain ⟨w₁, hw₁, rfl⟩ := Option.map_eq_some_iff.mp hforfeit
      rw [if_pos ‹_›]
      exact ⟨rfl, h.vault rfl (outcome_eq_some.mp hw₁)⟩
    · obtain rfl := Option.some.inj hforfeit
      rw [if_neg ‹_›]
      exact ⟨rfl, .refl _, h⟩
  unfold returned
  split at hrelease
  · obtain ⟨w₂, hw₂, rfl⟩ := Option.map_eq_some_iff.mp hrelease
    obtain ⟨hposts₂, hsound₂⟩ := hsound₁.vault rfl (outcome_eq_some.mp hw₂)
    rw [if_pos ‹_›]
    exact ⟨hledger₁, hposts₁.trans hposts₂, hsound₂⟩
  · obtain rfl := Option.some.inj hrelease
    rw [if_neg ‹_›]
    exact ⟨hledger₁, hposts₁, hsound₁⟩

/-- Recording a move of an open loan keeps the invariant. -/
theorem record (h : s.Sound d tokens tok now) {loanId : ℕ} {loan loan' : LoanLedger.Loan}
    (hfound : s.ledger.loans loanId = some loan) (hopen : loan.isOpen = true)
    (hmove : LoanLedger.Loan.Step d.config now loan loan') (ttl : Lifetimes LoanLedger.Key) :
    ({ s with ledger := s.ledger.record loan' ttl } : System T).Sound d tokens tok now where
  wired := { h.wired with ledgerVault := h.wired.ledgerVault, ledgerEngine := h.wired.ledgerEngine }
  solvent := h.solvent
  ledger := h.ledger.record hfound hopen hmove ttl

/-- Changing the engine's own storage, apart from the contracts it calls, keeps the invariant. -/
theorem engine (h : s.Sound d tokens tok now) {e' : LiquidationEngine.State}
    (hwired : LiquidationEngine.Wired s.engine e') :
    ({ s with engine := e' } : System T).Sound d tokens tok now where
  wired := { h.wired with
    engineVault := hwired.vault.trans h.wired.engineVault
    engineLedger := hwired.loanLedger.trans h.wired.engineLedger }
  solvent := h.solvent
  ledger := h.ledger

/-- **Flagging.** The engine sees a loan overdue and marks it. -/
theorem flags (h : s.Sound d tokens tok clock.timestamp) {env : Env}
    (hnow : env.timestamp = clock.timestamp) {caller : Address} {loanId : ℕ} {seen : Bool}
    {x₁ x' : LoanLedger.State × GuarantorVault.World T}
    (hoverdue : engineLedger.isOverdue env loanId (s.ledger, s.world) = some (seen, x₁))
    (hmark : engineLedger.markGrace env caller loanId x₁ = some x') :
    ∃ loan, s.ledger.loans loanId = some loan ∧ loan.status = .active ∧
      loan.nextDue < clock.timestamp ∧ InU64 (clock.timestamp + d.config.gracePeriodSecs) ∧
      (∃ ttl, s.ledger.record (loan.flag d.config clock.timestamp) ttl = x'.1) ∧ x'.2 = s.world ∧
      ({ s with ledger := x'.1 } : System T).Sound d tokens tok clock.timestamp := by
  obtain ⟨l₁, w₁⟩ := x₁
  obtain ⟨hview, rfl⟩ := view_eq_some.mp hoverdue
  obtain ⟨-, -, -, rfl⟩ := LoanLedger.isOverdue_eq_ok.mp hview
  obtain ⟨hop, hworld⟩ : LoanLedger.markGrace env caller loanId _ = .ok x'.1 ∧ s.world = x'.2 :=
    mark_eq_some.mp hmark
  have hledger := h.ledger.withTtl (LoanLedger.loadedTtl env s.ledger loanId)
  rw [← hnow] at hledger
  obtain ⟨-, -, loan, hfound, hstatus, hlate, hdeadline, hrecord⟩ :=
    (LoanLedger.markGrace_eq_ok hledger).mp hop
  rw [hnow] at hlate hdeadline hrecord
  obtain ⟨ttl, hrecord⟩ : ∃ ttl,
    s.ledger.record (loan.flag d.config clock.timestamp) ttl = x'.1 := ⟨_, hrecord⟩
  refine ⟨loan, hfound, hstatus, hlate, hdeadline, ⟨ttl, hrecord⟩, hworld.symm, ?_⟩
  rw [← hrecord]
  exact h.record hfound (LoanLedger.Loan.isOpen_iff.mpr (.inl hstatus)) (.flag hstatus hlate) ttl

/-- **Liquidation, in parts.** The engine sees a loan past its grace period, has the vault settle
it, and has the ledger close it. -/
theorem liquidate_parts (h : s.Sound d tokens tok clock.timestamp) {loanId : ℕ} {r : ℤ}
    {e' : LiquidationEngine.State} {x' : LoanLedger.State × GuarantorVault.World T}
    (hok : LiquidationEngine.liquidate (engineLedgers d) (engineVaults d tokens)
      (origin.env clock d.engine) loanId s.engine (s.ledger, s.world) = .ok (r, e', x')) :
    LiquidationEngine.paused s.engine = false ∧
    e' = LiquidationEngine.extendInstance (origin.env clock d.engine) s.engine ∧
    ∃ loan, s.ledger.loans loanId = some loan ∧ loan.status = .grace ∧
      loan.graceExpiresAt < clock.timestamp ∧ r = forfeitable loan ∧
      (∃ ttl, s.ledger.record loan.default ttl = x'.1) ∧
      ∃ ttl, LiquidationEngine.settleCollateral (engineVaults d tokens)
        (origin.env clock d.engine) loan.guarantor (forfeitable loan)
        (loan.remaining - forfeitable loan) e' (s.ledger.withTtl ttl, s.world) =
          .ok (s.ledger.withTtl ttl, x'.2) := by
  obtain ⟨hrunning, addr, haddr, ⟨l₁, w₁⟩, hexpired, guarantor, ⟨l₂, w₂⟩, hguarantor, outstanding,
    ⟨l₃, w₃⟩, houtstanding, remaining, ⟨l₄, w₄⟩, hremaining, -, ⟨l₅, w₅⟩, hsettle, hmark, rfl,
    rfl⟩ := LiquidationEngine.liquidate_eq_ok.mp hok
  -- the four reads happen in the one ledger that is deployed
  obtain rfl := h.wired.eq_engineLedger haddr
  rw [engineLedgers_ledger] at hexpired hguarantor houtstanding hremaining hmark
  obtain ⟨hview₁, rfl⟩ := view_eq_some.mp hexpired
  obtain ⟨hview₂, rfl⟩ := view_eq_some.mp hguarantor
  obtain ⟨hview₃, rfl⟩ := view_eq_some.mp houtstanding
  obtain ⟨hview₄, rfl⟩ := view_eq_some.mp hremaining
  obtain ⟨loan, hfound, hstatus, hlate, rfl, rfl, rfl, ttl, rfl⟩ :=
    LoanLedger.previews_cases h.ledger hview₁ hview₂ hview₃ hview₄
  -- the vault settles, and the ledger closes the loan it previewed
  obtain ⟨hl₅, -⟩ :=
    ((h.withTtl ttl).engine (LiquidationEngine.extendInstance_wired _ _)).settles hsettle
  obtain rfl : l₅ = s.ledger.withTtl ttl := hl₅
  obtain ⟨hclose, rfl⟩ : LoanLedger.markDefaulted _ _ _ _ = .ok x'.1 ∧ w₅ = x'.2 :=
    mark_eq_some.mp hmark
  obtain ⟨-, -, loan₅, hfound₅, -, -, hrecord⟩ := LoanLedger.markDefaulted_eq_ok.mp hclose
  obtain rfl : loan = loan₅ := Option.some.inj (hfound.symm.trans hfound₅)
  exact ⟨hrunning, rfl, loan, hfound, hstatus, hlate, rfl, ⟨_, hrecord⟩, ttl, hsettle⟩

/-- **Settlement.** A liquidation closes one loan past its grace period and settles it out of its
collateral. -/
theorem liquidates (h : s.Sound d tokens tok clock.timestamp) {loanId : ℕ} {r : ℤ}
    {e' : LiquidationEngine.State} {x' : LoanLedger.State × GuarantorVault.World T}
    (hok : LiquidationEngine.liquidate (engineLedgers d) (engineVaults d tokens)
      (origin.env clock d.engine) loanId s.engine (s.ledger, s.world) = .ok (r, e', x')) :
    LiquidationEngine.paused s.engine = false ∧
    ∃ loan, s.ledger.loans loanId = some loan ∧ loan.status = .grace ∧
      loan.graceExpiresAt < clock.timestamp ∧ r = forfeitable loan ∧
      (∃ ttl, s.ledger.record loan.default ttl = x'.1) ∧
      Posts (settlement loan) s.world.vault x'.2.vault ∧
      (⟨e', x'.1, x'.2⟩ : System T).Sound d tokens tok clock.timestamp := by
  obtain ⟨hrunning, rfl, loan, hfound, hstatus, hlate, rfl, ⟨ttl', hrecord⟩, ttl, hsettle⟩ :=
    h.liquidate_parts hok
  obtain ⟨-, hposts, hsound⟩ :=
    ((h.withTtl ttl).engine (LiquidationEngine.extendInstance_wired _ _)).settles hsettle
  have hdone := hsound.record hfound (LoanLedger.Loan.isOpen_iff.mpr (.inr hstatus))
    (.default hstatus hlate) ttl'
  refine ⟨hrunning, loan, hfound, hstatus, hlate, rfl, ⟨ttl', hrecord⟩, hposts, ?_⟩
  rw [← hrecord]
  exact hdone

end System.Sound

/-! ## Every call is a move -/

/-- No call from outside carries the authorization of one of the contracts. -/
theorem Deployment.External.not_authorized (h : d.External origin) {address here : Address}
    (hmem : address ∈ [d.vault, d.ledger, d.engine]) :
    ¬ (origin.env clock here).authorized address := by
  obtain ⟨hinvoker, hsigners⟩ := h address hmem
  exact fun hauth => hauth.elim hinvoker hsigners

/-- A call of the vault from outside moves one record or nothing: the protocol operations are for
the ledger and the engine. -/
theorem vault_moves (h : s.Sound d tokens tok clock.timestamp) (hexternal : d.External origin)
    {call : GuarantorVault.Call} {w' : GuarantorVault.World T}
    (hok : GuarantorVault.exec tokens (origin.env clock d.vault) call s.world = .ok w') :
    Moves d origin clock s { s with world := w' } (.vault call) := by
  have hledger : LoanLedger.Quiet s.ledger s.ledger :=
    LoanLedger.withTtl_quiet s.ledger s.ledger.ttl
  have heffect := GuarantorVault.exec_effect h.solvent.sound h.solvent.uses hok
  have hposts := heffect.posts
  cases call with
  | deposit g amount => exact .deposit heffect.1 heffect.2.1 rfl hposts
  | withdraw g amount => exact .withdraw heffect.1 heffect.2.1 rfl hposts
  | lockCollateral caller g amount =>
      -- only the ledger may lock, and it has no key to sign with
      obtain ⟨hauth, hcaller, -⟩ := heffect
      obtain rfl : d.ledger = caller := Option.some.inj (h.wired.vaultLedger.symm.trans hcaller)
      exact absurd hauth (hexternal.not_authorized (by simp))
  | releaseCollateral caller g amount =>
      obtain ⟨hauth, hcaller | hcaller, -⟩ := heffect
      · obtain rfl : d.ledger = caller := Option.some.inj (h.wired.vaultLedger.symm.trans hcaller)
        exact absurd hauth (hexternal.not_authorized (by simp))
      · obtain rfl : d.engine = caller := Option.some.inj (h.wired.vaultEngine.symm.trans hcaller)
        exact absurd hauth (hexternal.not_authorized (by simp))
  | forfeitCollateral caller g amount =>
      obtain ⟨hauth, hcaller, -⟩ := heffect
      obtain rfl : d.engine = caller := Option.some.inj (h.wired.vaultEngine.symm.trans hcaller)
      exact absurd hauth (hexternal.not_authorized (by simp))
  | _ => exact .quiet hledger hposts heffect.2 rfl

/-- A call of the ledger from outside opens, reassigns or repays a loan, or changes no loan: the
marks are for the engine. -/
theorem ledger_moves (h : s.Sound d tokens tok clock.timestamp) (hexternal : d.External origin)
    {call : LoanLedger.Call} {l' : LoanLedger.State} {w' : GuarantorVault.World T}
    (hok : LoanLedger.exec (ledgerVaults d tokens) (origin.env clock d.ledger) call s.ledger
      s.world = .ok (l', w')) :
    Moves d origin clock s { s with ledger := l', world := w' } (.ledger call) ∧
      ({ s with ledger := l', world := w' } : System T).Sound d tokens tok clock.timestamp := by
  have hstorage : s.ledger.Sound d.config (origin.env clock d.ledger).timestamp := h.ledger
  have heffect := LoanLedger.exec_effect hstorage hok
  have hledger := h.ledgerCall rfl heffect
  have hnothing : Posts [] s.world.vault s.world.vault := .refl _
  cases call with
  | originate guarantor beneficiary partner principalUsd installmentCount intervalSecs =>
      obtain ⟨loan, hchecks, ⟨vault, hvault, hlock⟩, hopen⟩ := heffect
      have hpos := ledgerVaults_refusesEmpty vault hlock
      obtain ⟨hposts, hsound⟩ := hledger.vault rfl (h.wired.lockCall hvault hlock)
      have hguarantor : loan.guarantor = guarantor := by rw [hchecks.opens]; rfl
      exact ⟨.originate hchecks hpos hopen (hguarantor ▸ hposts), hsound⟩
  | attestRepayment partner verifier loanId amountUsd =>
      obtain ⟨loan, hchecks, hreleases, hrecord⟩ := heffect
      obtain ⟨hposts, -⟩ := h.releases hreleases
      -- the vault is called before the ledger stores the loan; both see the same vault address
      have hvault : l'.vault = s.ledger.vault := hrecord.elim fun _ heq => heq ▸ rfl
      have hreleases' : LoanLedger.Releases (ledgerVaults d tokens) (origin.env clock d.ledger) l'
          loan.guarantor (loan.earned d.config (loan.totalRepaidUsd + amountUsd) -
            loan.collateralReleased) s.world w' := by
        unfold LoanLedger.Releases at hreleases ⊢
        rw [hvault]
        exact hreleases
      exact ⟨.attest hchecks hrecord hposts, (hledger.releases hreleases').2⟩
  | markGrace caller loanId =>
      obtain ⟨-, hauth, hcaller, -⟩ := heffect
      obtain rfl : d.engine = caller := Option.some.inj (h.wired.ledgerEngine.symm.trans hcaller)
      exact absurd hauth (hexternal.not_authorized (by simp))
  | markDefaulted caller loanId =>
      obtain ⟨-, hauth, hcaller, -⟩ := heffect
      obtain rfl : d.engine = caller := Option.some.inj (h.wired.ledgerEngine.symm.trans hcaller)
      exact absurd hauth (hexternal.not_authorized (by simp))
  | reassignPartner admin loanId partner =>
      obtain ⟨rfl, hauth, -, -, loan, hfound, hopen, hrecord⟩ := heffect
      exact ⟨.reassign hauth hfound hopen hrecord hnothing rfl, hledger⟩
  | _ =>
      obtain ⟨rfl, hquiet⟩ := heffect
      exact ⟨.quiet hquiet hnothing rfl rfl, hledger⟩

/-- A poke flags the loan, settles it or does neither. -/
theorem poke_moves (h : s.Sound d tokens tok clock.timestamp) {loanId : ℕ} {done : Bool}
    {e' : LiquidationEngine.State} {l' : LoanLedger.State} {w' : GuarantorVault.World T}
    (hpoke : LiquidationEngine.poke (engineLedgers d) (engineVaults d tokens)
      (origin.env clock d.engine) loanId s.engine (s.ledger, s.world) =
        .ok (done, e', (l', w'))) :
    Moves d origin clock s ⟨e', l', w'⟩ (.engine (.poke loanId)) ∧
      (⟨e', l', w'⟩ : System T).Sound d tokens tok clock.timestamp := by
  have hnothing : Posts [] s.world.vault s.world.vault := .refl _
  have hquiet : LoanLedger.Quiet s.ledger s.ledger :=
    LoanLedger.withTtl_quiet s.ledger s.ledger.ttl
  rcases LiquidationEngine.poke_cases hpoke with
      ⟨-, -, rfl, hx⟩ | ⟨hrunning, addr, haddr, overdue, ⟨l₁, w₁⟩, hoverdue, hcases⟩
  · obtain ⟨rfl, rfl⟩ := Prod.mk.inj hx
    exact ⟨.quiet hquiet hnothing rfl rfl,
      h.engine (LiquidationEngine.extendInstance_wired _ _)⟩
  obtain rfl := h.wired.eq_engineLedger haddr
  rw [engineLedgers_ledger] at hoverdue hcases
  rcases hcases with ⟨-, -, rfl, hmark⟩ | ⟨-, expired, ⟨l₂, w₂⟩, hexpired, hcases⟩
  · obtain ⟨loan, hfound, hstatus, hlate, -, hrecord, rfl, hsound⟩ := h.flags rfl hoverdue hmark
    exact ⟨.flag (.inr rfl) hrunning hfound hstatus hlate hrecord hnothing,
      hsound.engine (LiquidationEngine.extendInstance_wired _ _)⟩
  -- the loan is not overdue: both views have only renewed it
  obtain ⟨hview₁, rfl⟩ := view_eq_some.mp hoverdue
  obtain ⟨-, -, -, rfl⟩ := LoanLedger.isOverdue_eq_ok.mp hview₁
  obtain ⟨hview₂, rfl⟩ := view_eq_some.mp hexpired
  obtain ⟨ttl, rfl⟩ : ∃ ttl, l₂ = s.ledger.withTtl ttl := by
    obtain ⟨-, -, -, rfl⟩ := LoanLedger.isGraceExpired_eq_ok.mp hview₂
    exact ⟨_, rfl⟩
  rcases hcases with ⟨-, -, rfl, hx⟩ | ⟨-, -, r, hliquidate⟩
  · obtain ⟨rfl, rfl⟩ := Prod.mk.inj hx
    exact ⟨.quiet (LoanLedger.withTtl_quiet s.ledger ttl) hnothing rfl rfl,
      (h.withTtl ttl).engine (LiquidationEngine.extendInstance_wired _ _)⟩
  · have hrenewed := (h.withTtl ttl).engine
      (LiquidationEngine.extendInstance_wired (origin.env clock d.engine) s.engine)
    obtain ⟨-, loan, hfound, hstatus, hlate, -, hrecord, hposts, hsound⟩ :=
      hrenewed.liquidates hliquidate
    exact ⟨.settle (.inr rfl) hrunning hfound hstatus hlate hrecord hposts, hsound⟩

/-- A call of the engine from outside flags or settles a loan, or changes neither
money nor loans. -/
theorem engine_moves (h : s.Sound d tokens tok clock.timestamp) {call : LiquidationEngine.Call}
    {e' : LiquidationEngine.State} {l' : LoanLedger.State} {w' : GuarantorVault.World T}
    (hok : LiquidationEngine.exec (engineLedgers d) (engineVaults d tokens)
      (origin.env clock d.engine) call s.engine (s.ledger, s.world) = .ok (e', l', w')) :
    Moves d origin clock s ⟨e', l', w'⟩ (.engine call) ∧
      (⟨e', l', w'⟩ : System T).Sound d tokens tok clock.timestamp := by
  have hnothing : Posts [] s.world.vault s.world.vault := .refl _
  -- every setting of the engine is its own business
  have hsettings : ∀ {operation : LiquidationEngine.State → Result LiquidationEngine.Error
      LiquidationEngine.State}, LiquidationEngine.onEngine operation s.engine (s.ledger, s.world) =
        .ok (e', l', w') → (operation s.engine = .ok e' → LiquidationEngine.Wired s.engine e') →
      Moves d origin clock s ⟨e', l', w'⟩ (.engine call) ∧
        (⟨e', l', w'⟩ : System T).Sound d tokens tok clock.timestamp := by
    intro operation hok hwired
    obtain ⟨hop, hx⟩ := LiquidationEngine.onEngine_eq_ok.mp hok
    obtain ⟨rfl, rfl⟩ := Prod.mk.inj hx
    exact ⟨.quiet (LoanLedger.withTtl_quiet s.ledger s.ledger.ttl) hnothing rfl rfl,
      h.engine (hwired hop)⟩
  cases call with
  | flagOverdue loanId =>
      obtain ⟨hrunning, addr, haddr, ⟨l₁, w₁⟩, hoverdue, hmark, rfl⟩ :=
        LiquidationEngine.flagOverdue_eq_ok.mp hok
      obtain rfl := h.wired.eq_engineLedger haddr
      rw [engineLedgers_ledger] at hoverdue hmark
      obtain ⟨loan, hfound, hstatus, hlate, -, hrecord, rfl, hsound⟩ := h.flags rfl hoverdue hmark
      exact ⟨.flag (.inl rfl) hrunning hfound hstatus hlate hrecord hnothing,
        hsound.engine (LiquidationEngine.extendInstance_wired _ _)⟩
  | liquidate loanId =>
      obtain ⟨⟨r, e₁, x₁⟩, hliquidate, heq⟩ := map_eq_ok.mp hok
      obtain ⟨rfl, rfl⟩ := Prod.mk.inj heq
      obtain ⟨hrunning, loan, hfound, hstatus, hexpired, -, hrecord, hposts, hsound⟩ :=
        h.liquidates hliquidate
      exact ⟨.settle (.inl rfl) hrunning hfound hstatus hexpired hrecord hposts, hsound⟩
  | poke loanId =>
      obtain ⟨⟨done, e₁, x'⟩, hpoke, heq⟩ := map_eq_ok.mp hok
      obtain ⟨rfl, rfl⟩ := Prod.mk.inj heq
      exact poke_moves h hpoke
  | pause admin => exact hsettings hok LiquidationEngine.pause_wired
  | unpause admin => exact hsettings hok LiquidationEngine.unpause_wired
  | scheduleAction admin action => exact hsettings hok LiquidationEngine.scheduleAction_wired
  | executeAction admin => exact hsettings hok LiquidationEngine.executeAction_wired
  | cancelAction admin => exact hsettings hok LiquidationEngine.cancelAction_wired
  | proposeAdmin admin newAdmin => exact hsettings hok LiquidationEngine.proposeAdmin_wired
  | acceptAdmin newAdmin => exact hsettings hok LiquidationEngine.acceptAdmin_wired

/-- **Every call is a move**, and keeps the invariant. -/
theorem exec_moves (h : s.Sound d tokens tok clock.timestamp) (hexternal : d.External origin)
    {call : Call} (hok : exec d tokens origin clock s call = some s') :
    Moves d origin clock s s' call ∧ s'.Sound d tokens tok clock.timestamp := by
  cases call with
  | vault call =>
      obtain ⟨w', hw', rfl⟩ := Option.map_eq_some_iff.mp hok
      have hcall := outcome_eq_some.mp hw'
      exact ⟨vault_moves h hexternal hcall, (h.vault rfl hcall).2⟩
  | ledger call =>
      obtain ⟨⟨l', w'⟩, hresult, rfl⟩ := Option.map_eq_some_iff.mp hok
      exact ledger_moves h hexternal (outcome_eq_some.mp hresult)
  | engine call =>
      obtain ⟨⟨e', l', w'⟩, hresult, rfl⟩ := Option.map_eq_some_iff.mp hok
      exact engine_moves h (outcome_eq_some.mp hresult)

end RemitCollateral.Protocol
