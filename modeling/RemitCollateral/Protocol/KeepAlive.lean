import RemitCollateral.GuarantorVault.Renewal
import RemitCollateral.LiquidationEngine.Renewal
import RemitCollateral.LoanLedger.Renewal
import RemitCollateral.Protocol.Authority
import RemitCollateral.Protocol.Commutation

/-! # Keeping a loan alive

To be repaid or liquidated a loan needs six entries of three contracts. Opening it renews five of
them, and every call renews what it uses and shortens nothing. A poke of a loan that is due for
nothing renews the loan and the instances of the engine and the ledger, and leaves the other three
entries to age: here it is shown when that is enough, and that it is not always. -/

namespace RemitCollateral.Protocol

open Soroban
open LoanLedger (Loan)

variable {T : Type} {d : Deployment} {tokens : Address → GuarantorVault.TokenClient T}
  {tok : GuarantorVault.StandardToken T} {origin : Origin} {clock : Clock} {s s' : System T}

/-! ## No call shortens a life -/

/-- Every promise up to `bound` that one system's entries have, the other's have too. -/
structure System.Keeps (bound : ℕ) (s s' : System T) : Prop where
  engine : Lifetimes.Keeps bound s.engine.ttl s'.engine.ttl
  ledger : Lifetimes.Keeps bound s.ledger.ttl s'.ledger.ttl
  vault : Lifetimes.Keeps bound s.world.vault.ttl s'.world.vault.ttl

theorem System.Keeps.refl {bound : ℕ} (s : System T) : s.Keeps bound s where
  engine := .refl _
  ledger := .refl _
  vault := .refl _

variable (d tokens tok clock) in
/-- What the engine finds after calls that shorten nothing, since `x`. -/
structure Renewing (e : LiquidationEngine.State)
    (x x' : LoanLedger.State × GuarantorVault.World T) : Prop where
  sound : (⟨e, x'.1, x'.2⟩ : System T).Sound d tokens tok clock.timestamp
  ledger : Lifetimes.Keeps (clock.sequence + LoanLedger.threshold) x.1.ttl x'.1.ttl
  vault : Lifetimes.Keeps (clock.sequence + LoanLedger.threshold) x.2.vault.ttl x'.2.vault.ttl

namespace Renewing

variable {e : LiquidationEngine.State} {x x' : LoanLedger.State × GuarantorVault.World T}
  {env : Env}

theorem refl (h : (⟨e, x.1, x.2⟩ : System T).Sound d tokens tok clock.timestamp) :
    Renewing d tokens tok clock e x x where
  sound := h
  ledger := .refl _
  vault := .refl _

/-- A call of the ledger that leaves the world alone. -/
theorem ledgerCall (h : Renewing d tokens tok clock e x x') (hclock : env.clock = clock)
    {call : LoanLedger.Call} {l : LoanLedger.State}
    (hok : LoanLedger.exec (ledgerVaults d tokens) env call x'.1 x'.2 = .ok (l, x'.2)) :
    Renewing d tokens tok clock e x (l, x'.2) := by
  have hnow : env.timestamp = clock.timestamp := congrArg Clock.timestamp hclock
  have hledger : x'.1.Sound d.config env.timestamp := by
    rw [hnow]
    exact h.sound.ledger
  have hkeeps := LoanLedger.exec_keeps hledger hok
  rw [LoanLedger.renewedUntil, hclock] at hkeeps
  exact { sound := h.sound.ledgerCall hnow (LoanLedger.exec_effect hledger hok)
          ledger := h.ledger.trans hkeeps
          vault := h.vault }

/-- A call of the vault. -/
theorem vaultCall (h : Renewing d tokens tok clock e x x') (hclock : env.clock = clock)
    (hself : env.currentContract = d.vault) {call : GuarantorVault.Call}
    {w : GuarantorVault.World T} (hok : GuarantorVault.exec tokens env call x'.2 = .ok w) :
    Renewing d tokens tok clock e x (x'.1, w) := by
  have hkeeps := GuarantorVault.exec_keeps h.sound.solvent.sound h.sound.solvent.uses hok
  rw [hclock] at hkeeps
  exact { sound := (h.sound.vault hself hok).2
          ledger := h.ledger
          vault := h.vault.trans hkeeps }

/-- A view that the engine makes of the ledger. -/
theorem view {α : Type} {operation : LoanLedger.State → Result LoanLedger.Error
      (α × LoanLedger.State)} {value : α} {x'' : LoanLedger.State × GuarantorVault.World T}
    (h : Renewing d tokens tok clock e x x') (hclock : env.clock = clock) (call : LoanLedger.Call)
    (hcall : LoanLedger.exec (ledgerVaults d tokens) env call x'.1 x'.2 =
      LoanLedger.onView operation x'.1 x'.2)
    (hview : Protocol.view operation x' = some (value, x'')) :
    Renewing d tokens tok clock e x x'' := by
  obtain ⟨hok, hworld⟩ := view_eq_some.mp hview
  have hok' := hcall.trans (LoanLedger.onView_eq_ok.mpr ⟨⟨value, hok⟩, rfl⟩)
  have hafter := h.ledgerCall hclock hok'
  rw [hworld] at hafter
  exact hafter

/-- A mark that the engine makes in the ledger. -/
theorem mark {operation : LoanLedger.State → Result LoanLedger.Error LoanLedger.State}
    {x'' : LoanLedger.State × GuarantorVault.World T}
    (h : Renewing d tokens tok clock e x x') (hclock : env.clock = clock) (call : LoanLedger.Call)
    (hcall : LoanLedger.exec (ledgerVaults d tokens) env call x'.1 x'.2 =
      LoanLedger.onLedger operation x'.1 x'.2)
    (hmark : Protocol.mark operation x' = some x'') : Renewing d tokens tok clock e x x'' := by
  obtain ⟨hok, hworld⟩ := mark_eq_some.mp hmark
  have hok' := hcall.trans (LoanLedger.onLedger_eq_ok.mpr ⟨hok, rfl⟩)
  have hafter := h.ledgerCall hclock hok'
  rw [hworld] at hafter
  exact hafter

/-- What the engine does through the ledger. -/
theorem engineLedger_preserves (hclock : env.clock = clock) :
    (engineLedger : LiquidationEngine.LedgerClient
      (LoanLedger.State × GuarantorVault.World T)).Preserves env
        (Renewing d tokens tok clock e x) where
  isOverdue h hview := h.view hclock (.isOverdue _) rfl hview
  isGraceExpired h hview := h.view hclock (.isGraceExpired _) rfl hview
  loanGuarantor h hview := h.view hclock (.loanGuarantor _) rfl hview
  loanOutstanding h hview := h.view hclock (.loanOutstanding _) rfl hview
  loanCollateralRemaining h hview := h.view hclock (.loanCollateralRemaining _) rfl hview
  markGrace h hmark := h.mark hclock (.markGrace _ _) rfl hmark
  markDefaulted h hmark := h.mark hclock (.markDefaulted _ _) rfl hmark

/-- What the engine does through the vault. -/
theorem engineVault_preserves (hclock : env.clock = clock) (hself : env.currentContract = d.vault) :
    (engineVault tokens).Preserves env (Renewing d tokens tok clock e x) where
  releaseCollateral h hrelease := by
    obtain ⟨w, hw, rfl⟩ := Option.map_eq_some_iff.mp hrelease
    exact h.vaultCall hclock hself (outcome_eq_some.mp hw)
  forfeitCollateral h hforfeit := by
    obtain ⟨w, hw, rfl⟩ := Option.map_eq_some_iff.mp hforfeit
    exact h.vaultCall hclock hself (outcome_eq_some.mp hw)

end Renewing

section Keeps

variable {env : Env} {call : Call} {id : ℕ} {loan : Loan}

/-- The ledgers the engine knows keep what the deployed one keeps. -/
theorem engineLedgers_preserves (h : s.Sound d tokens tok clock.timestamp)
    {x : LoanLedger.State × GuarantorVault.World T} (addr : Address)
    (haddr : s.engine.loanLedger = some addr) :
    (engineLedgers d addr).Preserves ((origin.env clock d.engine).call addr)
      (Renewing d tokens tok clock s.engine x) := by
  obtain rfl := h.wired.eq_engineLedger haddr
  rw [engineLedgers_ledger]
  exact Renewing.engineLedger_preserves rfl

/-- The vaults the engine knows keep what the deployed one keeps. -/
theorem engineVaults_preserves (h : s.Sound d tokens tok clock.timestamp)
    {x : LoanLedger.State × GuarantorVault.World T} (addr : Address)
    (haddr : s.engine.vault = some addr) :
    (engineVaults d tokens addr).Preserves ((origin.env clock d.engine).call addr)
      (Renewing d tokens tok clock s.engine x) := by
  obtain rfl := h.wired.eq_engineVault haddr
  rw [engineVaults_vault]
  exact Renewing.engineVault_preserves rfl rfl

/-- The world a call of the ledger leaves was left by the vault. -/
theorem ledger_world_keeps (h : s.Sound d tokens tok clock.timestamp) {call : LoanLedger.Call}
    {l' : LoanLedger.State} {w' : GuarantorVault.World T}
    (hok : LoanLedger.exec (ledgerVaults d tokens) (origin.env clock d.ledger) call s.ledger
      s.world = .ok (l', w')) :
    Lifetimes.Keeps (clock.sequence + LoanLedger.threshold) s.world.vault.ttl w'.vault.ttl := by
  have hstorage : s.ledger.Sound d.config (origin.env clock d.ledger).timestamp := h.ledger
  have heffect := LoanLedger.exec_effect hstorage hok
  cases call with
  | originate guarantor beneficiary partner principalUsd installmentCount intervalSecs =>
      obtain ⟨loan, -, ⟨vault, hvault, hlock⟩, -⟩ := heffect
      exact GuarantorVault.exec_keeps h.solvent.sound h.solvent.uses
        (h.wired.lockCall hvault hlock)
  | attestRepayment partner verifier loanId amountUsd =>
      obtain ⟨loan, -, hreleases, -⟩ := heffect
      rcases h.wired.releaseCall hreleases with ⟨-, hcall⟩ | ⟨-, rfl⟩
      · exact GuarantorVault.exec_keeps h.solvent.sound h.solvent.uses hcall
      · exact .refl _
  | _ =>
      obtain ⟨rfl, -⟩ := heffect
      exact .refl _

/-- **No call shortens a life**, of any entry of the three contracts. -/
theorem exec_keeps (h : s.Sound d tokens tok clock.timestamp)
    (hok : exec d tokens origin clock s call = some s') :
    s.Keeps (clock.sequence + LoanLedger.threshold) s' := by
  cases call with
  | vault call =>
      obtain ⟨w', hw', rfl⟩ := Option.map_eq_some_iff.mp hok
      exact { engine := .refl _
              ledger := .refl _
              vault := GuarantorVault.exec_keeps h.solvent.sound h.solvent.uses
                (outcome_eq_some.mp hw') }
  | ledger call =>
      obtain ⟨⟨l', w'⟩, hresult, rfl⟩ := Option.map_eq_some_iff.mp hok
      have hstorage : s.ledger.Sound d.config (origin.env clock d.ledger).timestamp := h.ledger
      exact { engine := .refl _
              ledger := LoanLedger.exec_keeps hstorage (outcome_eq_some.mp hresult)
              vault := ledger_world_keeps h (outcome_eq_some.mp hresult) }
  | engine call =>
      obtain ⟨⟨e', x'⟩, hresult, rfl⟩ := Option.map_eq_some_iff.mp hok
      have hcall := outcome_eq_some.mp hresult
      have hstart : Renewing d tokens tok clock s.engine (s.ledger, s.world) (s.ledger, s.world) :=
        .refl h
      have hafter := LiquidationEngine.exec_preserves (engineLedgers_preserves h)
        (engineVaults_preserves h) hstart hcall
      exact { engine := LiquidationEngine.exec_keeps hcall
              ledger := hafter.ledger
              vault := hafter.vault }

end Keeps

/-! ## The entries a loan needs -/

/-- What repaying or liquidating loan `id` reads and writes is live in ledger `n`: the loan, its
open-loan marker, its guarantor's record, and the three instances. -/
structure System.LiveIn (n id : ℕ) (loan : Loan) (s : System T) : Prop where
  loanEntry : n ≤ s.ledger.ttl.entryUntil (.loan id)
  marker : n ≤ s.ledger.ttl.entryUntil (.openLoan loan.guarantor loan.beneficiary)
  record : n ≤ s.world.vault.ttl.entryUntil loan.guarantor
  engineInstance : n ≤ s.engine.ttl.instanceUntil
  ledgerInstance : n ≤ s.ledger.ttl.instanceUntil
  vaultInstance : n ≤ s.world.vault.ttl.instanceUntil

namespace System.LiveIn

variable {n m bound id : ℕ} {loan loan' : Loan}

/-- Entries live in a ledger are live in every earlier one. -/
theorem mono (h : s.LiveIn n id loan) (hle : m ≤ n) : s.LiveIn m id loan where
  loanEntry := le_trans hle h.loanEntry
  marker := le_trans hle h.marker
  record := le_trans hle h.record
  engineInstance := le_trans hle h.engineInstance
  ledgerInstance := le_trans hle h.ledgerInstance
  vaultInstance := le_trans hle h.vaultInstance

/-- Calls keep what was promised, under the loan's new record too. -/
theorem keeps (h : s.LiveIn n id loan) (hkeeps : s.Keeps bound s') (hle : n ≤ bound)
    (hterms : Loan.SameTerms loan loan') : s'.LiveIn n id loan' where
  loanEntry := hkeeps.ledger.le_entry hle h.loanEntry
  marker := by
    rw [hterms.guarantor, hterms.beneficiary]
    exact hkeeps.ledger.le_entry hle h.marker
  record := by
    rw [hterms.guarantor]
    exact hkeeps.vault.le_entry hle h.record
  engineInstance := hkeeps.engine.le_instance hle h.engineInstance
  ledgerInstance := hkeeps.ledger.le_instance hle h.ledgerInstance
  vaultInstance := hkeeps.vault.le_instance hle h.vaultInstance

end System.LiveIn

section Renews

variable {call : Call} {id : ℕ} {loan : Loan}

/-- **Opening a loan** renews its entries, all but the engine's instance. -/
theorem opening_liveIn_iff (h : s.Sound d tokens tok clock.timestamp)
    (hexternal : d.External origin) (hok : exec d tokens origin clock s call = some s')
    (hnone : s.loans id = none) (hloan : s'.loans id = some loan) {n : ℕ}
    (hn : n ≤ clock.sequence + LoanLedger.threshold) :
    s'.LiveIn n id loan ↔ n ≤ s.engine.ttl.instanceUntil := by
  have hmoves := (exec_moves h hexternal hok).1
  rcases hmoves.handles h hloan with horiginates | ⟨loan₁, hloan₁, -⟩
  swap
  · rw [hnone] at hloan₁
    cases hloan₁
  obtain ⟨beneficiary, partner, principalUsd, installmentCount, intervalSecs, rfl⟩ :=
    horiginates.call_eq
  obtain ⟨⟨l', w'⟩, hresult, rfl⟩ := Option.map_eq_some_iff.mp hok
  obtain ⟨⟨id₁, l₁, w₁⟩, horiginate, heq⟩ := map_eq_ok.mp (outcome_eq_some.mp hresult)
  obtain ⟨rfl, rfl⟩ := Prod.mk.inj heq
  have hstorage : s.ledger.Sound d.config (origin.env clock d.ledger).timestamp := h.ledger
  obtain ⟨-, hinstance, hentry, hmarker⟩ := LoanLedger.originate_renews horiginate
  obtain ⟨loan₂, hchecks, rfl, ⟨vault, hvault, hlock⟩, hopen⟩ :=
    LoanLedger.originate_cases hstorage horiginate
  -- the loan looked at is the one just opened
  rw [loans_open hopen, update_eq_some] at hloan
  rcases hloan with ⟨rfl, rfl⟩ | ⟨-, hbefore⟩
  swap
  · rw [hnone] at hbefore
    cases hbefore
  have hbeneficiary : loan₂.beneficiary = beneficiary := hchecks.opens ▸ rfl
  obtain ⟨hvaultInstance, hrecord⟩ := GuarantorVault.lockCollateral_renews h.solvent.sound
    h.solvent.uses (h.wired.lockCall hvault hlock)
  refine ⟨fun hlive => hlive.engineInstance, fun hengine => ?_⟩
  exact { loanEntry := le_trans hn hentry
          marker := le_trans hn (hbeneficiary ▸ hmarker)
          record := le_trans hn hrecord
          engineInstance := hengine
          ledgerInstance := le_trans hn hinstance
          vaultInstance := le_trans hn hvaultInstance }

/-- **A poke** of an existing loan renews the loan and the instances of engine and ledger. -/
theorem poke_renews (h : s.Sound d tokens tok clock.timestamp)
    (hrunning : LiquidationEngine.paused s.engine = false)
    (hok : exec d tokens origin clock s (.engine (.poke id)) = some s') :
    clock.sequence + LoanLedger.threshold ≤ s'.engine.ttl.instanceUntil ∧
      clock.sequence + LoanLedger.threshold ≤ s'.ledger.ttl.instanceUntil ∧
      clock.sequence + LoanLedger.threshold ≤ s'.ledger.ttl.entryUntil (.loan id) := by
  obtain ⟨⟨e', x'⟩, hresult, rfl⟩ := Option.map_eq_some_iff.mp hok
  obtain ⟨⟨acted, e₁, x₁⟩, hpoke, heq⟩ := map_eq_ok.mp (outcome_eq_some.mp hresult)
  obtain ⟨rfl, rfl⟩ := Prod.mk.inj heq
  obtain rfl := LiquidationEngine.poke_extendInstance hpoke
  have hengine := LiquidationEngine.extendInstance_renews (origin.env clock d.engine) s.engine
  -- the first view renews the loan and the ledger's instance, and nothing after it shortens a life
  let viewed := s.ledger.withTtl (LoanLedger.loadedTtl (engineCall d origin clock) s.ledger id)
  have hstart : Renewing d tokens tok clock s.engine (viewed, s.world) (viewed, s.world) :=
    .refl (h.withTtl _)
  obtain ⟨addr, overdue, x₂, haddr, hoverdue, hrest⟩ :=
    LiquidationEngine.poke_view_preserves (engineLedgers_preserves h) (engineVaults_preserves h)
      hrunning hpoke
  obtain rfl := h.wired.eq_engineLedger haddr
  rw [engineLedgers_ledger] at hoverdue
  obtain ⟨hview, hworld⟩ := view_eq_some.mp hoverdue
  obtain ⟨loan, -, -, hviewed⟩ := LoanLedger.isOverdue_eq_ok.mp hview
  have hx₂ : x₂ = (viewed, s.world) := Prod.ext hviewed.symm hworld.symm
  subst hx₂
  have hafter := hrest hstart
  obtain ⟨hinstance, hentry⟩ :=
    LoanLedger.loadedTtl_renews (engineCall d origin clock) s.ledger id
  exact ⟨hengine, hafter.ledger.le_instance (le_refl _) hinstance,
    hafter.ledger.le_entry (le_refl _) hentry⟩

/-- A poke that flags a loan renews its marker too, and leaves the vault alone. -/
theorem poke_overdue_renews (h : s.Sound d tokens tok clock.timestamp)
    (hrunning : LiquidationEngine.paused s.engine = false) (hfound : s.loans id = some loan)
    (hoverdue : loan.Overdue clock.timestamp)
    (hok : exec d tokens origin clock s (.engine (.poke id)) = some s') :
    clock.sequence + LoanLedger.threshold ≤
      s'.ledger.ttl.entryUntil (.openLoan loan.guarantor loan.beneficiary) ∧
      s'.world = s.world := by
  rw [exec_poke, poke_of_overdue h hrunning hfound hoverdue, Option.map_map] at hok
  obtain ⟨s₁, hflags, rfl⟩ := Option.map_eq_some_iff.mp hok
  obtain ⟨⟨e', l', w'⟩, hcall, rfl⟩ := Option.map_eq_some_iff.mp hflags
  obtain ⟨-, addr, haddr, x₁, hseen, hmark, -⟩ :=
    LiquidationEngine.flagOverdue_eq_ok.mp (outcome_eq_some.mp hcall)
  obtain rfl := h.wired.eq_engineLedger haddr
  rw [engineLedgers_isOverdue d origin clock s.world hfound] at hseen
  obtain ⟨-, rfl⟩ := Prod.mk.inj (Option.some.inj hseen)
  rw [engineLedgers_ledger] at hmark
  obtain ⟨hmarks, hworld⟩ := mark_eq_some.mp hmark
  have hstorage : (s.ledger.withTtl (LoanLedger.loadedTtl (engineCall d origin clock) s.ledger
      id)).Sound d.config (engineCall d origin clock).timestamp := h.ledger.withTtl _
  obtain ⟨-, -, loan₁, hfound₁, -, -, -, rfl⟩ := (LoanLedger.markGrace_eq_ok hstorage).mp hmarks
  obtain rfl : loan = loan₁ := Option.some.inj (hfound.symm.trans hfound₁)
  -- an open loan has its marker, so storing the loan touches it
  have hopen : loan.isOpen = true := Loan.isOpen_iff.mpr (.inl hoverdue.1)
  have hmarker := (h.ledger.markers loan.guarantor loan.beneficiary id).mpr
    ⟨loan, hfound, hopen, rfl, rfl⟩
  refine ⟨LoanLedger.savedTtl_marker (engineCall d origin clock) _
    (loan.flag d.config clock.timestamp) ?_, hworld.symm⟩
  exact Option.isSome_iff_exists.mpr ⟨id, hmarker⟩

/-- A poke of a loan that is due for nothing leaves its marker and the vault alone. -/
theorem poke_idle_ages (h : s.Sound d tokens tok clock.timestamp)
    (hrunning : LiquidationEngine.paused s.engine = false) (hfound : s.loans id = some loan)
    (hoverdue : ¬ loan.Overdue clock.timestamp) (hexpired : ¬ loan.GraceExpired clock.timestamp)
    (hok : exec d tokens origin clock s (.engine (.poke id)) = some s') :
    (∀ guarantor beneficiary, s'.ledger.ttl.entryUntil (.openLoan guarantor beneficiary) =
      s.ledger.ttl.entryUntil (.openLoan guarantor beneficiary)) ∧ s'.world = s.world := by
  rw [exec_poke, poke_of_idle h hrunning hfound hoverdue hexpired] at hok
  obtain rfl := Option.some.inj hok
  refine ⟨fun guarantor beneficiary => ?_, rfl⟩
  exact Lifetimes.entryUntil_extendEntry_of_ne (by simp) _

/-- **A poke** that does not close the loan keeps it alive as long as what it leaves alone lives. -/
theorem poke_liveIn_iff (h : s.Sound d tokens tok clock.timestamp)
    (hrunning : LiquidationEngine.paused s.engine = false) (hfound : s.loans id = some loan)
    (hexpired : ¬ loan.GraceExpired clock.timestamp) {loan' : Loan}
    (hterms : Loan.SameTerms loan loan')
    (hok : exec d tokens origin clock s (.engine (.poke id)) = some s') {n : ℕ}
    (hn : n ≤ clock.sequence + LoanLedger.threshold) :
    s'.LiveIn n id loan' ↔ n ≤ s.world.vault.ttl.instanceUntil ∧
      n ≤ s.world.vault.ttl.entryUntil loan.guarantor ∧
      (¬ loan.Overdue clock.timestamp →
        n ≤ s.ledger.ttl.entryUntil (.openLoan loan.guarantor loan.beneficiary)) := by
  obtain ⟨hengine, hledger, hentry⟩ := poke_renews h hrunning hok
  obtain ⟨hworld, hmarker⟩ : s'.world = s.world ∧
      (n ≤ s'.ledger.ttl.entryUntil (.openLoan loan.guarantor loan.beneficiary) ↔
        (¬ loan.Overdue clock.timestamp →
          n ≤ s.ledger.ttl.entryUntil (.openLoan loan.guarantor loan.beneficiary))) := by
    by_cases hoverdue : loan.Overdue clock.timestamp
    · obtain ⟨hrenewed, hworld⟩ := poke_overdue_renews h hrunning hfound hoverdue hok
      simp [hworld, hoverdue, le_trans hn hrenewed]
    · obtain ⟨haged, hworld⟩ := poke_idle_ages h hrunning hfound hoverdue hexpired hok
      simp [hworld, hoverdue, haged]
  rw [← hworld, ← hmarker]
  constructor
  · intro hlive
    have hrecord := hlive.record
    have hlast := hlive.marker
    rw [hterms.guarantor] at hrecord hlast
    rw [hterms.beneficiary] at hlast
    exact ⟨hlive.vaultInstance, hrecord, hlast⟩
  · rintro ⟨hvault, hrecord, hlast⟩
    rw [← hterms.guarantor] at hrecord hlast
    rw [← hterms.beneficiary] at hlast
    exact { loanEntry := le_trans hn hentry
            marker := hlast
            record := hrecord
            engineInstance := le_trans hn hengine
            ledgerInstance := le_trans hn hledger
            vaultInstance := hvault }

/-- A poke of a loan past its grace closes it. -/
theorem poke_closes (h : s.Sound d tokens tok clock.timestamp)
    (hrunning : LiquidationEngine.paused s.engine = false) (hfound : s.loans id = some loan)
    (hexpired : loan.GraceExpired clock.timestamp)
    (hok : exec d tokens origin clock s (.engine (.poke id)) = some s') :
    s'.loans id = some loan.default := by
  rw [exec_poke, poke_of_expired h hrunning hfound hexpired, Option.map_map] at hok
  obtain ⟨⟨r, s₁⟩, hliquidates, rfl⟩ := Option.map_eq_some_iff.mp hok
  obtain ⟨⟨r₁, e', l', w'⟩, hcall, heq⟩ := Option.map_eq_some_iff.mp hliquidates
  obtain ⟨rfl, rfl⟩ := Prod.mk.inj heq
  obtain ⟨-, loan₁, hfound₁, -, -, -, hrecord, -⟩ := h.liquidates (outcome_eq_some.mp hcall)
  obtain rfl : loan = loan₁ := Option.some.inj (hfound.symm.trans hfound₁)
  have hloans : System.loans (⟨e', l', w'⟩ : System T) =
      Function.update s.loans id (some loan.default) := loans_record h.ledger hfound hrecord rfl
  exact hloans ▸ Function.update_self _ _ _

end Renews

/-! ## Tending a loan -/

/-- The input is a poke of loan `id`. -/
def pokes (id : ℕ) : Option (Input T) → Bool
  | some (.call _ (.engine (.poke loanId))) => loanId = id
  | _ => false

/-- The transition opens loan `id`. -/
def opens (id : ℕ) (t : Transition (System T) (Input T)) : Bool :=
  (t.pre.state.loans id).isNone && (t.post.state.loans id).isSome

/-- The transition opens or pokes loan `id`. -/
def tends (id : ℕ) (t : Transition (System T) (Input T)) : Bool := opens id t || pokes id t.call

/-- The ledger a transition happened in. -/
def ledgerOf (t : Transition (System T) (Input T)) : ℕ := t.post.clock.sequence

/-- The last ledger that the next poke may come in. -/
def nextPoke (t : Transition (System T) (Input T)) : ℕ := ledgerOf t + (LoanLedger.threshold - 1)

/-- Loan `id` exists and is open. -/
def System.hasOpen (id : ℕ) (s : System T) : Bool := (s.loans id).any Loan.isOpen

/-- Whenever loan `id` was open, it had been opened or poked less than a threshold before. -/
def Tended (id : ℕ) : List (Transition (System T) (Input T)) → Prop
  | [] => True
  | t :: older => (t.post.state.hasOpen id → ∃ t' ∈ t :: older, tends id t' ∧
      ledgerOf t < ledgerOf t' + LoanLedger.threshold) ∧ Tended id older

/-- The engine is not paused at any time of the run. -/
def Running (history : List (Transition (System T) (Input T))) : Prop :=
  ∀ t ∈ history, LiquidationEngine.paused t.pre.state.engine = false ∧
    LiquidationEngine.paused t.post.state.engine = false

/-- The entries of loan `id` that the transition leaves to age outlast the gap to the next poke.
Opening the loan leaves the engine's instance. A poke that does not close the loan leaves the
vault's instance and the guarantor's record, and the marker unless it flags the loan. -/
def OutlastsGap (id : ℕ) (t : Transition (System T) (Input T)) : Prop :=
  (opens id t → nextPoke t ≤ t.pre.state.engine.ttl.instanceUntil) ∧
    ∀ loan ∈ t.pre.state.loans id, pokes id t.call → loan.isOpen → ¬ loan.GraceExpired t.pre.now →
      nextPoke t ≤ t.pre.state.world.vault.ttl.instanceUntil ∧
      nextPoke t ≤ t.pre.state.world.vault.ttl.entryUntil loan.guarantor ∧
      (¬ loan.Overdue t.pre.now → nextPoke t ≤
        t.pre.state.ledger.ttl.entryUntil (.openLoan loan.guarantor loan.beneficiary))

instance decidableTended (id : ℕ) :
    (history : List (Transition (System T) (Input T))) → Decidable (Tended id history)
  | [] => inferInstanceAs (Decidable True)
  | t :: older =>
      have := decidableTended id older
      inferInstanceAs (Decidable ((t.post.state.hasOpen id → ∃ t' ∈ t :: older, tends id t' ∧
        ledgerOf t < ledgerOf t' + LoanLedger.threshold) ∧ Tended id older))

instance (history : List (Transition (System T) (Input T))) : Decidable (Running history) :=
  inferInstanceAs (Decidable (∀ t ∈ history, _ ∧ _))

instance (id : ℕ) (t : Transition (System T) (Input T)) : Decidable (OutlastsGap id t) :=
  inferInstanceAs (Decidable (_ ∧ ∀ _ ∈ _, _))

instance (n id : ℕ) (loan : Loan) (s : System T) : Decidable (s.LiveIn n id loan) :=
  decidable_of_iff
    (n ≤ s.ledger.ttl.entryUntil (.loan id) ∧
      n ≤ s.ledger.ttl.entryUntil (.openLoan loan.guarantor loan.beneficiary) ∧
      n ≤ s.world.vault.ttl.entryUntil loan.guarantor ∧ n ≤ s.engine.ttl.instanceUntil ∧
      n ≤ s.ledger.ttl.instanceUntil ∧ n ≤ s.world.vault.ttl.instanceUntil)
    ⟨fun ⟨h₁, h₂, h₃, h₄, h₅, h₆⟩ => ⟨h₁, h₂, h₃, h₄, h₅, h₆⟩,
      fun ⟨h₁, h₂, h₃, h₄, h₅, h₆⟩ => ⟨h₁, h₂, h₃, h₄, h₅, h₆⟩⟩

section Tending

variable {history : List (Transition (System T) (Input T))} {t : Transition (System T) (Input T)}
  {s s' : Timed (System T)} {input : Option (Input T)} {n id : ℕ} {loan loan' : Loan}

theorem pokes_iff :
    pokes id input = true ↔ ∃ origin, input = some (.call origin (.engine (.poke id))) := by
  unfold pokes
  split
  · simp [eq_comm]
  · rename_i hother
    simp only [Bool.false_eq_true, false_iff, not_exists]
    intro origin heq
    exact hother origin id heq

theorem opens_iff : opens id t = true ↔
    t.pre.state.loans id = none ∧ ∃ loan, t.post.state.loans id = some loan := by
  simp [opens, Option.isSome_iff_exists]

theorem tends_iff : tends id t = true ↔ opens id t = true ∨ pokes id t.call = true := by
  simp [tends]

/-- What an opening leaves to age. -/
theorem outlastsGap_of_opens (hopens : opens id t = true) :
    OutlastsGap id t ↔ nextPoke t ≤ t.pre.state.engine.ttl.instanceUntil := by
  have hnone : t.pre.state.loans id = none := (opens_iff.mp hopens).1
  simp [OutlastsGap, hopens, hnone]

/-- What a poke that does not close the loan leaves to age. -/
theorem outlastsGap_of_pokes (hfound : t.pre.state.loans id = some loan)
    (hpokes : pokes id t.call = true) (hopen : loan.isOpen = true)
    (hexpired : ¬ loan.GraceExpired t.pre.now) :
    OutlastsGap id t ↔ nextPoke t ≤ t.pre.state.world.vault.ttl.instanceUntil ∧
      nextPoke t ≤ t.pre.state.world.vault.ttl.entryUntil loan.guarantor ∧
      (¬ loan.Overdue t.pre.now → nextPoke t ≤
        t.pre.state.ledger.ttl.entryUntil (.openLoan loan.guarantor loan.beneficiary)) := by
  have hopens : opens id t = false := by simp [opens, hfound]
  simp [OutlastsGap, hopens, hfound, hpokes, hopen, hexpired]

theorem nextPoke_le (t : Transition (System T) (Input T)) :
    nextPoke t ≤ ledgerOf t + LoanLedger.threshold := Nat.add_le_add_left (Nat.sub_le _ _) _

/-- The next poke may come as long as less than a threshold has passed. -/
theorem le_nextPoke_iff {n : ℕ} : n ≤ nextPoke t ↔ n < ledgerOf t + LoanLedger.threshold := by
  have hpos := LoanLedger.threshold_pos
  unfold nextPoke
  omega

/-- One step shortens no life. -/
theorem step_keeps (hrun : (machine d tokens tok).Run history s)
    (hstep : (machine d tokens tok).Step s input s') :
    s.state.Keeps (s.clock.sequence + LoanLedger.threshold) s'.state := by
  cases hstep with
  | tick => exact .refl _
  | @call c s s' input acts =>
      cases input with
      | call origin call => exact exec_keeps (System.Sound.of_reachable hrun.reachable) acts.2.1
      | moveTokens token =>
          obtain ⟨-, rfl⟩ := acts
          exact { engine := .refl _, ledger := .refl _, vault := .refl _ }

/-- A poke by a running engine finds its loan. -/
theorem pokes_found (hrun : (machine d tokens tok).Run history s)
    (hstep : (machine d tokens tok).Step s input s')
    (hrunning : LiquidationEngine.paused s.state.engine = false) (hpokes : pokes id input = true) :
    ∃ loan, s.state.loans id = some loan := by
  obtain ⟨origin, rfl⟩ := pokes_iff.mp hpokes
  cases hstep with
  | call acts =>
      have hpoke := acts.2.1
      rw [exec_poke] at hpoke
      obtain ⟨⟨acted, s₁⟩, hpoke, -⟩ := Option.map_eq_some_iff.mp hpoke
      exact poke_found (System.Sound.of_reachable hrun.reachable) hrunning hpoke

/-- A loan once opened or poked exists. -/
theorem exists_of_tends (hrun : (machine d tokens tok).Run history s) (hrunning : Running history)
    (ht : t ∈ history) (htends : tends id t = true) : ∃ loan, s.state.loans id = some loan := by
  induction hrun with
  | start => cases ht
  | @step history s s' input run step ih =>
      have hpersists : (∃ loan, s.state.loans id = some loan) →
          ∃ loan', s'.state.loans id = some loan' := by
        rintro ⟨loan, hloan⟩
        obtain ⟨loan', hloan', -⟩ := (machine_books d tokens tok).persists run step hloan
        exact ⟨loan', hloan'⟩
      rcases List.mem_cons.mp ht with rfl | hearlier
      · rcases tends_iff.mp htends with hopens | hpokes
        · exact (opens_iff.mp hopens).2
        · exact hpersists (pokes_found run step (hrunning _ ht).1 hpokes)
      · exact hpersists (ih (fun t ht => hrunning t (List.mem_cons_of_mem _ ht)) hearlier)

/-- A loan that is open was open before, under the same terms. -/
theorem open_before (hrun : (machine d tokens tok).Run history s)
    (hstep : (machine d tokens tok).Step s input s') (hfound : s.state.loans id = some loan)
    (hloan' : s'.state.loans id = some loan') (hopen' : loan'.isOpen = true) :
    loan.isOpen = true ∧ Loan.SameTerms loan loan' := by
  obtain ⟨loan₁, hloan₁, hmove⟩ := (machine_books d tokens tok).persists hrun hstep hfound
  obtain rfl : loan' = loan₁ := Option.some.inj (hloan'.symm.trans hloan₁)
  refine ⟨?_, hmove.sameTerms⟩
  by_contra hclosed
  obtain rfl := hmove.eq_of_closed (Bool.not_eq_true _ ▸ hclosed)
  exact hclosed hopen'

/-- An opening keeps the loan alive until the next poke if and only if what it leaves does. -/
theorem opens_liveIn_iff (hrun : (machine d tokens tok).Run history s)
    (hstep : (machine d tokens tok).Step s input s') (hopens : opens id ⟨s, input, s'⟩ = true)
    (hloan : s'.state.loans id = some loan) :
    s'.state.LiveIn (nextPoke ⟨s, input, s'⟩) id loan ↔ OutlastsGap id ⟨s, input, s'⟩ := by
  have hnone : s.state.loans id = none := (opens_iff.mp hopens).1
  rw [outlastsGap_of_opens hopens]
  have hnext := nextPoke_le ⟨s, input, s'⟩
  cases hstep with
  | tick =>
      rw [hnone] at hloan
      cases hloan
  | @call c s s' input acts =>
      cases input with
      | call origin call =>
          have hsystem := System.Sound.of_reachable hrun.reachable
          exact opening_liveIn_iff hsystem acts.1 acts.2.1 hnone hloan hnext
      | moveTokens token =>
          obtain ⟨-, rfl⟩ := acts
          rw [System.loans] at hnone hloan
          rw [hnone] at hloan
          cases hloan

/-- A poke that does not close the loan keeps it alive until the next one if and only if what it
leaves does. -/
theorem pokes_liveIn_iff (hrun : (machine d tokens tok).Run history s)
    (hstep : (machine d tokens tok).Step s input s')
    (hrunning : LiquidationEngine.paused s.state.engine = false) (hpokes : pokes id input = true)
    (hfound : s.state.loans id = some loan) (hloan' : s'.state.loans id = some loan')
    (hopen' : loan'.isOpen = true) :
    s'.state.LiveIn (nextPoke ⟨s, input, s'⟩) id loan' ↔ OutlastsGap id ⟨s, input, s'⟩ := by
  have hsystem := System.Sound.of_reachable hrun.reachable
  obtain ⟨hopen, hterms⟩ := open_before hrun hstep hfound hloan' hopen'
  have hnext := nextPoke_le ⟨s, input, s'⟩
  obtain ⟨origin, rfl⟩ := pokes_iff.mp hpokes
  cases hstep with
  | @call c s s' input acts =>
      have hpoke := acts.2.1
      have hexpired : ¬ loan.GraceExpired c.timestamp := by
        intro hexpired
        -- such a poke would have closed the loan
        have hclosed : s'.loans id = some loan.default :=
          poke_closes hsystem hrunning hfound hexpired hpoke
        obtain rfl : loan' = loan.default := Option.some.inj (hloan'.symm.trans hclosed)
        cases hopen'
      have hgap := outlastsGap_of_pokes
        (t := ⟨⟨c, s⟩, some (.call origin (.engine (.poke id))), ⟨c, s'⟩⟩) hfound hpokes hopen
        hexpired
      rw [hgap]
      exact poke_liveIn_iff hsystem hrunning hfound hexpired hterms hpoke hnext

/-- **Gap.** Whatever opens or pokes a loan keeps it alive until the next poke if and only if what
it leaves outlasts the gap. -/
theorem tends_liveIn_iff (hrun : (machine d tokens tok).Run history s)
    (hstep : (machine d tokens tok).Step s input s')
    (hrunning : LiquidationEngine.paused s.state.engine = false)
    (htends : tends id ⟨s, input, s'⟩ = true) (hloan' : s'.state.loans id = some loan')
    (hopen' : loan'.isOpen = true) :
    s'.state.LiveIn (nextPoke ⟨s, input, s'⟩) id loan' ↔ OutlastsGap id ⟨s, input, s'⟩ := by
  rcases tends_iff.mp htends with hopens | hpokes
  · exact opens_liveIn_iff hrun hstep hopens hloan'
  · obtain ⟨loan, hfound⟩ := pokes_found hrun hstep hrunning hpokes
    exact pokes_liveIn_iff hrun hstep hrunning hpokes hfound hloan' hopen'

/-- **Invariant.** What a loan needs lives on, from its opening and from every poke of it, until the
next poke may come. -/
theorem live_since (hrun : (machine d tokens tok).Run history s) (hrunning : Running history)
    (hages : ∀ t ∈ history, OutlastsGap id t) (hloan : s.state.loans id = some loan)
    (hopen : loan.isOpen = true) (ht : t ∈ history) (htends : tends id t = true) :
    s.state.LiveIn (nextPoke t) id loan := by
  induction hrun generalizing loan with
  | start => cases ht
  | @step history s s' input run step ih =>
      rcases List.mem_cons.mp ht with rfl | hearlier
      · have hrunning' := (hrunning _ (List.mem_cons_self ..)).1
        exact (tends_liveIn_iff run step hrunning' htends hloan hopen).mpr
          (hages _ (List.mem_cons_self ..))
      · -- the promise was made before this step, which shortens no life
        have hrunning' : Running history := fun t ht => hrunning t (List.mem_cons_of_mem _ ht)
        obtain ⟨before, hbefore⟩ := exists_of_tends run hrunning' hearlier htends
        obtain ⟨hopen', hterms⟩ := open_before run step hbefore hloan hopen
        have hlive := ih hrunning' (fun t ht => hages t (List.mem_cons_of_mem _ ht)) hbefore hopen'
          hearlier
        have hpast : ledgerOf t ≤ s.clock.sequence := (run.clock_le t hearlier).2
        exact hlive.keeps (step_keeps run step)
          (le_trans (nextPoke_le t) (Nat.add_le_add_right hpast _)) hterms

/-- **The condition is exact.** After an opening or a poke that leaves the loan open, and something
to age that does not outlast the gap, the run may wait for the next poke until the loan is not
live. -/
theorem gap_ages (hrun : (machine d tokens tok).Run (t :: history) s)
    (hrunning : Running (t :: history)) (htended : Tended id (t :: history))
    (htends : tends id t = true) (hages : ¬ OutlastsGap id t) (hloan : s.state.loans id = some loan)
    (hopen : loan.isOpen = true) :
    ∃ s', (machine d tokens tok).Run (⟨s, none, s'⟩ :: t :: history) s' ∧
      s'.state = s.state ∧ Tended id (⟨s, none, s'⟩ :: t :: history) ∧
      ¬ s'.state.LiveIn s'.clock.sequence id loan := by
  obtain ⟨rfl⟩ : t.post = s := by
    cases hrun with
    | step => rfl
  have hwait : t.post.clock ≤ ⟨t.post.clock.timestamp, nextPoke t⟩ :=
    ⟨le_refl _, Nat.le_add_right _ _⟩
  refine ⟨⟨⟨t.post.clock.timestamp, nextPoke t⟩, t.post.state⟩, .step hrun (.tick hwait), rfl,
    ⟨fun _ => ⟨t, by simp, htends, ?_⟩, htended⟩, ?_⟩
  · exact le_nextPoke_iff.mp (le_refl _)
  · cases hrun with
    | step run step =>
        have hrunning' := (hrunning _ (List.mem_cons_self ..)).1
        exact fun hlive =>
          hages ((tends_liveIn_iff run step hrunning' htends hloan hopen).mp hlive)

end Tending

/-- **Keep-alive.** In every run of the wired system in which the engine is never paused, a loan is
never left without a poke for a threshold from its opening on, and what its opening and every poke
leave to age outlasts the gap to the next poke: while the loan is open, no entry that repaying or
liquidating it needs is archived. -/
theorem poke_keeps_alive {history : List (Transition (System T) (Input T))} {s : Timed (System T)}
    {id : ℕ} {loan : Loan} (hrun : (machine d tokens tok).Run history s)
    (hrunning : Running history) (htended : Tended id history)
    (hages : ∀ t ∈ history, OutlastsGap id t) (hloan : s.state.loans id = some loan)
    (hopen : loan.isOpen = true) : s.state.LiveIn s.clock.sequence id loan := by
  cases hrun with
  | start initial =>
      have hnone := (machine_books d tokens tok).initial _ initial id
      rw [hnone] at hloan
      cases hloan
  | step run step =>
      have hhas : s.state.hasOpen id = true := by
        rw [System.hasOpen, hloan]
        exact hopen
      obtain ⟨t, ht, htends, hrecent⟩ := htended.1 hhas
      have hlive := live_since (.step run step) hrunning hages hloan hopen ht htends
      exact hlive.mono (le_nextPoke_iff.mpr hrecent)

/-- Who signs, on a network whose minimum persistent lifetime is 120 days. -/
def lastingOrigin : Origin := { sampleOrigin with minPersistentTtl := LoanLedger.extendTo }

/-- Open a loan of three installments, one every ninety days, in ledger 0, poke it in the given
ledgers, which come five seconds apart, and wait until one more. -/
def playIdle (poked : List ℕ) (waited : ℕ) :
    Option (List (Transition TableSystem TableInput) × Timed TableSystem) := do
  let script : Script :=
    { admin := ⟨1⟩, usdc := ⟨3⟩, settlement := ⟨2⟩, timelockSecs := 0, origin := lastingOrigin
      clock := fun _ => ⟨0, 0⟩ }
  let token : Address → ℕ := fun a => if a = ⟨4⟩ then 1000 else 0
  let opening : List (ℕ × Call) :=
    [(0, .ledger (.setPartner ⟨1⟩ ⟨5⟩ true)), (0, .ledger (.setVerifier ⟨1⟩ ⟨6⟩ true)),
      (0, .vault (.deposit ⟨4⟩ 1000)), (0, .ledger (.originate ⟨4⟩ 7 ⟨5⟩ 120 3 7776000))]
  let poking : List (ℕ × Call) := poked.map fun sequence => (sequence, .engine (.poke 1))
  let (history, s) ← play script token ((opening ++ poking).map fun call =>
    (⟨5 * call.1, call.1⟩, .call lastingOrigin call.2))
  let later : Clock := ⟨5 * waited, waited⟩
  if s.clock ≤ later then some (⟨s, none, ⟨later, s.state⟩⟩ :: history, ⟨later, s.state⟩) else none

/-- What is checked of a played run holds of a run. -/
theorem exists_run_of_playIdle
    {P : List (Transition TableSystem TableInput) → Timed TableSystem → Prop}
    [∀ history s, Decidable (P history s)] {poked : List ℕ} {waited : ℕ}
    (h : (playIdle poked waited).any (fun run => P run.1 run.2) = true) :
    ∃ history s, sampleMachine.Run history s ∧ P history s := by
  obtain ⟨run, hplayed, hchecked⟩ := Option.any_eq_true _ _ |>.mp h
  refine ⟨run.1, run.2, ?_, of_decide_eq_true hchecked⟩
  obtain ⟨⟨history, s⟩, hplay, hwaits⟩ := Option.bind_eq_some_iff.mp hplayed
  obtain ⟨hlater, hrun⟩ := Option.ite_none_right_eq_some.mp hwaits
  obtain rfl := Option.some.inj hrun
  exact .step (play_run hplay) (.tick hlater)

/-- Poked on the twentieth day, the loan is live eighty days later. -/
theorem poke_keeps_alive_eightyDays : ∃ history s loan, sampleMachine.Run history s ∧
    s.clock.sequence = 1727999 ∧ s.state.loans 1 = some loan ∧
    s.state.LiveIn s.clock.sequence 1 loan := by
  obtain ⟨history, s, hrun, hrunning, htended, hages, hsequence, hopen⟩ := exists_run_of_playIdle
    (P := fun history s => Running history ∧ Tended 1 history ∧
      (∀ t ∈ history, OutlastsGap 1 t) ∧ s.clock.sequence = 1727999 ∧
      s.state.hasOpen 1 = true)
    (show (playIdle [345600] 1727999).any _ = true by decide +kernel)
  obtain ⟨loan, hloan, hopen⟩ := Option.any_eq_true _ _ |>.mp hopen
  exact ⟨history, s, loan, hrun, hsequence, hloan,
    poke_keeps_alive hrun hrunning htended hages hloan hopen⟩

/-- An idle loan poked on the eighty-ninth day is open on the hundred and twentieth, and its marker,
its guarantor's record and the vault's instance are archived then. -/
theorem poked_loan_ages : ¬ ∀ (history : List (Transition TableSystem TableInput))
    (s : Timed TableSystem) (id : ℕ) (loan : Loan), sampleMachine.Run history s →
    Running history → Tended id history → s.state.loans id = some loan → loan.isOpen = true →
    s.state.LiveIn s.clock.sequence id loan := by
  intro hclaim
  obtain ⟨history, s, hrun, hrunning, htended, hchecked⟩ := exists_run_of_playIdle
    (P := fun history s => Running history ∧ Tended 1 history ∧
      (s.state.loans 1).any (fun loan => loan.isOpen = true ∧
        ¬ s.state.LiveIn s.clock.sequence 1 loan) = true)
    (show (playIdle [1537920] 2073601).any _ = true by decide +kernel)
  obtain ⟨loan, hloan, hages⟩ := Option.any_eq_true _ _ |>.mp hchecked
  obtain ⟨hopen, hages⟩ := of_decide_eq_true hages
  exact hages (hclaim history s 1 loan hrun hrunning htended hloan hopen)

end RemitCollateral.Protocol
