import RemitCollateral.Protocol.Batching

/-! # The three cranks

The engine previews a loan through the ledger's views, and the ledger checks it again when the
engine marks it; `poke` previews it a third time to choose between the two explicit cranks. Here the
three are shown to agree: what `poke` does is what the crank it chose does, to the last stored
lifetime. -/

namespace RemitCollateral

open Soroban

namespace LiquidationEngine

section Dispatch

variable {X : Type} {ledgers : Address → LedgerClient X} {vaults : Address → VaultClient X}
  {env : Env} {loanId : ℕ} {s : State} {x x₁ x₂ x₃ : X} {addr : Address}

/-- A paused engine declines. -/
theorem poke_of_paused (hpaused : paused s = true) :
    poke ledgers vaults env loanId s x = .ok (false, extendInstance env s, x) := by
  simp [poke, hpaused, pure, Except.pure]

/-- On an overdue loan `poke` is `flagOverdue`. -/
theorem poke_of_overdue (hpaused : paused s = false) (haddr : s.loanLedger = some addr)
    (hoverdue : (ledgers addr).isOverdue (env.call addr) loanId x = some (true, x₁)) :
    poke ledgers vaults env loanId s x = (true, ·) <$> flagOverdue ledgers env loanId s x := by
  cases hmark : (ledgers addr).markGrace (env.call addr) env.currentContract loanId x₁ <;>
    simp [poke, flagOverdue, pokeOverdue, hpaused, haddr, hoverdue, hmark, orPanic, callee, require,
      bind, Except.bind, pure, Except.pure, Functor.map, Except.map]

/-- Liquidation reads the world through the preview only. -/
theorem liquidate_congr (haddr : s.loanLedger = some addr)
    (hsame : (ledgers addr).isGraceExpired (env.call addr) loanId x₁ =
      (ledgers addr).isGraceExpired (env.call addr) loanId x₂) :
    liquidate ledgers vaults env loanId (extendInstance env s) x₁ =
      liquidate ledgers vaults env loanId s x₂ := by
  have haddr' : (extendInstance env s).loanLedger = some addr := haddr
  unfold liquidate
  simp only [extendInstance_extendInstance, haddr', orPanic, bind, Except.bind, hsame]

/-- On a loan past its grace `poke` is `liquidate`. -/
theorem poke_of_expired (hpaused : paused s = false) (haddr : s.loanLedger = some addr)
    (hoverdue : (ledgers addr).isOverdue (env.call addr) loanId x = some (false, x₁))
    (hexpired : (ledgers addr).isGraceExpired (env.call addr) loanId x₁ = some (true, x₂))
    (hagain : (ledgers addr).isGraceExpired (env.call addr) loanId x₂ =
      (ledgers addr).isGraceExpired (env.call addr) loanId x) :
    poke ledgers vaults env loanId s x =
      (fun result => (true, result.2)) <$> liquidate ledgers vaults env loanId s x := by
  rw [← liquidate_congr haddr hagain]
  simp only [poke, paused_extendInstance, hpaused, Bool.false_eq_true, if_false, haddr, hoverdue,
    extendInstance_loanLedger, orPanic, callee, pokeExpired, hexpired, bind, Except.bind, if_true]
  cases liquidate ledgers vaults env loanId (extendInstance env s) x₂ <;> rfl

/-- On any other loan `poke` declines. -/
theorem poke_of_idle (hpaused : paused s = false) (haddr : s.loanLedger = some addr)
    (hoverdue : (ledgers addr).isOverdue (env.call addr) loanId x = some (false, x₁))
    (hexpired : (ledgers addr).isGraceExpired (env.call addr) loanId x₁ = some (false, x₂)) :
    poke ledgers vaults env loanId s x = .ok (false, extendInstance env s, x₂) := by
  simp [poke, pokeExpired, hpaused, haddr, hoverdue, hexpired, orPanic, callee, bind, Except.bind,
    pure, Except.pure]

end Dispatch

end LiquidationEngine

namespace LoanLedger

section Guards

variable {env : Env} {config : Config} {s : State} {loanId : ℕ} {loan : Loan} {caller : Address}

/-- The loan is past its due date and not yet in grace. -/
def Loan.Overdue (loan : Loan) (now : ℕ) : Prop := loan.status = .active ∧ loan.nextDue < now

/-- The loan's grace period is over. -/
def Loan.GraceExpired (loan : Loan) (now : ℕ) : Prop :=
  loan.status = .grace ∧ loan.graceExpiresAt < now

instance (loan : Loan) (now : ℕ) : Decidable (loan.Overdue now) :=
  inferInstanceAs (Decidable (_ ∧ _))

instance (loan : Loan) (now : ℕ) : Decidable (loan.GraceExpired now) :=
  inferInstanceAs (Decidable (_ ∧ _))

/-- No loan is due for both transitions. -/
theorem Loan.not_overdue_and_expired (loan : Loan) (now : ℕ) :
    ¬ (loan.Overdue now ∧ loan.GraceExpired now) := by
  rintro ⟨⟨hactive, -⟩, hgrace, -⟩
  rw [hactive] at hgrace
  cases hgrace

/-- Reading a loan twice in one ledger renews it once. -/
theorem loadedTtl_loadedTtl (env : Env) (s : State) (loanId : ℕ) :
    loadedTtl env (s.withTtl (loadedTtl env s loanId)) loanId = loadedTtl env s loanId := by
  have hle : threshold ≤ extendTo := by decide
  have hentry : ∀ ttl : Lifetimes Key, (ttl.extendEntry env threshold extendTo
      (.loan loanId)).extendEntry env threshold extendTo (.loan loanId) =
        ttl.extendEntry env threshold extendTo (.loan loanId) :=
    Lifetimes.extendEntry_extendEntry hle _
  -- the two kinds of entries are renewed independently
  calc loadedTtl env (s.withTtl (loadedTtl env s loanId)) loanId
      = (((s.ttl.extendInstance env threshold extendTo).extendInstance env threshold extendTo
          ).extendEntry env threshold extendTo (.loan loanId)).extendEntry env threshold extendTo
            (.loan loanId) := rfl
    _ = loadedTtl env s loanId := by
        rw [Lifetimes.extendInstance_extendInstance hle, hentry]
        rfl

/-- The view of overdue loans. -/
theorem isOverdue_of_found (hfound : s.loans loanId = some loan) : isOverdue env loanId s =
    .ok (decide (loan.Overdue env.timestamp), s.withTtl (loadedTtl env s loanId)) :=
  isOverdue_eq_ok.mpr ⟨loan, hfound, rfl, rfl⟩

/-- The view of loans past their grace. -/
theorem isGraceExpired_of_found (hfound : s.loans loanId = some loan) :
    isGraceExpired env loanId s =
      .ok (decide (loan.GraceExpired env.timestamp), s.withTtl (loadedTtl env s loanId)) :=
  isGraceExpired_eq_ok.mpr ⟨loan, hfound, rfl, rfl⟩

/-- The ledger accepts the engine's mark of an overdue loan exactly when its view shows it
overdue. -/
theorem markGrace_isOk_iff (h : s.Sound config env.timestamp) (hauth : env.authorized caller)
    (hengine : s.liquidationEngine = some caller) (hfound : s.loans loanId = some loan)
    (htime : InU64 (env.timestamp + config.gracePeriodSecs)) :
    (∃ s', markGrace env caller loanId s = .ok s') ↔ loan.Overdue env.timestamp := by
  constructor
  · rintro ⟨s', hok⟩
    obtain ⟨-, -, loan₁, hfound₁, hstatus, hlate, -⟩ := (markGrace_eq_ok h).mp hok
    obtain rfl : loan = loan₁ := Option.some.inj (hfound.symm.trans hfound₁)
    exact ⟨hstatus, hlate⟩
  · rintro ⟨hstatus, hlate⟩
    exact ⟨_, (markGrace_eq_ok h).mpr ⟨hauth, hengine, loan, hfound, hstatus, hlate, htime, rfl⟩⟩

/-- The ledger accepts the engine's closing of a loan exactly when its view shows the grace over. -/
theorem markDefaulted_isOk_iff (hauth : env.authorized caller)
    (hengine : s.liquidationEngine = some caller) (hfound : s.loans loanId = some loan) :
    (∃ s', markDefaulted env caller loanId s = .ok s') ↔ loan.GraceExpired env.timestamp := by
  constructor
  · rintro ⟨s', hok⟩
    obtain ⟨-, -, loan₁, hfound₁, hstatus, hexpired, -⟩ := markDefaulted_eq_ok.mp hok
    obtain rfl : loan = loan₁ := Option.some.inj (hfound.symm.trans hfound₁)
    exact ⟨hstatus, hexpired⟩
  · rintro ⟨hstatus, hexpired⟩
    exact ⟨_, markDefaulted_eq_ok.mpr ⟨hauth, hengine, loan, hfound, hstatus, hexpired, rfl⟩⟩

end Guards

end LoanLedger

namespace Protocol

section Calls

variable {T : Type} (d : Deployment) (tokens : Address → GuarantorVault.TokenClient T)
  (origin : Origin) (clock : Clock) (loanId : ℕ) (s : System T)

/-- The environment the ledger sees when the engine calls it. -/
abbrev engineCall : Env := (origin.env clock d.engine).call d.ledger

/-- A call of `flag_overdue`. -/
def flagOverdue : Option (System T) :=
  (outcome (LiquidationEngine.flagOverdue (engineLedgers d) (origin.env clock d.engine) loanId
    s.engine (s.ledger, s.world))).map fun result => ⟨result.1, result.2.1, result.2.2⟩

/-- A call of `liquidate`, with the amount it forfeits. -/
def liquidate : Option (ℤ × System T) :=
  (outcome (LiquidationEngine.liquidate (engineLedgers d) (engineVaults d tokens)
    (origin.env clock d.engine) loanId s.engine (s.ledger, s.world))).map fun result =>
      (result.1, ⟨result.2.1, result.2.2.1, result.2.2.2⟩)

/-- A call of `poke`, with what it returns. -/
def poke : Option (Bool × System T) :=
  (outcome (LiquidationEngine.poke (engineLedgers d) (engineVaults d tokens)
    (origin.env clock d.engine) loanId s.engine (s.ledger, s.world))).map fun result =>
      (result.1, ⟨result.2.1, result.2.2.1, result.2.2.2⟩)

theorem exec_flagOverdue : exec d tokens origin clock s (.engine (.flagOverdue loanId)) =
    flagOverdue d origin clock loanId s := rfl

theorem exec_liquidate : exec d tokens origin clock s (.engine (.liquidate loanId)) =
    (liquidate d tokens origin clock loanId s).map Prod.snd := by
  simp only [exec, LiquidationEngine.exec, liquidate]
  cases LiquidationEngine.liquidate (engineLedgers d) (engineVaults d tokens)
    (origin.env clock d.engine) loanId s.engine (s.ledger, s.world) <;> rfl

theorem exec_poke : exec d tokens origin clock s (.engine (.poke loanId)) =
    (poke d tokens origin clock loanId s).map Prod.snd := by
  simp only [exec, LiquidationEngine.exec, poke]
  cases LiquidationEngine.poke (engineLedgers d) (engineVaults d tokens)
    (origin.env clock d.engine) loanId s.engine (s.ledger, s.world) <;> rfl

end Calls

variable {T : Type} {d : Deployment} {tokens : Address → GuarantorVault.TokenClient T}
  {tok : GuarantorVault.StandardToken T} {origin : Origin} {clock : Clock} {s s' : System T}
  {loanId : ℕ} {loan : LoanLedger.Loan}

section Views

variable (d : Deployment) (origin : Origin) (clock : Clock) {l : LoanLedger.State}
  (w : GuarantorVault.World T) (hfound : l.loans loanId = some loan)
include hfound

/-- What the engine sees of a loan's due date. -/
theorem engineLedgers_isOverdue :
    (engineLedgers d d.ledger).isOverdue (engineCall d origin clock) loanId (l, w) =
      some (decide (loan.Overdue clock.timestamp),
        l.withTtl (LoanLedger.loadedTtl (engineCall d origin clock) l loanId), w) := by
  rw [engineLedgers_ledger]
  exact view_eq_some.mpr ⟨LoanLedger.isOverdue_of_found hfound, rfl⟩

/-- What the engine sees of a loan's grace period. -/
theorem engineLedgers_isGraceExpired :
    (engineLedgers d d.ledger).isGraceExpired (engineCall d origin clock) loanId (l, w) =
      some (decide (loan.GraceExpired clock.timestamp),
        l.withTtl (LoanLedger.loadedTtl (engineCall d origin clock) l loanId), w) := by
  rw [engineLedgers_ledger]
  exact view_eq_some.mpr ⟨LoanLedger.isGraceExpired_of_found hfound, rfl⟩

/-- Seen again in the same ledger, a loan looks the same. -/
theorem engineLedgers_isGraceExpired_again :
    (engineLedgers d d.ledger).isGraceExpired (engineCall d origin clock) loanId
      (l.withTtl (LoanLedger.loadedTtl (engineCall d origin clock) l loanId), w) =
        some (decide (loan.GraceExpired clock.timestamp),
          l.withTtl (LoanLedger.loadedTtl (engineCall d origin clock) l loanId), w) := by
  have hagain : (l.withTtl (LoanLedger.loadedTtl (engineCall d origin clock) l loanId)).loans
      loanId = some loan := hfound
  rw [engineLedgers_isGraceExpired d origin clock w hagain, LoanLedger.withTtl_withTtl,
    LoanLedger.loadedTtl_loadedTtl]

end Views

/-! ## What each crank does -/

/-- The state after the engine has renewed its instance and read a loan. -/
def System.read (d : Deployment) (origin : Origin) (clock : Clock) (loanId : ℕ) (s : System T) :
    System T where
  engine := LiquidationEngine.extendInstance (origin.env clock d.engine) s.engine
  ledger := s.ledger.withTtl
    (LoanLedger.loadedTtl (engineCall d origin clock) s.ledger loanId)
  world := s.world

/-- A paused engine only renews its instance. -/
theorem poke_of_paused (hpaused : LiquidationEngine.paused s.engine = true) :
    poke d tokens origin clock loanId s = some (false, { s with
      engine := LiquidationEngine.extendInstance (origin.env clock d.engine) s.engine }) := by
  rw [poke, LiquidationEngine.poke_of_paused hpaused]
  rfl

section Running

variable (h : s.Sound d tokens tok clock.timestamp)
  (hrunning : LiquidationEngine.paused s.engine = false) (hfound : s.loans loanId = some loan)
include h hrunning hfound

/-- An overdue loan can be flagged, as long as its deadline fits the clock. -/
theorem flagOverdue_succeeds (hoverdue : loan.Overdue clock.timestamp)
    (htime : InU64 (clock.timestamp + d.config.gracePeriodSecs)) :
    ∃ s', flagOverdue d origin clock loanId s = some s' ∧
      s'.loans loanId = some (loan.flag d.config clock.timestamp) := by
  have hledger : (s.ledger.withTtl (LoanLedger.loadedTtl (engineCall d origin clock)
      s.ledger loanId)).Sound d.config (engineCall d origin clock).timestamp :=
    h.ledger.withTtl _
  have hengine : (engineCall d origin clock).authorized d.engine := .inl rfl
  obtain ⟨l', hmark⟩ := (LoanLedger.markGrace_isOk_iff hledger hengine h.wired.ledgerEngine hfound
    htime).mpr hoverdue
  have hseen := engineLedgers_isOverdue d origin clock s.world hfound
  rw [decide_eq_true hoverdue] at hseen
  have hflags : LiquidationEngine.flagOverdue (engineLedgers d) (origin.env clock d.engine) loanId
      s.engine (s.ledger, s.world) = .ok (LiquidationEngine.extendInstance
        (origin.env clock d.engine) s.engine, (l', s.world)) := by
    refine LiquidationEngine.flagOverdue_eq_ok.mpr ⟨hrunning, d.ledger, h.wired.engineLedger, _,
      hseen, ?_, rfl⟩
    rw [engineLedgers_ledger]
    exact mark_eq_some.mpr ⟨hmark, rfl⟩
  refine ⟨⟨_, l', s.world⟩, by rw [flagOverdue, hflags]; rfl, ?_⟩
  obtain ⟨-, -, loan₁, hfound₁, -, -, -, rfl⟩ := (LoanLedger.markGrace_eq_ok hledger).mp hmark
  obtain rfl : loan = loan₁ := Option.some.inj (hfound.symm.trans hfound₁)
  have hid : loan.id = loanId := h.ledger.keyed _ _ hfound
  rw [← hid]
  exact Function.update_self _ _ _

omit hrunning in
/-- A loan that is not overdue cannot be flagged. -/
theorem flagOverdue_refused (hoverdue : ¬ loan.Overdue clock.timestamp) :
    flagOverdue d origin clock loanId s = none := by
  refine Option.eq_none_iff_forall_ne_some.mpr fun s' hok => ?_
  obtain ⟨⟨e', x'⟩, hflags, -⟩ := Option.map_eq_some_iff.mp hok
  obtain ⟨-, addr, haddr, x₁, hseen, -⟩ :=
    LiquidationEngine.flagOverdue_eq_ok.mp (outcome_eq_some.mp hflags)
  obtain rfl := h.wired.eq_engineLedger haddr
  have hview := engineLedgers_isOverdue d origin clock s.world hfound
  rw [hview] at hseen
  exact hoverdue (of_decide_eq_true (Prod.mk.inj (Option.some.inj hseen)).1)

omit hrunning in
/-- A loan within its grace, or not in grace, cannot be liquidated. -/
theorem liquidate_refused (hexpired : ¬ loan.GraceExpired clock.timestamp) :
    liquidate d tokens origin clock loanId s = none := by
  refine Option.eq_none_iff_forall_ne_some.mpr fun result hok => ?_
  obtain ⟨⟨r, e', x'⟩, hliquidates, -⟩ := Option.map_eq_some_iff.mp hok
  obtain ⟨-, loan₁, hfound₁, hstatus, hlate, -⟩ := h.liquidates (outcome_eq_some.mp hliquidates)
  obtain rfl : loan = loan₁ := Option.some.inj (hfound.symm.trans hfound₁)
  exact hexpired ⟨hstatus, hlate⟩

/-- A loan past its grace can be liquidated. -/
theorem liquidate_closes (hbalanced : s.Balanced) (hexpired : loan.GraceExpired clock.timestamp) :
    ∃ s', liquidate d tokens origin clock loanId s = some (forfeitable loan, s') ∧
      s'.loans loanId = some loan.default := by
  obtain ⟨r, e', ⟨l', w'⟩, hok⟩ :=
    liquidate_succeeds h hbalanced hrunning hfound hexpired.1 hexpired.2 origin
  obtain ⟨-, loan₁, hfound₁, -, -, rfl, hrecord, -⟩ := h.liquidates hok
  obtain rfl : loan = loan₁ := Option.some.inj (hfound.symm.trans hfound₁)
  let s' : System T := ⟨e', l', w'⟩
  have hloans : s'.loans = Function.update s.loans loanId (some loan.default) :=
    loans_record h.ledger hfound hrecord rfl
  refine ⟨s', by rw [liquidate, hok]; rfl, ?_⟩
  rw [hloans, Function.update_self]

/-- On an overdue loan `poke` does what `flagOverdue` does. -/
theorem poke_of_overdue (hoverdue : loan.Overdue clock.timestamp) :
    poke d tokens origin clock loanId s =
      (flagOverdue d origin clock loanId s).map (true, ·) := by
  have hseen := engineLedgers_isOverdue d origin clock s.world hfound
  rw [decide_eq_true hoverdue] at hseen
  rw [poke, LiquidationEngine.poke_of_overdue hrunning h.wired.engineLedger hseen, flagOverdue]
  cases LiquidationEngine.flagOverdue (engineLedgers d) (origin.env clock d.engine) loanId s.engine
    (s.ledger, s.world) <;> rfl

/-- On a loan past its grace `poke` does what `liquidate` does. -/
theorem poke_of_expired (hexpired : loan.GraceExpired clock.timestamp) :
    poke d tokens origin clock loanId s =
      (liquidate d tokens origin clock loanId s).map fun result => (true, result.2) := by
  have hnot : ¬ loan.Overdue clock.timestamp := fun hoverdue =>
    loan.not_overdue_and_expired _ ⟨hoverdue, hexpired⟩
  have hseen := engineLedgers_isOverdue d origin clock s.world hfound
  have hpreview := engineLedgers_isGraceExpired d origin clock s.world hfound
  -- the later reads of the loan find it renewed by the first
  have hagain := engineLedgers_isGraceExpired_again d origin clock s.world hfound
  rw [decide_eq_false hnot] at hseen
  rw [decide_eq_true hexpired] at hpreview hagain
  rw [poke, LiquidationEngine.poke_of_expired hrunning h.wired.engineLedger hseen hagain
    (hagain.trans hpreview.symm), liquidate]
  cases LiquidationEngine.liquidate (engineLedgers d) (engineVaults d tokens)
    (origin.env clock d.engine) loanId s.engine (s.ledger, s.world) <;> rfl

/-- On any other loan `poke` only reads it. -/
theorem poke_of_idle (hoverdue : ¬ loan.Overdue clock.timestamp)
    (hexpired : ¬ loan.GraceExpired clock.timestamp) :
    poke d tokens origin clock loanId s = some (false, s.read d origin clock loanId) := by
  have hseen := engineLedgers_isOverdue d origin clock s.world hfound
  have hagain := engineLedgers_isGraceExpired_again d origin clock s.world hfound
  rw [decide_eq_false hoverdue] at hseen
  rw [decide_eq_false hexpired] at hagain
  rw [poke, LiquidationEngine.poke_of_idle hrunning h.wired.engineLedger hseen hagain]
  rfl

end Running

/-- **Refinement.** In every reachable state and for every existing loan: a paused engine declines
to poke it and changes nothing but its own lifetime; otherwise `poke` does exactly what
`flagOverdue` does if the loan is overdue, exactly what `liquidate` does if its grace is over, and
else it declines where both are refused, and only reads the loan. The two conditions exclude each
other, and the ledger's views show them exactly when the ledger accepts the engine's marks. -/
theorem poke_refines_cranks {s : Timed (System T)} (h : (machine d tokens tok).Reachable s)
    (hfound : s.state.loans loanId = some loan)
    (htime : s.now + d.config.gracePeriodSecs < 2 ^ 64) (origin : Origin) :
    (LiquidationEngine.paused s.state.engine = true →
      poke d tokens origin s.clock loanId s.state = some (false, { s.state with
        engine := LiquidationEngine.extendInstance (origin.env s.clock d.engine)
          s.state.engine })) ∧
    (LiquidationEngine.paused s.state.engine = false →
      (loan.Overdue s.now → ∃ s', flagOverdue d origin s.clock loanId s.state = some s' ∧
        poke d tokens origin s.clock loanId s.state = some (true, s') ∧
        s'.loans loanId = some (loan.flag d.config s.now)) ∧
      (loan.GraceExpired s.now → ∃ r s',
        liquidate d tokens origin s.clock loanId s.state = some (r, s') ∧
        poke d tokens origin s.clock loanId s.state = some (true, s') ∧
        s'.loans loanId = some loan.default) ∧
      (¬ loan.Overdue s.now → ¬ loan.GraceExpired s.now →
        flagOverdue d origin s.clock loanId s.state = none ∧
        liquidate d tokens origin s.clock loanId s.state = none ∧
        poke d tokens origin s.clock loanId s.state =
          some (false, s.state.read d origin s.clock loanId))) ∧
    ¬ (loan.Overdue s.now ∧ loan.GraceExpired s.now) ∧
    ((∃ l, LoanLedger.isOverdue (engineCall d origin s.clock) loanId s.state.ledger =
      .ok (true, l)) ↔ loan.Overdue s.now) ∧
    ((∃ l, LoanLedger.markGrace (engineCall d origin s.clock) d.engine loanId s.state.ledger =
      .ok l) ↔ loan.Overdue s.now) ∧
    ((∃ l, LoanLedger.isGraceExpired (engineCall d origin s.clock) loanId s.state.ledger =
      .ok (true, l)) ↔ loan.GraceExpired s.now) ∧
    ((∃ l, LoanLedger.markDefaulted (engineCall d origin s.clock) d.engine loanId s.state.ledger =
      .ok l) ↔ loan.GraceExpired s.now) := by
  have hsound : s.state.Sound d tokens tok s.clock.timestamp := System.Sound.of_reachable h
  have hbalanced := System.Balanced.of_reachable h
  have hledger : s.state.ledger.Sound d.config
      (engineCall d origin s.clock).timestamp := hsound.ledger
  have hauth : (engineCall d origin s.clock).authorized d.engine := .inl rfl
  refine ⟨poke_of_paused, fun hrunning => ⟨fun hoverdue => ?_, fun hexpired => ?_,
    fun hoverdue hexpired => ?_⟩, loan.not_overdue_and_expired _, ?_, ?_, ?_, ?_⟩
  · obtain ⟨s', hflags, hflagged⟩ := flagOverdue_succeeds hsound hrunning hfound hoverdue htime
    exact ⟨s', hflags, by rw [poke_of_overdue hsound hrunning hfound hoverdue, hflags]; rfl,
      hflagged⟩
  · obtain ⟨s', hcloses, hclosed⟩ := liquidate_closes hsound hrunning hfound hbalanced hexpired
    exact ⟨_, s', hcloses, by rw [poke_of_expired hsound hrunning hfound hexpired, hcloses]; rfl,
      hclosed⟩
  · exact ⟨flagOverdue_refused hsound hfound hoverdue, liquidate_refused hsound hfound hexpired,
      poke_of_idle hsound hrunning hfound hoverdue hexpired⟩
  · constructor
    · rintro ⟨l, hok⟩
      rw [LoanLedger.isOverdue_of_found hfound] at hok
      exact of_decide_eq_true (Prod.mk.inj (Except.ok.inj hok)).1
    · intro hoverdue
      exact ⟨_, (LoanLedger.isOverdue_of_found hfound).trans
        (by rw [decide_eq_true]; exact hoverdue)⟩
  · exact LoanLedger.markGrace_isOk_iff hledger hauth hsound.wired.ledgerEngine hfound htime
  · constructor
    · rintro ⟨l, hok⟩
      rw [LoanLedger.isGraceExpired_of_found hfound] at hok
      exact of_decide_eq_true (Prod.mk.inj (Except.ok.inj hok)).1
    · intro hexpired
      exact ⟨_, (LoanLedger.isGraceExpired_of_found hfound).trans
        (by rw [decide_eq_true]; exact hexpired)⟩
  · exact LoanLedger.markDefaulted_isOk_iff hauth hsound.wired.ledgerEngine hfound

/-- A loan one second past its first due date: whoever pokes it flags it. -/
theorem poke_refines_cranks_overdue : ∃ history s s', sampleMachine.Run history s ∧
    flagOverdue sample ⟨none, [], 0⟩ s.clock 1 s.state = some s' ∧
    poke sample (fun _ => GuarantorVault.tableToken.client) ⟨none, [], 0⟩ s.clock 1 s.state =
      some (true, s') := by
  obtain ⟨history, s, hrun, hloan, hrunning, htime⟩ := exists_run_of_playLoan
    (P := fun _ s => (s.state.loans 1).any (fun loan => loan.Overdue s.now) = true ∧
      LiquidationEngine.paused s.state.engine = false ∧
      s.now + sample.config.gracePeriodSecs < 2 ^ 64)
    (show (playLoan [(86401, .ledger (.isOverdue 1))]).any _ = true by decide +kernel)
  obtain ⟨loan, hfound, hoverdue⟩ := Option.any_eq_true _ _ |>.mp hloan
  obtain ⟨s', hflags, hpoke, -⟩ := ((poke_refines_cranks hrun.reachable hfound htime
    ⟨none, [], 0⟩).2.1 hrunning).1 (of_decide_eq_true hoverdue)
  exact ⟨history, s, s', hrun, hflags, hpoke⟩

end Protocol

end RemitCollateral
