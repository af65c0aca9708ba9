import RemitCollateral.LoanLedger.Book
import RemitCollateral.LoanLedger.Spec

/-! # Runs of the ledger

The entry points of the ledger as one type of calls, what each of them does, and the machine whose
runs are all runs of the ledger against any vault that refuses to lock nothing. Every run keeps the
storage invariant and moves a book of loans. -/

namespace RemitCollateral.LoanLedger

open Soroban

/-- The entry points that write storage or renew it. -/
inductive Call
  | setOracle (admin oracle : Address)
  | setLiquidationEngine (admin engine : Address)
  | setPartner (admin partner : Address) (authorized : Bool)
  | setVerifier (admin verifier : Address) (authorized : Bool)
  | setReputation (oracle : Address) (beneficiary : BytesN32) (scoreBps : ℕ)
  | reassignPartner (admin : Address) (loanId : ℕ) (newPartner : Address)
  | scheduleAction (admin : Address) (action : Action)
  | executeAction (admin : Address)
  | cancelAction (admin : Address)
  | proposeAdmin (admin newAdmin : Address)
  | acceptAdmin (newAdmin : Address)
  | originate (guarantor : Address) (beneficiary : BytesN32) (partner : Address)
      (principalUsd : ℤ) (installmentCount intervalSecs : ℕ)
  | attestRepayment (partner verifier : Address) (loanId : ℕ) (amountUsd : ℤ)
  | markGrace (caller : Address) (loanId : ℕ)
  | markDefaulted (caller : Address) (loanId : ℕ)
  | isOverdue (loanId : ℕ)
  | isGraceExpired (loanId : ℕ)
  | loanGuarantor (loanId : ℕ)
  | loanOutstanding (loanId : ℕ)
  | loanCollateralRemaining (loanId : ℕ)
  deriving DecidableEq, Repr

variable {X : Type} (vaults : Address → VaultClient X) (env : Env)

/-- Run an operation that does not call the vault. -/
def onLedger (operation : State → Result Error State) (s : State) (x : X) :
    Result Error (State × X) := do
  let s ← operation s
  pure (s, x)

/-- Run a view, which renews the loan it reads. -/
def onView {α : Type} (view : State → Result Error (α × State)) (s : State) (x : X) :
    Result Error (State × X) := do
  let (_, s) ← view s
  pure (s, x)

/-- Run one call; what it returns to its caller is dropped. -/
def exec : Call → State → X → Result Error (State × X)
  | .setOracle admin oracle => onLedger (setOracle env admin oracle)
  | .setLiquidationEngine admin engine => onLedger (setLiquidationEngine env admin engine)
  | .setPartner admin partner authorized => onLedger (setPartner env admin partner authorized)
  | .setVerifier admin verifier authorized => onLedger (setVerifier env admin verifier authorized)
  | .setReputation oracle beneficiary scoreBps =>
      onLedger (setReputation env oracle beneficiary scoreBps)
  | .reassignPartner admin loanId newPartner =>
      onLedger (reassignPartner env admin loanId newPartner)
  | .scheduleAction admin action => onLedger (scheduleAction env admin action)
  | .executeAction admin => onLedger (executeAction env admin)
  | .cancelAction admin => onLedger (cancelAction env admin)
  | .proposeAdmin admin newAdmin => onLedger (proposeAdmin env admin newAdmin)
  | .acceptAdmin newAdmin => onLedger (acceptAdmin env newAdmin)
  | .originate guarantor beneficiary partner principalUsd installmentCount intervalSecs =>
      fun s x => (·.2) <$> originate vaults env guarantor beneficiary partner principalUsd
        installmentCount intervalSecs s x
  | .attestRepayment partner verifier loanId amountUsd =>
      fun s x => (·.2) <$> attestRepayment vaults env partner verifier loanId amountUsd s x
  | .markGrace caller loanId => onLedger (markGrace env caller loanId)
  | .markDefaulted caller loanId => onLedger (markDefaulted env caller loanId)
  | .isOverdue loanId => onView (isOverdue env loanId)
  | .isGraceExpired loanId => onView (isGraceExpired env loanId)
  | .loanGuarantor loanId => onView (loanGuarantor env loanId)
  | .loanOutstanding loanId => onView (loanOutstanding env loanId)
  | .loanCollateralRemaining loanId => onView (loanCollateralRemaining env loanId)

@[simp] theorem onLedger_eq_ok {operation : State → Result Error State} {s s' : State} {x x' : X} :
    onLedger operation s x = .ok (s', x') ↔ operation s = .ok s' ∧ x = x' := by
  simp [onLedger]

@[simp] theorem onView_eq_ok {α : Type} {view : State → Result Error (α × State)} {s s' : State}
    {x x' : X} : onView view s x = .ok (s', x') ↔ (∃ value, view s = .ok (value, s')) ∧ x = x' := by
  simp [onView]

/-! ## What a call does -/

/-- The registrations of a state: no address in both roles, no score above a perfect one. -/
structure State.Registered (s : State) : Prop where
  roles : ∀ address, ¬ (s.partners address = some true ∧ s.verifiers address = some true)
  scores : ∀ beneficiary, (getReputation beneficiary s : ℤ) ≤ BPS

/-- A call that leaves loans, markers, configuration and pointers alone and keeps registrations in
order. -/
structure Quiet (s s' : State) : Prop where
  loans : s'.loans = s.loans
  loanCount : s'.loanCount = s.loanCount
  openLoans : s'.openLoans = s.openLoans
  config : s'.config = s.config
  vault : s'.vault = s.vault
  liquidationEngine :
    ∀ engine, s.liquidationEngine = some engine → s'.liquidationEngine = some engine
  registered : s.Registered → s'.Registered

/-- The effect of a call: an operation on a loan makes its move under its conditions, every other
call is quiet. -/
def Effect (config : Config) (s : State) (x : X) (s' : State) (x' : X) : Call → Prop
  | .originate guarantor beneficiary partner principalUsd installmentCount intervalSecs =>
      ∃ loan, Origination env config guarantor beneficiary partner principalUsd installmentCount
          intervalSecs s loan ∧
        (∃ vault, s.vault = some vault ∧ (vaults vault).lockCollateral (env.call vault)
          env.currentContract guarantor loan.collateralLocked x = some x') ∧
        ∃ ttl, s.open loan ttl = s'
  | .attestRepayment partner verifier loanId amountUsd =>
      ∃ loan, Attestation env partner verifier loanId amountUsd s loan ∧
        Releases vaults env s loan.guarantor
          (loan.earned config (loan.totalRepaidUsd + amountUsd) - loan.collateralReleased) x x' ∧
        ∃ ttl, s.record (loan.repay config env.timestamp amountUsd) ttl = s'
  | .markGrace caller loanId => x = x' ∧ env.authorized caller ∧ s.liquidationEngine = some caller ∧
      ∃ loan, s.loans loanId = some loan ∧ loan.status = .active ∧ loan.nextDue < env.timestamp ∧
        ∃ ttl, s.record (loan.flag config env.timestamp) ttl = s'
  | .markDefaulted caller loanId =>
      x = x' ∧ env.authorized caller ∧ s.liquidationEngine = some caller ∧
      ∃ loan, s.loans loanId = some loan ∧ loan.status = .grace ∧
        loan.graceExpiresAt < env.timestamp ∧ ∃ ttl, s.record loan.default ttl = s'
  | .reassignPartner admin loanId partner =>
      x = x' ∧ env.authorized admin ∧ s.governance.admin = some admin ∧
      s.partners partner = some true ∧
      ∃ loan, s.loans loanId = some loan ∧ loan.isOpen = true ∧
        ∃ ttl, s.record { loan with partner } ttl = s'
  | _ => x = x' ∧ Quiet s s'

section Quiet

variable {env} {s s' : State}

/-- Changing governance, the oracle, code and lifetimes is quiet. -/
theorem quiet_config (s : State) (governance : Governance Action) (oracle : Option Address)
    (wasm : Option BytesN32) (ttl : Lifetimes Key) :
    Quiet s { s with governance, oracle, wasm, ttl } :=
  { loans := rfl, loanCount := rfl, openLoans := rfl, config := rfl, vault := rfl,
    liquidationEngine := fun _ => id, registered := fun h => ⟨h.roles, h.scores⟩ }

theorem withTtl_quiet (s : State) (ttl : Lifetimes Key) : Quiet s (s.withTtl ttl) :=
  quiet_config s _ _ _ ttl

theorem setOracle_quiet {admin oracle : Address} (h : setOracle env admin oracle s = .ok s') :
    Quiet s s' := by
  simp only [setOracle, bind_eq_ok, pure_eq_ok] at h
  obtain ⟨-, -, rfl⟩ := h
  exact quiet_config s _ _ _ _

/-- The admin registers the engine, once. -/
theorem setLiquidationEngine_eq_ok {admin engine : Address} :
    setLiquidationEngine env admin engine s = .ok s' ↔
      env.authorized admin ∧ s.governance.admin = some admin ∧ s.liquidationEngine = none ∧
        { extendInstance env s with liquidationEngine := some engine } = s' := by
  simp only [setLiquidationEngine, bind_eq_ok, requireAdmin_eq_ok, exists_const, require_eq_ok,
    pure_eq_ok, and_assoc]
  exact Iff.rfl

theorem setLiquidationEngine_quiet {admin engine : Address}
    (h : setLiquidationEngine env admin engine s = .ok s') : Quiet s s' := by
  obtain ⟨-, -, hunset, rfl⟩ := setLiquidationEngine_eq_ok.mp h
  -- it was not set before, so there is no engine to keep
  exact { loans := rfl, loanCount := rfl, openLoans := rfl, config := rfl, vault := rfl
          liquidationEngine := fun a ha => absurd (ha.symm.trans hunset) (by simp)
          registered := fun h => ⟨h.roles, h.scores⟩ }

theorem scheduleAction_quiet {admin : Address} {action : Action}
    (h : scheduleAction env admin action s = .ok s') : Quiet s s' := by
  simp only [scheduleAction, bind_eq_ok, pure_eq_ok] at h
  obtain ⟨governance, -, rfl⟩ := h
  exact quiet_config s governance _ _ _

theorem executeAction_quiet {admin : Address} (h : executeAction env admin s = .ok s') :
    Quiet s s' := by
  simp only [executeAction, bind_eq_ok] at h
  obtain ⟨⟨⟨wasmHash⟩, governance⟩, -, h⟩ := h
  obtain rfl := pure_eq_ok.mp h
  exact quiet_config s governance _ _ _

theorem cancelAction_quiet {admin : Address} (h : cancelAction env admin s = .ok s') :
    Quiet s s' := by
  simp only [cancelAction, bind_eq_ok, pure_eq_ok] at h
  obtain ⟨governance, -, rfl⟩ := h
  exact quiet_config s governance _ _ _

theorem proposeAdmin_quiet {admin newAdmin : Address}
    (h : proposeAdmin env admin newAdmin s = .ok s') : Quiet s s' := by
  simp only [proposeAdmin, bind_eq_ok, pure_eq_ok] at h
  obtain ⟨governance, -, rfl⟩ := h
  exact quiet_config s governance _ _ _

theorem acceptAdmin_quiet {newAdmin : Address} (h : acceptAdmin env newAdmin s = .ok s') :
    Quiet s s' := by
  simp only [acceptAdmin, bind_eq_ok, pure_eq_ok] at h
  obtain ⟨governance, -, rfl⟩ := h
  exact quiet_config s governance _ _ _

/-- Registering a partner. Authorizing one looks it up among the verifiers, which renews its entry
there; revoking is not checked, and needs no check. -/
theorem setPartner_cases {admin partner : Address} {authorized : Bool}
    (h : setPartner env admin partner authorized s = .ok s') :
    (authorized = true → s.verifiers partner ≠ some true) ∧
    ∃ ttl, (ttl = (extendInstance env s).ttl ∨
        ttl = verifierTtl env (extendInstance env s) partner) ∧
      touch env (.partner partner) { created env (.partner partner) (s.withTtl ttl) with
        partners := Function.update s.partners partner (some authorized) } = s' := by
  unfold setPartner at h
  cases authorized with
  | true =>
      simp only [if_true, bind_eq_ok, requireAdmin_eq_ok, require_eq_ok, pure_eq_ok,
        authorizedVerifier_eq, exists_const] at h
      obtain ⟨-, hconflict, rfl⟩ := h
      refine ⟨fun _ hverifier => ?_, _, .inr rfl, rfl⟩
      have hlookup : (extendInstance env s).verifiers partner = some true := hverifier
      simp [hlookup] at hconflict
  | false =>
      simp only [Bool.false_eq_true, if_false, bind_eq_ok, requireAdmin_eq_ok, require_eq_ok,
        pure_eq_ok, exists_const] at h
      obtain ⟨-, -, rfl⟩ := h
      exact ⟨fun hfalse => absurd hfalse Bool.false_ne_true, _, .inl rfl, rfl⟩

/-- Registering a partner keeps the roles apart: it must not be a registered verifier. -/
theorem setPartner_quiet {admin partner : Address} {authorized : Bool}
    (h : setPartner env admin partner authorized s = .ok s') : Quiet s s' := by
  obtain ⟨hconflict, ttl, -, rfl⟩ := setPartner_cases h
  rw [touch_eq, created_eq]
  refine { loans := rfl, loanCount := rfl, openLoans := rfl, config := rfl, vault := rfl,
           liquidationEngine := fun _ => id, registered := fun hreg => ⟨?_, hreg.scores⟩ }
  rintro address ⟨hpartner, hverifier⟩
  by_cases heq : address = partner
  · subst heq
    simp only [withTtl_partners, Function.update_self, Option.some.injEq] at hpartner
    exact hconflict hpartner hverifier
  · simp only [withTtl_partners, Function.update_of_ne heq] at hpartner
    exact hreg.roles address ⟨hpartner, hverifier⟩

/-- Registering a verifier, as `setPartner_cases` with the roles exchanged. -/
theorem setVerifier_cases {admin verifier : Address} {authorized : Bool}
    (h : setVerifier env admin verifier authorized s = .ok s') :
    (authorized = true → s.partners verifier ≠ some true) ∧
    ∃ ttl, (ttl = (extendInstance env s).ttl ∨
        ttl = partnerTtl env (extendInstance env s) verifier) ∧
      touch env (.verifier verifier) { created env (.verifier verifier) (s.withTtl ttl) with
        verifiers := Function.update s.verifiers verifier (some authorized) } = s' := by
  unfold setVerifier at h
  cases authorized with
  | true =>
      simp only [if_true, bind_eq_ok, requireAdmin_eq_ok, require_eq_ok, pure_eq_ok,
        authorizedPartner_eq, exists_const] at h
      obtain ⟨-, hconflict, rfl⟩ := h
      refine ⟨fun _ hpartner => ?_, _, .inr rfl, rfl⟩
      have hlookup : (extendInstance env s).partners verifier = some true := hpartner
      simp [hlookup] at hconflict
  | false =>
      simp only [Bool.false_eq_true, if_false, bind_eq_ok, requireAdmin_eq_ok, require_eq_ok,
        pure_eq_ok, exists_const] at h
      obtain ⟨-, -, rfl⟩ := h
      exact ⟨fun hfalse => absurd hfalse Bool.false_ne_true, _, .inl rfl, rfl⟩

/-- Registering a verifier keeps the roles apart: it must not be a registered partner. -/
theorem setVerifier_quiet {admin verifier : Address} {authorized : Bool}
    (h : setVerifier env admin verifier authorized s = .ok s') : Quiet s s' := by
  obtain ⟨hconflict, ttl, -, rfl⟩ := setVerifier_cases h
  rw [touch_eq, created_eq]
  refine { loans := rfl, loanCount := rfl, openLoans := rfl, config := rfl, vault := rfl,
           liquidationEngine := fun _ => id, registered := fun hreg => ⟨?_, hreg.scores⟩ }
  rintro address ⟨hpartner, hverifier⟩
  by_cases heq : address = verifier
  · subst heq
    simp only [withTtl_verifiers, Function.update_self, Option.some.injEq] at hverifier
    exact hconflict hverifier hpartner
  · simp only [withTtl_verifiers, Function.update_of_ne heq] at hverifier
    exact hreg.roles address ⟨hpartner, hverifier⟩

/-- A published score is at most a perfect one. -/
theorem setReputation_quiet {oracle : Address} {beneficiary : BytesN32} {scoreBps : ℕ}
    (h : setReputation env oracle beneficiary scoreBps s = .ok s') : Quiet s s' := by
  have hcases : (scoreBps : ℤ) ≤ BPS ∧ ∃ ttl, { s with
      reputation := Function.update s.reputation beneficiary (some scoreBps), ttl } = s' := by
    unfold setReputation at h
    simp only [bind_eq_ok, Env.requireAuth_eq_ok, require_eq_ok, orPanic_eq_ok, pure_eq_ok,
      extendInstance_eq, created_eq, touch_eq, withTtl_reputation, exists_const] at h
    obtain ⟨-, stored, -, -, hscore, rfl⟩ := h
    exact ⟨hscore, _, rfl⟩
  obtain ⟨hscore, ttl, rfl⟩ := hcases
  refine { loans := rfl, loanCount := rfl, openLoans := rfl, config := rfl, vault := rfl,
           liquidationEngine := fun _ => id, registered := fun hreg => ⟨hreg.roles, ?_⟩ }
  intro b
  by_cases heq : b = beneficiary
  · simpa [getReputation, heq] using hscore
  · simpa [getReputation, heq] using hreg.scores b

end Quiet

/-- Every call has its effect. -/
theorem exec_effect {vaults : Address → VaultClient X} {env : Env} {config : Config} {s s' : State}
    {x x' : X} {call : Call} (hsound : s.Sound config env.timestamp)
    (h : exec vaults env call s x = .ok (s', x')) : Effect vaults env config s x s' x' call := by
  cases call with
  | originate guarantor beneficiary partner principalUsd installmentCount intervalSecs =>
      obtain ⟨⟨id, s₁, x₁⟩, hok, heq⟩ := map_eq_ok.mp h
      obtain ⟨rfl, rfl⟩ := Prod.mk.inj heq
      obtain ⟨loan, horigination, -, hlock, hs'⟩ := originate_cases hsound hok
      exact ⟨loan, horigination, hlock, hs'⟩
  | attestRepayment partner verifier loanId amountUsd =>
      obtain ⟨⟨r, s₁, x₁⟩, hok, heq⟩ := map_eq_ok.mp h
      obtain ⟨rfl, rfl⟩ := Prod.mk.inj heq
      obtain ⟨loan, hchecks, -, rfl, hrel, hs'⟩ := (attestRepayment_eq_ok hsound).mp hok
      exact ⟨loan, hchecks, hrel, _, hs'⟩
  | markGrace caller loanId =>
      obtain ⟨hok, hx⟩ := onLedger_eq_ok.mp h
      obtain ⟨hauth, hengine, loan, hfound, hstatus, hlate, -, hs'⟩ :=
        (markGrace_eq_ok hsound).mp hok
      exact ⟨hx, hauth, hengine, loan, hfound, hstatus, hlate, _, hs'⟩
  | markDefaulted caller loanId =>
      obtain ⟨hok, hx⟩ := onLedger_eq_ok.mp h
      obtain ⟨hauth, hengine, loan, hfound, hstatus, hexpired, hs'⟩ := markDefaulted_eq_ok.mp hok
      exact ⟨hx, hauth, hengine, loan, hfound, hstatus, hexpired, _, hs'⟩
  | reassignPartner admin loanId partner =>
      obtain ⟨hok, hx⟩ := onLedger_eq_ok.mp h
      obtain ⟨⟨hauth, hadmin⟩, hknown, hloan⟩ := reassignPartner_cases hok
      exact ⟨hx, hauth, hadmin, hknown, hloan⟩
  | setOracle admin oracle =>
      obtain ⟨hok, hx⟩ := onLedger_eq_ok.mp h
      exact ⟨hx, setOracle_quiet hok⟩
  | setLiquidationEngine admin engine =>
      obtain ⟨hok, hx⟩ := onLedger_eq_ok.mp h
      exact ⟨hx, setLiquidationEngine_quiet hok⟩
  | setPartner admin partner authorized =>
      obtain ⟨hok, hx⟩ := onLedger_eq_ok.mp h
      exact ⟨hx, setPartner_quiet hok⟩
  | setVerifier admin verifier authorized =>
      obtain ⟨hok, hx⟩ := onLedger_eq_ok.mp h
      exact ⟨hx, setVerifier_quiet hok⟩
  | setReputation oracle beneficiary scoreBps =>
      obtain ⟨hok, hx⟩ := onLedger_eq_ok.mp h
      exact ⟨hx, setReputation_quiet hok⟩
  | scheduleAction admin action =>
      obtain ⟨hok, hx⟩ := onLedger_eq_ok.mp h
      exact ⟨hx, scheduleAction_quiet hok⟩
  | executeAction admin =>
      obtain ⟨hok, hx⟩ := onLedger_eq_ok.mp h
      exact ⟨hx, executeAction_quiet hok⟩
  | cancelAction admin =>
      obtain ⟨hok, hx⟩ := onLedger_eq_ok.mp h
      exact ⟨hx, cancelAction_quiet hok⟩
  | proposeAdmin admin newAdmin =>
      obtain ⟨hok, hx⟩ := onLedger_eq_ok.mp h
      exact ⟨hx, proposeAdmin_quiet hok⟩
  | acceptAdmin newAdmin =>
      obtain ⟨hok, hx⟩ := onLedger_eq_ok.mp h
      exact ⟨hx, acceptAdmin_quiet hok⟩
  | isOverdue loanId =>
      obtain ⟨⟨value, hview⟩, hx⟩ := onView_eq_ok.mp h
      obtain ⟨-, -, -, rfl⟩ := isOverdue_eq_ok.mp hview
      exact ⟨hx, withTtl_quiet s _⟩
  | isGraceExpired loanId =>
      obtain ⟨⟨value, hview⟩, hx⟩ := onView_eq_ok.mp h
      obtain ⟨-, -, -, rfl⟩ := isGraceExpired_eq_ok.mp hview
      exact ⟨hx, withTtl_quiet s _⟩
  | loanGuarantor loanId =>
      obtain ⟨⟨value, hview⟩, hx⟩ := onView_eq_ok.mp h
      obtain ⟨-, -, -, rfl⟩ := loanGuarantor_eq_ok.mp hview
      exact ⟨hx, withTtl_quiet s _⟩
  | loanOutstanding loanId =>
      obtain ⟨⟨value, hview⟩, hx⟩ := onView_eq_ok.mp h
      obtain ⟨-, -, -, rfl⟩ := (loanOutstanding_eq_ok hsound).mp hview
      exact ⟨hx, withTtl_quiet s _⟩
  | loanCollateralRemaining loanId =>
      obtain ⟨⟨value, hview⟩, hx⟩ := onView_eq_ok.mp h
      obtain ⟨-, -, -, rfl⟩ := (loanCollateralRemaining_eq_ok hsound).mp hview
      exact ⟨hx, withTtl_quiet s _⟩

/-! ## Contracts once registered -/

section Registered

variable {vaults : Address → VaultClient X} {env : Env} {config : Config} {s s' : State} {x x' : X}
  {call : Call}

theorem setLiquidationEngine_sets {admin engine : Address}
    (h : setLiquidationEngine env admin engine s = .ok s') :
    s'.liquidationEngine = some engine := by
  obtain ⟨-, -, -, rfl⟩ := setLiquidationEngine_eq_ok.mp h
  rfl

/-- No call replaces the vault. -/
theorem Effect.vault (h : Effect vaults env config s x s' x' call) : s'.vault = s.vault := by
  cases call with
  | originate =>
      obtain ⟨loan, -, -, ttl, rfl⟩ := h
      rfl
  | attestRepayment =>
      obtain ⟨loan, -, -, ttl, rfl⟩ := h
      rfl
  | markGrace | markDefaulted =>
      obtain ⟨-, -, -, loan, -, -, -, ttl, rfl⟩ := h
      rfl
  | reassignPartner =>
      obtain ⟨-, -, -, -, loan, -, -, ttl, rfl⟩ := h
      rfl
  | _ => exact h.2.vault

/-- No call replaces the engine. -/
theorem Effect.liquidationEngine (h : Effect vaults env config s x s' x' call) {engine : Address}
    (hengine : s.liquidationEngine = some engine) : s'.liquidationEngine = some engine := by
  cases call with
  | originate =>
      obtain ⟨loan, -, -, ttl, rfl⟩ := h
      exact hengine
  | attestRepayment =>
      obtain ⟨loan, -, -, ttl, rfl⟩ := h
      exact hengine
  | markGrace | markDefaulted =>
      obtain ⟨-, -, -, loan, -, -, -, ttl, rfl⟩ := h
      exact hengine
  | reassignPartner =>
      obtain ⟨-, -, -, -, loan, -, -, ttl, rfl⟩ := h
      exact hengine
  | _ => exact h.2.liquidationEngine engine hengine

end Registered

end RemitCollateral.LoanLedger
