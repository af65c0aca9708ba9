import RemitCollateral.Host.Registers
import RemitCollateral.Protocol.Administration
import RemitCollateral.Protocol.Replay

/-! # What the calls of the ledger rest on

The ledger trusts whom it was told to trust: the partners and verifiers the admin registers, and the
oracle that publishes scores. Nothing else in the system writes its directory, so that what a call
finds there is the last word of the run on the matter: a revocation takes effect on the next call
and holds until the admin takes it back. -/

namespace RemitCollateral.LoanLedger

open Soroban
open Soroban.Machine (about)

/-! ## The listings of the directory -/

/-- The directory of a ledger nobody has told anything. -/
def Directory.empty : Directory where
  oracle := none
  partners _ := none
  verifiers _ := none
  reputation _ := none

/-- The constructor leaves the directory empty. -/
theorem construct_directory {env : Env} {admin vault : Address} {config : Config}
    {timelockSecs : ℕ} {s : State} (h : construct env admin vault config timelockSecs = .ok s) :
    s.directory = .empty := by
  simp only [construct, extendInstance_eq, bind_eq_ok, require_eq_ok, pure_eq_ok,
    exists_const] at h
  obtain ⟨-, rfl⟩ := h
  rfl

/-- A part of the directory, with what each call announces for it. -/
structure Listing (κ β : Type) [DecidableEq κ] where
  entry : Directory → κ → Option β
  word : Call → Option (κ × β)
  empty : ∀ k, entry .empty k = none
  announce : ∀ call directory k,
    entry (call.announce directory) k = (about k (word call)).or (entry directory k)

namespace Listing

/-- The oracle that may publish scores. -/
def oracle : Listing Unit Address where
  entry directory _ := directory.oracle
  word
    | .setOracle _ oracle => some ((), oracle)
    | _ => none
  empty _ := rfl
  announce call directory k := by cases call <;> rfl

/-- The servicing partners. -/
def partners : Listing Address Bool where
  entry := fun directory => directory.partners
  word
    | .setPartner _ partner authorized => some (partner, authorized)
    | _ => none
  empty _ := rfl
  announce call directory k := by
    cases call with
    | setPartner admin partner authorized => exact Machine.update_eq_about _ partner authorized k
    | _ => rfl

/-- The verifiers of repayments. -/
def verifiers : Listing Address Bool where
  entry := fun directory => directory.verifiers
  word
    | .setVerifier _ verifier authorized => some (verifier, authorized)
    | _ => none
  empty _ := rfl
  announce call directory k := by
    cases call with
    | setVerifier admin verifier authorized => exact Machine.update_eq_about _ verifier authorized k
    | _ => rfl

/-- The scores of the beneficiaries. -/
def reputation : Listing BytesN32 ℕ where
  entry directory := directory.reputation
  word
    | .setReputation _ beneficiary scoreBps => some (beneficiary, scoreBps)
    | _ => none
  empty _ := rfl
  announce call directory k := by
    cases call with
    | setReputation oracle beneficiary scoreBps =>
        exact Machine.update_eq_about _ beneficiary scoreBps k
    | _ => rfl

end Listing

end RemitCollateral.LoanLedger

namespace RemitCollateral.Protocol

open Soroban
open Soroban.Machine (about lastWord)
open LoanLedger (Listing Loan)

variable {T : Type} {d : Deployment} {tokens : Address → GuarantorVault.TokenClient T}
  {tok : GuarantorVault.StandardToken T} {origin : Origin} {clock : Clock} {s s' : System T}

/-! ## Last words of a run -/

section Words

variable {κ β : Type} [DecidableEq κ] (listing : Listing κ β)

/-- What an input of a run announces for a listing. -/
def Input.word (_ : Clock) (_ : System T) (input : Input T) : Option (κ × β) :=
  input.onLedger.bind listing.word

/-- The last word of a run on `k`. -/
def lastListed (k : κ) (history : List (Transition (System T) (Input T))) : Option β :=
  lastWord (Input.word listing) k history

/-- Deployment leaves the directory empty. -/
theorem deploy_directory {script : Script} {token : T} (h : deploy d script token = some s) :
    s.ledger.directory = .empty := by
  simp only [deploy, Option.bind_eq_bind, Option.bind_eq_some_iff, outcome_eq_some,
    Option.some.injEq] at h
  obtain ⟨ledger, hledger, -, -, -, -, ledger', hledger', rfl⟩ := h
  obtain ⟨-, -, -, rfl⟩ := LoanLedger.setLiquidationEngine_eq_ok.mp hledger'
  show ledger.directory = _
  exact LoanLedger.construct_directory hledger

variable (d tokens tok) in
/-- The directory is a register of what the ledger is told. -/
theorem listing_registers : (machine d tokens tok).Registers (Input.word listing)
    (fun s => listing.entry s.ledger.directory) where
  initial := by
    intro s hinitial k
    obtain ⟨script, token, -, hdeploy⟩ := hinitial
    rw [deploy_directory hdeploy]
    exact listing.empty k
  act := by
    intro clock s input s' hreach hact k
    have hsound : s.Sound d tokens tok clock.timestamp := .of_reachable hreach
    cases input with
    | moveTokens token =>
        obtain ⟨-, rfl⟩ := hact
        rfl
    | call origin call =>
        obtain ⟨-, hok, -⟩ := hact
        rw [exec_directory hsound hok]
        cases call with
        | ledger call => exact listing.announce call s.ledger.directory k
        | vault | engine => rfl

end Words

/-! ## The partner that services a loan -/

/-- The partner that an event puts a loan with. -/
def LoanEvent.partner : LoanEvent → Option Address
  | opened loan => some loan.partner
  | reassigned partner => some partner
  | repaid _ | cranked => none

/-- A crank leaves a loan with its partner. -/
@[simp] theorem cranked_partner (config : LoanLedger.Config) (now : ℕ) (loan : Loan) :
    (cranked config now loan).partner = loan.partner := by
  unfold cranked
  split
  · rfl
  · split <;> rfl

/-- A loan stays with its partner until an event puts it with another. -/
theorem LoanEvent.partner_apply {config : LoanLedger.Config} {now : ℕ} {event : LoanEvent}
    {entry : Option Loan} (h : event.Happens now entry) :
    (event.apply config now entry).map Loan.partner =
      event.partner.or (entry.map Loan.partner) := by
  cases event with
  | opened loan => rfl
  | repaid amountUsd => cases entry <;> rfl
  | reassigned partner =>
      cases entry with
      | none => exact h.elim
      | some loan => rfl
  | cranked =>
      cases entry with
      | none => rfl
      | some loan => exact congrArg some (cranked_partner config now loan)

/-- Which loan an input of a run puts with a partner, and with whom. -/
def Input.placement (config : LoanLedger.Config) (clock : Clock) (s : System T) :
    Input T → Option (ℕ × Address)
  | .call _ made => (made.loanEvent config clock s).bind fun event =>
      event.2.partner.map fun partner => (event.1, partner)
  | .moveTokens _ => none

/-- What an input tells of the partner of a loan. -/
theorem about_placement (config : LoanLedger.Config) (id : ℕ) (input : Input T) :
    about id (input.placement config clock s) =
      (input.loanEvent config id clock s).bind fun event => event.2.partner := by
  cases input with
  | moveTokens token => rfl
  | call origin call =>
      rw [Input.placement, Input.loanEvent]
      cases call.loanEvent config clock s with
      | none => rfl
      | some event =>
          obtain ⟨loanId, event⟩ := event
          rw [Option.bind_some, Option.bind_some, Machine.about_map]
          by_cases hid : loanId = id
          · rw [if_pos hid, if_pos hid]
            rfl
          · rw [if_neg hid, if_neg hid]
            rfl

variable (d tokens tok) in
/-- The partners of the loans are a register. -/
theorem placement_registers : (machine d tokens tok).Registers (Input.placement d.config)
    (fun s id => (s.loans id).map Loan.partner) where
  initial := by
    intro s hinitial id
    obtain ⟨script, token, htok, hdeploy⟩ := hinitial
    obtain ⟨-, hloans, -⟩ := deploy_cases s.now htok hdeploy
    rw [System.loans, hloans]
    rfl
  act := by
    intro clock s input s' hreach hact id
    rw [about_placement]
    cases input with
    | moveTokens token =>
        obtain ⟨-, rfl⟩ := hact
        rfl
    | call origin call =>
        have hlives := call_lives (.of_reachable hreach) hact.1 hact.2.1 id
        cases hevent : (Input.call origin call : Input T).loanEvent d.config id clock s with
        | none =>
            rw [hevent] at hlives
            have hsame : s.loans id = s'.loans id := hlives
            rw [hsame]
            rfl
        | some event =>
            rw [hevent] at hlives
            obtain ⟨-, hhappens, happly⟩ := hlives
            rw [← happly]
            exact LoanEvent.partner_apply hhappens

/-- The partner a run last put a loan with. -/
def lastPartner (config : LoanLedger.Config) (id : ℕ)
    (history : List (Transition (System T) (Input T))) : Option Address :=
  lastWord (Input.placement config) id history

/-! ## What a call rests on -/

/-- What a call of the ledger in `env` rests on when it comes as `t`, after `older`. -/
def RestsOn (d : Deployment) (env : Env) (t : Transition (System T) (Input T))
    (older : List (Transition (System T) (Input T))) : LoanLedger.Call → Prop
  | .originate guarantor beneficiary partner principalUsd installmentCount intervalSecs =>
      env.authorized guarantor ∧ lastListed .partners partner older = some true ∧
      ∃ loan, t.post.state.loans loan.id = some loan ∧
        loan = Loan.opening env.timestamp (LoanLedger.getLoanCount t.pre.state.ledger + 1) guarantor
          beneficiary partner principalUsd
          (d.config.ltvFor ((lastListed .reputation beneficiary older).getD 0)) installmentCount
          intervalSecs
  | .attestRepayment partner verifier loanId _ =>
      env.authorized partner ∧ env.authorized verifier ∧ verifier ≠ partner ∧
      lastPartner d.config loanId older = some partner ∧
      lastListed .partners partner older = some true ∧
      lastListed .verifiers verifier older = some true
  | .reassignPartner admin _ partner =>
      env.authorized admin ∧ t.pre.state.ledger.governance.admin = some admin ∧
      lastListed .partners partner older = some true
  | .setReputation oracle _ _ =>
      env.authorized oracle ∧ lastListed .oracle () older = some oracle
  | .setOracle admin _ | .setPartner admin _ _ | .setVerifier admin _ _ =>
      env.authorized admin ∧ t.pre.state.ledger.governance.admin = some admin
  | _ => True

section Transitions

variable {newer older : List (Transition (System T) (Input T))}
  {t : Transition (System T) (Input T)} {z : Timed (System T)} {call : LoanLedger.Call}

/-- A call of the ledger found in storage what the last words before it were. -/
theorem found_last_words {κ β : Type} [DecidableEq κ] (listing : Listing κ β)
    (hrun : (machine d tokens tok).Run (newer ++ t :: older) z) (k : κ) :
    listing.entry t.pre.state.ledger.directory k = lastListed listing k older :=
  (listing_registers d tokens tok listing).entry_before hrun k

/-- **Calls.** Every call of the ledger in a run rests on the last words before it. -/
theorem call_rests (hrun : (machine d tokens tok).Run (newer ++ t :: older) z)
    (hcall : t.call = some (.call origin (.ledger call))) :
    RestsOn d (origin.env t.pre.clock d.ledger) t older call := by
  -- the state before the call, and what the call did
  obtain ⟨hreach, hstep⟩ := hrun.step_of_mem (List.mem_append_right newer List.mem_cons_self)
  have hpartners := found_last_words .partners hrun
  have hverifiers := found_last_words .verifiers hrun
  have hreputation := found_last_words .reputation hrun
  have horacle := found_last_words .oracle hrun
  have hplacement := (placement_registers d tokens tok).entry_before hrun
  obtain ⟨pre, input, post⟩ := t
  obtain rfl : input = some (.call origin (.ledger call)) := hcall
  cases hstep with
  | @call clock s s' _ acts =>
      obtain ⟨-, hok, -⟩ := acts
      obtain ⟨⟨l', w'⟩, hresult, rfl⟩ := Option.map_eq_some_iff.mp hok
      have hsound : s.Sound d tokens tok clock.timestamp := .of_reachable hreach
      have hledger : s.ledger.Sound d.config (origin.env clock d.ledger).timestamp := hsound.ledger
      have heffect := LoanLedger.exec_effect hledger (outcome_eq_some.mp hresult)
      have hannounced := LoanLedger.exec_announced (outcome_eq_some.mp hresult)
      cases call with
      | originate guarantor beneficiary partner principalUsd installmentCount intervalSecs =>
          obtain ⟨loan, hchecks, -, ttl, rfl⟩ := heffect
          refine ⟨hchecks.signed, (hpartners partner).symm.trans hchecks.registered, loan, ?_, ?_⟩
          · show Function.update s.ledger.loans loan.id (some loan) loan.id = some loan
            rw [Function.update_self]
          · rw [← hreputation beneficiary]
            exact hchecks.opens
      | attestRepayment partner verifier loanId amountUsd =>
          obtain ⟨loan, hchecks, -⟩ := heffect
          have hplaced : lastPartner d.config loanId older = some partner := by
            rw [lastPartner, ← hplacement loanId, hchecks.own]
            show (s.ledger.loans loanId).map Loan.partner = _
            rw [hchecks.found]
            rfl
          exact ⟨hchecks.partner_signed, hchecks.verifier_signed, hchecks.distinct, hplaced,
            (hpartners partner).symm.trans hchecks.partner_registered,
            (hverifiers verifier).symm.trans hchecks.verifier_registered⟩
      | reassignPartner admin loanId partner =>
          obtain ⟨-, hsigned, hadmin, hregistered, -⟩ := heffect
          exact ⟨hsigned, hadmin, (hpartners partner).symm.trans hregistered⟩
      | setReputation oracle beneficiary scoreBps =>
          obtain ⟨hsigned, hstored⟩ := hannounced
          exact ⟨hsigned, (horacle ()).symm.trans hstored⟩
      | setOracle | setPartner | setVerifier => exact hannounced
      | _ => trivial

end Transitions

/-- **Trust.** Where a run ends the ledger answers for partners, verifiers and scores with the last
word on each, and every call the ledger has accepted on the way rested on the last words before
it. -/
theorem trusts_last_word {history : List (Transition (System T) (Input T))} {s : Timed (System T)}
    (hrun : (machine d tokens tok).Run history s) :
    (∀ partner, LoanLedger.isPartner partner s.state.ledger =
      (lastListed .partners partner history).getD false) ∧
    (∀ verifier, LoanLedger.isVerifier verifier s.state.ledger =
      (lastListed .verifiers verifier history).getD false) ∧
    (∀ beneficiary, LoanLedger.getReputation beneficiary s.state.ledger =
      (lastListed .reputation beneficiary history).getD 0) ∧
    ∀ newer t older, newer ++ t :: older = history → ∀ origin call,
      t.call = some (.call origin (.ledger call)) →
        RestsOn d (origin.env t.pre.clock d.ledger) t older call := by
  have hentry : ∀ {κ β : Type} [DecidableEq κ] (listing : Listing κ β) (k : κ),
      listing.entry s.state.ledger.directory k = lastListed listing k history :=
    fun listing k => (listing_registers d tokens tok listing).entry_eq hrun k
  refine ⟨?_, ?_, ?_, ?_⟩
  · intro partner
    rw [← hentry]
    rfl
  · intro verifier
    rw [← hentry]
    rfl
  · intro beneficiary
    rw [← hentry]
    rfl
  · rintro newer t older rfl origin call hcall
    exact call_rests hrun hcall

/-- A partner that was revoked and registered anew attests a repayment. -/
theorem trusts_last_word_registeredAnew : ∃ t older, sampleMachine.Run (t :: older) t.post ∧
    lastListed .partners ⟨5⟩ older = some true ∧ lastListed .verifiers ⟨6⟩ older = some true ∧
    LoanLedger.isPartner ⟨5⟩ t.post.state.ledger = true := by
  let repayment : LoanLedger.Call := .attestRepayment ⟨5⟩ ⟨6⟩ 1 30
  obtain ⟨history, s, hrun, hlast, hword⟩ := exists_run_of_playLoan
    (P := fun history _ => (history.head?.bind fun t => t.call.bind Input.onLedger) =
      some repayment ∧ lastListed .partners ⟨5⟩ history = some true)
    (show (playLoan [(0, .ledger (.setPartner ⟨1⟩ ⟨5⟩ false)),
      (0, .ledger (.setPartner ⟨1⟩ ⟨5⟩ true)), (0, .ledger repayment)]).any _ = true
        by decide +kernel)
  obtain ⟨t, hhead, hcall⟩ := Option.bind_eq_some_iff.mp hlast
  obtain ⟨input, hinput, hledger⟩ := Option.bind_eq_some_iff.mp hcall
  obtain ⟨origin, rfl⟩ := onLedger_eq_some.mp hledger
  obtain ⟨older, rfl⟩ := List.head?_eq_some_iff.mp hhead
  -- what the repayment rested on
  obtain ⟨-, -, -, hrests⟩ := trusts_last_word hrun
  obtain ⟨-, -, -, -, hregistered, hverifier⟩ := hrests [] t older rfl origin repayment hinput
  -- what the ledger answers after it
  have hwhole : sampleMachine.Run ([] ++ t :: older) s := hrun
  have hends : sampleMachine.Run (t :: older) t.post := hwhole.split
  obtain ⟨hanswer, -⟩ := trusts_last_word hends
  refine ⟨t, older, hends, hregistered, hverifier, ?_⟩
  rw [hanswer, hword]
  rfl

end RemitCollateral.Protocol
