import RemitCollateral.Protocol.Moves

/-! # Runs of the wired system

The script leaves a wired system with no loans and nothing published, every call is a move, and so
every reachable state keeps the invariants of the three contracts and every run moves a book of
loans. -/

namespace RemitCollateral.Protocol

open Soroban
open GuarantorVault (Posting Posts)

variable {T : Type} {d : Deployment} {tokens : Address → GuarantorVault.TokenClient T}
  {tok : GuarantorVault.StandardToken T} {origin : Origin} {clock : Clock} {s s' : System T}

/-- The loans of a system. -/
def System.loans (s : System T) : LoanLedger.LoanBook := s.ledger.loans

/-- The book after a loan was recorded. -/
theorem loans_record {now id : ℕ} {loan loan' : LoanLedger.Loan} (h : s.ledger.Sound d.config now)
    (hfound : s.ledger.loans id = some loan)
    (hrecord : ∃ ttl, s.ledger.record loan' ttl = s'.ledger) (hid : loan'.id = loan.id) :
    s'.loans = Function.update s.loans id (some loan') := by
  obtain ⟨ttl, hrecord⟩ := hrecord
  rw [h.keyed _ _ hfound] at hid
  rw [System.loans, ← hrecord, ← hid]
  rfl

/-- The book after a loan was opened. -/
theorem loans_open {loan : LoanLedger.Loan} (hopen : ∃ ttl, s.ledger.open loan ttl = s'.ledger) :
    s'.loans = Function.update s.loans loan.id (some loan) := by
  obtain ⟨ttl, hopen⟩ := hopen
  rw [System.loans, ← hopen]
  rfl

/-- What the script leaves. -/
theorem deploy_cases (now : ℕ) {script : Script} {token : T}
    (htok : tokens script.usdc = tok.client) (h : deploy d script token = some s) :
    s.Sound d tokens tok now ∧ s.ledger.loans = (fun _ => none) ∧
      (∀ g, s.world.vault.collateralBalance g = 0 ∧ s.world.vault.lockedAmount g = 0) ∧
      s.world.vault.postings = [] := by
  simp only [deploy, Option.bind_eq_bind, Option.bind_eq_some_iff, outcome_eq_some,
    Option.some.injEq] at h
  obtain ⟨ledger₁, hledger₁, vault₁, hvault₁, vault₂, hvault₂, ledger₂, hledger₂, rfl⟩ := h
  obtain ⟨hsound₁, hloans₁, haddress₁, -⟩ := LoanLedger.State.Sound.construct now hledger₁
  -- the wiring calls are quiet: the constructors' fresh storage is what counts
  have hquiet := LoanLedger.setLiquidationEngine_quiet hledger₂
  have hquiet₁ := GuarantorVault.setLoanLedger_quiet hvault₁
  have hquiet₂ := GuarantorVault.setLiquidationEngine_quiet hvault₂
  have hfresh : GuarantorVault.Solvent tokens tok d.vault ⟨GuarantorVault.construct
      (script.origin.env (script.clock 0) d.vault) script.admin script.usdc script.settlement
      script.timelockSecs, token⟩ := .construct htok
  have hsolvent₁ : GuarantorVault.Solvent tokens tok d.vault ⟨vault₁, token⟩ :=
    hfresh.quiet hquiet₁ rfl
  have hsolvent₂ : GuarantorVault.Solvent tokens tok d.vault ⟨vault₂, token⟩ :=
    hsolvent₁.quiet hquiet₂ rfl
  refine ⟨{ wired := ?_, solvent := hsolvent₂, ledger := hsound₁.quiet hquiet },
    hquiet.loans.trans hloans₁, fun g => ?_, ?_⟩
  · exact { engineVault := rfl
            engineLedger := rfl
            ledgerVault := hquiet.vault.trans haddress₁
            ledgerEngine := LoanLedger.setLiquidationEngine_sets hledger₂
            vaultLedger := hquiet₂.loanLedger _ (GuarantorVault.setLoanLedger_sets hvault₁)
            vaultEngine := GuarantorVault.setLiquidationEngine_sets hvault₂ }
  · rw [hquiet₂.collateralBalance, hquiet₁.collateralBalance, hquiet₂.lockedAmount,
      hquiet₁.lockedAmount]
    exact ⟨rfl, rfl⟩
  · rw [GuarantorVault.State.postings, hquiet₂.events, hquiet₁.events]
    rfl

/-- **Invariant.** Every reachable state keeps the invariants of the three contracts. -/
theorem System.Sound.of_reachable {s : Timed (System T)} (h : (machine d tokens tok).Reachable s) :
    s.state.Sound d tokens tok s.now := by
  refine Machine.Reachable.invariant (I := fun s => s.state.Sound d tokens tok s.now) ?_ ?_ ?_ h
  · rintro s ⟨script, token, htok, hdeploy⟩
    exact (deploy_cases s.now htok hdeploy).1
  · exact fun c c' s hle h => { h with ledger := h.ledger.mono hle.1 }
  · rintro clock s (⟨origin, call⟩ | token) s' hact h
    · exact (exec_moves h hact.1 hact.2.1).2
    · obtain ⟨hle, rfl⟩ := hact
      exact { wired := { h.wired with }
              solvent := h.solvent.moveTokens hle
              ledger := h.ledger }

/-! ## The book of loans -/

/-- Every move of the system moves each loan by at most one step. -/
theorem Moves.entryStep (h : s.Sound d tokens tok clock.timestamp) {call : Call}
    (hmoves : Moves d origin clock s s' call) (id : ℕ) :
    LoanLedger.EntryStep d.config clock.timestamp id (s.loans id) (s'.loans id) := by
  have hledger := h.ledger
  unfold System.loans
  cases hmoves with
  | quiet hquiet =>
      rw [hquiet.loans]
      exact .refl _
  | deposit _ _ hsame | withdraw _ _ hsame =>
      rw [hsame]
      exact .refl _
  | originate hchecks hpos hopen =>
      obtain ⟨ttl, hopen⟩ := hopen
      rw [← hopen]
      exact LoanLedger.open_entryStep hledger (hchecks.opened hpos) (hchecks.opens ▸ rfl) ttl id
  | reassign _ hfound hopen hrecord =>
      obtain ⟨ttl, hrecord⟩ := hrecord
      rw [← hrecord]
      exact LoanLedger.record_entryStep hledger hfound (.reassign _ hopen) ttl id
  | attest hchecks hrecord =>
      obtain ⟨ttl, hrecord⟩ := hrecord
      rw [← hrecord]
      exact LoanLedger.record_entryStep hledger hchecks.found
        (.repay _ hchecks.isOpen hchecks.pos hchecks.le) ttl id
  | flag _ _ hfound hstatus hlate hrecord =>
      obtain ⟨ttl, hrecord⟩ := hrecord
      rw [← hrecord]
      exact LoanLedger.record_entryStep hledger hfound (.flag hstatus hlate) ttl id
  | settle _ _ hfound hstatus hexpired hrecord =>
      obtain ⟨ttl, hrecord⟩ := hrecord
      rw [← hrecord]
      exact LoanLedger.record_entryStep hledger hfound (.default hstatus hexpired) ttl id

/-- The runs of the system move a book of loans. -/
theorem machine_books (d : Deployment) (tokens : Address → GuarantorVault.TokenClient T)
    (tok : GuarantorVault.StandardToken T) :
    LoanLedger.Books (machine d tokens tok) d.config System.loans where
  accepted := by
    rintro s ⟨script, token, htok, hdeploy⟩
    exact (deploy_cases s.now htok hdeploy).1.ledger.accepted
  initial := by
    rintro s ⟨script, token, htok, hdeploy⟩ id
    exact congrFun (deploy_cases s.now htok hdeploy).2.1 id
  act := by
    rintro c s (⟨origin, call⟩ | token) s' hreach hact id
    · have hsound := System.Sound.of_reachable hreach
      exact (exec_moves hsound hact.1 hact.2.1).1.entryStep hsound id
    · obtain ⟨-, rfl⟩ := hact
      exact .refl _

/-! ## Playing a run -/

/-- A system whose token keeps a table of balances. -/
abbrev TableSystem := System (Address → ℕ)

/-- An input of such a system. -/
abbrev TableInput := Input (Address → ℕ)

/-- Act on a system whose token keeps a table of balances. -/
def next (d : Deployment) (clock : Clock) (s : TableSystem) : TableInput → Option TableSystem
  | .call origin call =>
      if d.External origin then
        (exec d (fun _ => GuarantorVault.tableToken.client) origin clock s call).filter
          fun s' => s'.Original
      else none
  | .moveTokens token =>
      if s.world.token d.vault ≤ token d.vault then some { s with world := { s.world with token } }
      else none

/-- The deployment the runs below are played on, with the deploy script's configuration. -/
def sample : Deployment where
  vault := ⟨10⟩
  ledger := ⟨11⟩
  engine := ⟨12⟩
  config := LoanLedger.deployConfig

/-- The machine of the played runs. -/
abbrev sampleMachine : Machine TableSystem TableInput :=
  machine sample (fun _ => GuarantorVault.tableToken.client) GuarantorVault.tableToken

/-- Who signs the calls of the played runs: admin, guarantor, partner and verifier. -/
def sampleOrigin : Origin where
  invoker := none
  signers := [⟨1⟩, ⟨4⟩, ⟨5⟩, ⟨6⟩]
  minPersistentTtl := 0

/-- Deploy, and make calls, each at its own clock. -/
def play (script : Script) (token : Address → ℕ) (inputs : List (Clock × TableInput)) :
    Option (List (Transition TableSystem TableInput) × Timed TableSystem) := do
  let s ← deploy sample script token
  Machine.replay (next sample) inputs ([], ⟨⟨0, 0⟩, s⟩)

/-- What was played is a run. -/
theorem play_run {script : Script} {token : Address → ℕ} {inputs : List (Clock × TableInput)}
    {run : List (Transition TableSystem TableInput) × Timed TableSystem}
    (h : play script token inputs = some run) : sampleMachine.Run run.1 run.2 := by
  simp only [play, Option.bind_eq_bind, Option.bind_eq_some_iff] at h
  obtain ⟨s, hdeploy, hreplay⟩ := h
  have hstart : sampleMachine.Run [] ⟨⟨0, 0⟩, s⟩ := .start ⟨_, _, rfl, hdeploy⟩
  refine hstart.replay (fun c s input s' hnext => ?_) hreplay
  cases input with
  | call origin call =>
      obtain ⟨hexternal, hok⟩ := Option.ite_none_right_eq_some.mp hnext
      obtain ⟨hok, horiginal⟩ := Option.filter_eq_some_iff.mp hok
      exact ⟨hexternal, hok, of_decide_eq_true horiginal⟩
  | moveTokens token =>
      obtain ⟨hle, hs'⟩ := Option.ite_none_right_eq_some.mp hnext
      exact ⟨Int.ofNat_le.mpr hle, Option.some.inj hs'⟩

/-- What is checked of a played run holds of a run. -/
theorem exists_run_of_play
    {P : List (Transition TableSystem TableInput) → Timed TableSystem → Prop}
    [∀ history s, Decidable (P history s)] {script : Script} {token : Address → ℕ}
    {inputs : List (Clock × TableInput)}
    (h : (play script token inputs).any (fun run => P run.1 run.2) = true) :
    ∃ history s, sampleMachine.Run history s ∧ P history s := by
  obtain ⟨run, hplayed, hchecked⟩ := Option.any_eq_true _ _ |>.mp h
  exact ⟨run.1, run.2, play_run hplayed, of_decide_eq_true hchecked⟩

/-- Deploy, register a partner and a verifier, deposit 1000, open one loan of 120 in three daily
installments at time 0, and make the calls that come later, each at its own time. Addresses: 1
admin, 2 settlement, 3 token, 4 guarantor, 5 partner, 6 verifier. -/
def playLoan (later : List (ℕ × Call)) :
    Option (List (Transition TableSystem TableInput) × Timed TableSystem) := do
  let script : Script :=
    { admin := ⟨1⟩, usdc := ⟨3⟩, settlement := ⟨2⟩, timelockSecs := 0, origin := sampleOrigin
      clock := fun _ => ⟨0, 0⟩ }
  let token : Address → ℕ := fun a => if a = ⟨4⟩ then 1000 else 0
  let opening : List (ℕ × Call) :=
    [(0, .ledger (.setPartner ⟨1⟩ ⟨5⟩ true)), (0, .ledger (.setVerifier ⟨1⟩ ⟨6⟩ true)),
      (0, .vault (.deposit ⟨4⟩ 1000)), (0, .ledger (.originate ⟨4⟩ 7 ⟨5⟩ 120 3 86400))]
  let s ← deploy sample script token
  Machine.replay (next sample)
    ((opening ++ later).map fun call => (⟨call.1, 0⟩, .call sampleOrigin call.2)) ([], ⟨⟨0, 0⟩, s⟩)

/-- What is checked of a played run holds of a run. -/
theorem exists_run_of_playLoan
    {P : List (Transition TableSystem TableInput) → Timed TableSystem → Prop}
    [∀ history s, Decidable (P history s)] {later : List (ℕ × Call)}
    (h : (playLoan later).any (fun run => P run.1 run.2) = true) :
    ∃ history s, sampleMachine.Run history s ∧ P history s :=
  exists_run_of_play h

end RemitCollateral.Protocol
