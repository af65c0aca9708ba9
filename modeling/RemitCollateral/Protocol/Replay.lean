import RemitCollateral.Protocol.PledgeBook

/-! # What a loan has been through

A loan has a life of its own. Of all that happens in the system only its origination, its
repayments, its reassignments and the cranks that name it concern its record, and what they make of
it depends on the record and the time alone. The record at the end of a run can be recomputed from
these events. -/

namespace RemitCollateral.Protocol

open Soroban
open LoanLedger (Loan)

/-! ## The life of one loan -/

/-- What can happen to a loan. -/
inductive LoanEvent
  | opened (loan : Loan)
  | repaid (amountUsd : ℤ)
  | reassigned (partner : Address)
  | cranked
  deriving DecidableEq, Repr

namespace LoanEvent

/-- What an event at time `now` makes of a loan. -/
def apply (config : LoanLedger.Config) (now : ℕ) : LoanEvent → Option Loan → Option Loan
  | opened loan, _ => some loan
  | repaid amountUsd, entry => entry.map (Loan.repay config now amountUsd)
  | reassigned partner, entry => entry.map fun loan => { loan with partner }
  | cranked, entry => entry.map (Protocol.cranked config now)

/-- Whether an event can happen to a loan at time `now`. -/
def Happens (now : ℕ) : LoanEvent → Option Loan → Prop
  | opened loan, none => loan.Opened now
  | repaid amountUsd, some loan => loan.isOpen = true ∧ 0 < amountUsd ∧
      loan.totalRepaidUsd + amountUsd ≤ loan.principalUsd
  | reassigned _, some loan => loan.isOpen = true
  | cranked, some _ => True
  | _, _ => False

end LoanEvent

/-- The life of one loan, with the time of each event. -/
def loanMachine (config : LoanLedger.Config) : Machine (Option Loan) (ℕ × LoanEvent) where
  initial s := s.state = none
  act clock entry event entry' := event.1 = clock.timestamp ∧ event.2.Happens event.1 entry ∧
    event.2.apply config event.1 entry = entry'

/-- The record that a list of events (latest first) leaves. -/
def recordAfter (config : LoanLedger.Config) (events : List (ℕ × LoanEvent)) : Option Loan :=
  events.foldr (fun event => event.2.apply config event.1) none

/-- A life ends in the record its events leave. -/
theorem recordAfter_of_run {config : LoanLedger.Config}
    {life : List (Transition (Option Loan) (ℕ × LoanEvent))} {s : Timed (Option Loan)}
    (hlife : (loanMachine config).Run life s) :
    recordAfter config (life.filterMap Transition.call) = s.state := by
  induction hlife with
  | start initial => exact initial.symm
  | step run step ih =>
      cases step with
      | tick => exact ih
      | @call clock entry entry' event acts =>
          obtain ⟨-, -, happly⟩ := acts
          have hbefore : recordAfter config (_ : List (ℕ × LoanEvent)) = entry := ih
          show event.2.apply config event.1 (recordAfter config _) = entry'
          rw [hbefore, happly]

/-! ## The events of a run -/

variable {T : Type} {d : Deployment} {tokens : Address → GuarantorVault.TokenClient T}
  {tok : GuarantorVault.StandardToken T} {origin : Origin} {clock : Clock} {s s' : System T}

/-- Which loan a call concerns, and how. A poke that the paused engine declines concerns none. -/
def Call.loanEvent (config : LoanLedger.Config) (clock : Clock) (s : System T) :
    Call → Option (ℕ × LoanEvent)
  | .ledger (.originate guarantor beneficiary partner principalUsd installmentCount intervalSecs) =>
      let id := LoanLedger.getLoanCount s.ledger + 1
      some (id, .opened (Loan.opening clock.timestamp id guarantor beneficiary partner principalUsd
        (config.ltvFor (LoanLedger.getReputation beneficiary s.ledger)) installmentCount
        intervalSecs))
  | .ledger (.attestRepayment _ _ loanId amountUsd) => some (loanId, .repaid amountUsd)
  | .ledger (.reassignPartner _ loanId newPartner) => some (loanId, .reassigned newPartner)
  | .engine (.flagOverdue loanId) => some (loanId, .cranked)
  | .engine (.liquidate loanId) => some (loanId, .cranked)
  | .engine (.poke loanId) =>
      if LiquidationEngine.paused s.engine = false then some (loanId, .cranked) else none
  | _ => none

/-- What an input of a run means for one loan. -/
def Input.loanEvent (config : LoanLedger.Config) (id : ℕ) (clock : Clock) (s : System T) :
    Input T → Option (ℕ × LoanEvent)
  | .call _ made => (made.loanEvent config clock s).bind fun event =>
      if event.1 = id then some (clock.timestamp, event.2) else none
  | .moveTokens _ => none

/-- The call that an input makes of the ledger. -/
def Input.onLedger : Input T → Option LoanLedger.Call
  | .call _ (.ledger made) => some made
  | _ => none

theorem onLedger_eq_some {input : Input T} {call : LoanLedger.Call} :
    input.onLedger = some call ↔ ∃ origin, input = .call origin (.ledger call) := by
  constructor
  · intro h
    cases input with
    | moveTokens token => cases h
    | call origin made =>
        cases made with
        | ledger made =>
            obtain rfl := Option.some.inj h
            exact ⟨origin, rfl⟩
        | vault | engine => cases h
  · rintro ⟨origin, rfl⟩
    rfl

section Calls

variable {call : Call} {loanId : ℕ} {event : LoanEvent}

/-- A call that makes one event of one loan moves the life of every loan by what it means. -/
theorem follows_event (hcall : call.loanEvent d.config clock s = some (loanId, event))
    (hhappens : event.Happens clock.timestamp (s.loans loanId))
    (hloans : s'.loans = Function.update s.loans loanId
      (event.apply d.config clock.timestamp (s.loans loanId))) (id : ℕ) :
    (loanMachine d.config).Follows clock (s.loans id)
      ((Input.call origin call : Input T).loanEvent d.config id clock s) (s'.loans id) := by
  rw [Input.loanEvent, hcall, Option.bind_some, hloans]
  by_cases hid : loanId = id
  · rw [if_pos hid, ← hid, Function.update_self]
    exact ⟨rfl, hhappens, rfl⟩
  · rw [if_neg hid, Function.update_of_ne (Ne.symm hid)]
    rfl

/-- A call that is not about loans leaves them alone. -/
theorem follows_nothing (hcall : call.loanEvent d.config clock s = none)
    (hloans : s'.loans = s.loans) (id : ℕ) :
    (loanMachine d.config).Follows clock (s.loans id)
      ((Input.call origin call : Input T).loanEvent d.config id clock s) (s'.loans id) := by
  rw [Input.loanEvent, hcall, hloans]
  rfl

/-- A crank moves the life of its loan. -/
theorem follows_crank {loan : Loan}
    (hcall : call.loanEvent d.config clock s = some (loanId, .cranked))
    (hfound : s.loans loanId = some loan)
    (hloans : s'.loans =
      Function.update s.loans loanId (some (cranked d.config clock.timestamp loan))) (id : ℕ) :
    (loanMachine d.config).Follows clock (s.loans id)
      ((Input.call origin call : Input T).loanEvent d.config id clock s) (s'.loans id) := by
  refine follows_event hcall ?_ ?_ id
  · rw [hfound]
    trivial
  · rw [hfound]
    exact hloans

/-- What an operation that the engine runs means for its loan. -/
theorem loanEvent_of_crank {op op' : Operation} {value value' value'' : Returned}
    (hcrank : (op = op' ∧ value = value') ∨ (op = .poke loanId ∧ value = value''))
    (hcall : op'.call.loanEvent d.config clock s = some (loanId, .cranked))
    (hrunning : LiquidationEngine.paused s.engine = false) :
    op.call.loanEvent d.config clock s = some (loanId, .cranked) := by
  rcases hcrank with ⟨rfl, -⟩ | ⟨rfl, -⟩
  · exact hcall
  · exact if_pos hrunning

/-- An operation moves the life of its loan. -/
theorem operation_lives (h : s.Settled d tokens tok clock) (op : Operation)
    (hok : exec d tokens origin clock s op.call = some s') (id : ℕ) :
    (loanMachine d.config).Follows clock (s.loans id)
      ((Input.call origin op.call : Input T).loanEvent d.config id clock s) (s'.loans id) := by
  rw [Operation.exec_call] at hok
  obtain ⟨⟨value, s₁⟩, hrun, rfl⟩ := Option.map_eq_some_iff.mp hok
  obtain ⟨change, hplan⟩ := exists_plan h hrun
  have hloans := (hplan.applies h hrun).1.loans
  have hkeyed := h.1.ledger.keyed
  cases hplan with
  | @attest partner verifier loanId amount r loan checks fits earned =>
      have hfound : s.loans loanId = some loan := checks.found
      have hid : loan.id = loanId := hkeyed _ _ checks.found
      have hcall : Call.loanEvent d.config clock s
          (.ledger (.attestRepayment partner verifier loanId amount)) =
            some (loanId, .repaid amount) := rfl
      refine follows_event hcall ?_ ?_ id
      · rw [hfound]
        exact ⟨checks.isOpen, checks.pos, checks.le⟩
      · rw [hfound, ← hid]
        exact hloans
  | @flag _ _ loanId loan crank running found overdue deadline =>
      have hcranked : cranked d.config clock.timestamp loan = loan.flag d.config clock.timestamp :=
        if_pos overdue
      have hid : loan.id = loanId := hkeyed _ _ found
      refine follows_crank (loanEvent_of_crank crank rfl running) found ?_ id
      rw [hcranked, ← hid]
      exact hloans
  | @settle _ _ loanId loan crank running found expired =>
      have hcranked : cranked d.config clock.timestamp loan = loan.default := by
        rw [cranked, if_neg fun hoverdue => loan.not_overdue_and_expired _ ⟨hoverdue, expired⟩,
          if_pos expired]
      have hid : loan.id = loanId := hkeyed _ _ found
      refine follows_crank (loanEvent_of_crank crank rfl running) found ?_ id
      rw [hcranked, ← hid]
      exact hloans
  | @paused loanId hpaused =>
      refine follows_nothing ?_ hloans id
      rw [Operation.call, Call.loanEvent, if_neg (by rw [hpaused]; exact Bool.noConfusion)]
  | @idle loanId loan running found overdue expired =>
      have hcranked : cranked d.config clock.timestamp loan = loan := by
        rw [cranked, if_neg overdue, if_neg expired]
      have hcall : Call.loanEvent d.config clock s (.engine (.poke loanId)) =
          some (loanId, .cranked) := if_pos running
      refine follows_crank hcall found ?_ id
      rw [hcranked, ← found, Function.update_eq_self]
      exact hloans

/-- A call that means nothing for any loan leaves the loans alone. -/
theorem loans_of_moves (hmoves : Moves d origin clock s s' call)
    (hcall : call.loanEvent d.config clock s = none) : s'.loans = s.loans := by
  cases hmoves with
  | quiet hquiet => exact hquiet.loans
  | deposit _ _ hledger | withdraw _ _ hledger => rw [System.loans, hledger, System.loans]
  | originate | reassign | attest => cases hcall
  | flag hcrank hrunning | settle hcrank hrunning =>
      rcases hcrank with rfl | rfl
      · cases hcall
      · rw [Call.loanEvent, if_pos hrunning] at hcall
        cases hcall

/-- An origination opens a loan under the next number. -/
theorem originate_lives (h : s.Sound d tokens tok clock.timestamp) {guarantor partner : Address}
    {beneficiary : BytesN32} {principalUsd : ℤ} {installmentCount intervalSecs : ℕ}
    (hcall : call = .ledger (.originate guarantor beneficiary partner principalUsd installmentCount
      intervalSecs)) (hok : exec d tokens origin clock s call = some s') (id : ℕ) :
    (loanMachine d.config).Follows clock (s.loans id)
      ((Input.call origin call : Input T).loanEvent d.config id clock s) (s'.loans id) := by
  subst hcall
  obtain ⟨loan, hchecks, hpos, hopen, -⟩ := originate_opens h hok
  have hopened : loan.Opened clock.timestamp := hchecks.opened hpos
  have hloans := loans_open hopen
  have hid : loan.id = LoanLedger.getLoanCount s.ledger + 1 := by
    rw [hchecks.opens]
    rfl
  -- the number of the new loan is not taken
  have hfresh : s.loans loan.id = none := by
    rw [Option.eq_none_iff_forall_ne_some]
    intro taken htaken
    have hcounted := (h.ledger.counted loan.id taken htaken).2
    omega
  have hevent : Call.loanEvent d.config clock s (.ledger (.originate guarantor beneficiary partner
      principalUsd installmentCount intervalSecs)) = some (loan.id, .opened loan) := by
    rw [hid, hchecks.opens]
    rfl
  refine follows_event hevent ?_ hloans id
  rw [hfresh]
  exact hopened

/-- A reassignment changes the partner of an open loan. -/
theorem reassign_lives (h : s.Sound d tokens tok clock.timestamp) {admin partner : Address}
    {loanId : ℕ} (hcall : call = .ledger (.reassignPartner admin loanId partner))
    (hok : exec d tokens origin clock s call = some s') (id : ℕ) :
    (loanMachine d.config).Follows clock (s.loans id)
      ((Input.call origin call : Input T).loanEvent d.config id clock s) (s'.loans id) := by
  subst hcall
  obtain ⟨⟨l', w'⟩, hresult, rfl⟩ := Option.map_eq_some_iff.mp hok
  have hstorage : s.ledger.Sound d.config (origin.env clock d.ledger).timestamp := h.ledger
  have heffect := LoanLedger.exec_effect hstorage (outcome_eq_some.mp hresult)
  obtain ⟨-, -, -, -, loan, hfound, hopen, hrecord⟩ := heffect
  have hloans : System.loans { s with ledger := l', world := w' } =
      Function.update s.loans loanId (some { loan with partner }) :=
    loans_record h.ledger hfound hrecord rfl
  have hevent : Call.loanEvent d.config clock s (.ledger (.reassignPartner admin loanId partner)) =
      some (loanId, .reassigned partner) := rfl
  have hentry : s.loans loanId = some loan := hfound
  refine follows_event hevent ?_ ?_ id
  · rw [hentry]
    exact hopen
  · rw [hentry]
    exact hloans

/-- **Step.** Every call moves the life of every loan by what it means for it. -/
theorem call_lives (h : s.Settled d tokens tok clock) (hexternal : d.External origin)
    (hok : exec d tokens origin clock s call = some s') (id : ℕ) :
    (loanMachine d.config).Follows clock (s.loans id)
      ((Input.call origin call : Input T).loanEvent d.config id clock s) (s'.loans id) := by
  obtain ⟨hmoves, -⟩ := exec_moves h.1 hexternal hok
  cases call with
  | vault call => exact follows_nothing rfl (loans_of_moves hmoves rfl) id
  | ledger call =>
      cases call with
      | originate => exact originate_lives h.1 rfl hok id
      | attestRepayment => exact operation_lives h (.attestRepayment _ _ _ _) hok id
      | reassignPartner => exact reassign_lives h.1 rfl hok id
      | _ => exact follows_nothing rfl (loans_of_moves hmoves rfl) id
  | engine call =>
      cases call with
      | flagOverdue loanId => exact operation_lives h (.flagOverdue loanId) hok id
      | liquidate loanId => exact operation_lives h (.liquidate loanId) hok id
      | poke loanId => exact operation_lives h (.poke loanId) hok id
      | _ => exact follows_nothing rfl (loans_of_moves hmoves rfl) id

end Calls

/-! ## The refinement -/

variable (d tokens tok) in
/-- For each loan the system refines the machine of one loan. -/
theorem machine_refines_loan (id : ℕ) : (machine d tokens tok).Refines (loanMachine d.config)
    (Input.loanEvent d.config id) (fun s entry => s.loans id = entry) where
  initial := by
    rintro s ⟨script, token, htok, hdeploy⟩
    obtain ⟨-, hloans, -⟩ := deploy_cases s.now htok hdeploy
    exact ⟨none, rfl, congrFun hloans id⟩
  act := by
    rintro clock s (⟨origin, call⟩ | token) s' entry hreach hact rfl
    · exact ⟨_, call_lives (.of_reachable hreach) hact.1 hact.2.1 id, rfl⟩
    · obtain ⟨-, rfl⟩ := hact
      exact ⟨_, rfl, rfl⟩

/-- What a run means for one loan, latest first. -/
def loanEvents (config : LoanLedger.Config) (id : ℕ)
    (history : List (Transition (System T) (Input T))) : List (ℕ × LoanEvent) :=
  history.filterMap (Machine.standsFor (Input.loanEvent config id))

/-- **Replay.** In every run each loan leads a life of its own: the run, whatever else it is made
of, is for that loan a run of the machine of one loan that makes the events that concern it, and the
record in the end is what these events leave. -/
theorem loan_replays {history : List (Transition (System T) (Input T))} {s : Timed (System T)}
    (hrun : (machine d tokens tok).Run history s) (id : ℕ) :
    s.state.loans id = recordAfter d.config (loanEvents d.config id history) ∧
    ∃ life, (loanMachine d.config).Run life ⟨s.clock, s.state.loans id⟩ ∧
      life.filterMap Transition.call = loanEvents d.config id history := by
  obtain ⟨life, entry, hlife, rfl, hevents⟩ := (machine_refines_loan d tokens tok id).run hrun
  refine ⟨?_, life, hlife, hevents⟩
  rw [loanEvents, ← hevents, recordAfter_of_run hlife]

/-- Two loans of one guarantor. The first is repaid in part, poked in vain, flagged and repaid; what
happens to the second does not show. -/
theorem loan_replays_twoLoans : ∃ history s, sampleMachine.Run history s ∧
    s.state.loans 1 = recordAfter sample.config
      [(100000, .repaid 90), (100000, .cranked), (0, .cranked), (0, .repaid 30),
        (0, .opened (Loan.opening 0 1 ⟨4⟩ 7 ⟨5⟩ 120 15000 3 86400))] := by
  obtain ⟨history, s, hrun, hevents⟩ := exists_run_of_playLoan
    (P := fun history _ => loanEvents sample.config 1 history =
      [(100000, .repaid 90), (100000, .cranked), (0, .cranked), (0, .repaid 30),
        (0, .opened (Loan.opening 0 1 ⟨4⟩ 7 ⟨5⟩ 120 15000 3 86400))])
    (show (playLoan [(0, .ledger (.originate ⟨4⟩ 8 ⟨5⟩ 120 3 86400)),
      (0, .ledger (.attestRepayment ⟨5⟩ ⟨6⟩ 1 30)), (0, .engine (.poke 1)),
      (0, .ledger (.attestRepayment ⟨5⟩ ⟨6⟩ 2 120)), (100000, .engine (.flagOverdue 1)),
      (100000, .ledger (.attestRepayment ⟨5⟩ ⟨6⟩ 1 90))]).any _ = true by decide +kernel)
  obtain ⟨hrecord, -⟩ := loan_replays hrun 1
  exact ⟨history, s, hrun, hrecord.trans (congrArg _ hevents)⟩

end RemitCollateral.Protocol
