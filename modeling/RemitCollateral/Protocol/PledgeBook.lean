import RemitCollateral.Arithmetic.Pledges
import RemitCollateral.Host.Refinement
import RemitCollateral.Protocol.Sweep

/-! # The system is a book of pledges

What the three contracts are for is a book in which guarantors pledge collateral to loans. No
contract keeps that book: the vault has one locked amount for each guarantor, the ledger has the
loans, and the engine asks both. Every run of the system is a run of the book all the same, entry by
entry. -/

namespace RemitCollateral.Protocol

open Soroban
open LoanLedger (Loan)
open GuarantorVault (Posts moved_cons moved_nil)
open Pledges (Book Entry)

/-- A book of guarantors and their loans. -/
abbrev PledgeBook := Book Address ℕ ℤ

/-- Books start empty, and take the entries they have room for. -/
def bookMachine : Machine PledgeBook (Entry Address ℕ ℤ) where
  initial s := s.state = .empty
  act _ book entry book' := ∃ h : book.Allows entry, book.enter entry h = book'

variable {T : Type} {d : Deployment} {tokens : Address → GuarantorVault.TokenClient T}
  {tok : GuarantorVault.StandardToken T} {origin : Origin} {clock : Clock} {s s' : System T}

/-! ## What a call enters -/

/-- The collateral of a new loan. -/
def collateralFor (config : LoanLedger.Config) (beneficiary : BytesN32) (principalUsd : ℤ)
    (s : System T) : ℤ :=
  principalUsd * config.ltvFor (LoanLedger.getReputation beneficiary s.ledger) / LoanLedger.BPS

/-- What a liquidation draws on a pledge. -/
def drawnBySettlement (loan : Loan) : Entry Address ℕ ℤ :=
  .draw loan.guarantor loan.id (forfeitable loan) (loan.remaining - forfeitable loan)

/-- What a call enters in the book, if anything. -/
def Call.entry (config : LoanLedger.Config) (clock : Clock) (s : System T) :
    Call → Option (Entry Address ℕ ℤ)
  | .vault (.deposit guarantor amount) => some (.payIn guarantor amount)
  | .vault (.withdraw guarantor amount) => some (.payOut guarantor amount)
  | .ledger (.originate guarantor beneficiary _ principalUsd _ _) =>
      some (.pledge guarantor (LoanLedger.getLoanCount s.ledger + 1)
        (collateralFor config beneficiary principalUsd s))
  | .ledger (.attestRepayment _ _ loanId amountUsd) =>
      (s.loans loanId).map fun loan => .draw loan.guarantor loan.id 0
        (loan.earned config (loan.totalRepaidUsd + amountUsd) - loan.collateralReleased)
  | .engine (.liquidate loanId) => (s.loans loanId).map drawnBySettlement
  | .engine (.poke loanId) =>
      ((s.loans loanId).filter fun loan => LiquidationEngine.paused s.engine = false ∧
        loan.GraceExpired clock.timestamp).map drawnBySettlement
  | _ => none

/-- What an input of a run enters in the book. -/
def Input.entry (config : LoanLedger.Config) (clock : Clock) (s : System T) :
    Input T → Option (Entry Address ℕ ℤ)
  | .call _ made => made.entry config clock s
  | .moveTokens _ => none

/-! ## What the system shows of a book -/

/-- The system shows a book: the vault its balances and what is pledged in total, the ledger the
pledge of each loan. -/
structure System.Shows (s : System T) (book : PledgeBook) : Prop where
  balance : ∀ g, s.world.vault.collateralBalance g = book.balance g
  locked : ∀ g, s.world.vault.lockedAmount g = (book.pledged g).degree
  pledged : ∀ g id, Protocol.held g (s.loans id) = book.pledged g id

namespace System.Shows

variable {book : PledgeBook} {entry : Entry Address ℕ ℤ}

/-- What the vault lets a guarantor take out is what the book has free. -/
theorem free (h : s.Shows book) (g : Address) :
    book.free g = s.world.vault.collateralBalance g - s.world.vault.lockedAmount g := by
  rw [h.balance, h.locked]
  rfl

/-- With accounts that agree, the total follows from the pledges. -/
theorem of_settled (h : s.Settled d tokens tok clock)
    (hbalance : ∀ g, s.world.vault.collateralBalance g = book.balance g)
    (hpledged : ∀ g id, Protocol.held g (s.loans id) = book.pledged g id) : s.Shows book where
  balance := hbalance
  pledged := hpledged
  locked g := by
    obtain ⟨hsound, hbalanced⟩ := h
    rw [hbalanced g, System.held, Finsupp.degree_apply]
    -- a pledge that is not zero is that of a loan, and loans are numbered
    have hsub : (book.pledged g).support ⊆
        Finset.Icc 1 (LoanLedger.getLoanCount s.ledger) := by
      intro id hid
      rw [Finsupp.mem_support_iff, ← hpledged] at hid
      cases hloan : s.loans id with
      | none =>
          rw [hloan] at hid
          exact absurd rfl hid
      | some loan => exact Finset.mem_Icc.mpr (hsound.ledger.counted id loan hloan)
    have hzero : ∀ id ∈ Finset.Icc 1 (LoanLedger.getLoanCount s.ledger),
        id ∉ (book.pledged g).support → book.pledged g id = 0 :=
      fun id _ hid => Finsupp.notMem_support_iff.mp hid
    rw [Finset.sum_subset hsub hzero]
    exact Finset.sum_congr rfl fun id _ => hpledged g id

/-- A move that changes no balance and no pledge shows the same book. -/
theorem stay (h : s.Shows book) (hsettled : s'.Settled d tokens tok clock)
    (hbalance : ∀ g, s'.world.vault.collateralBalance g = s.world.vault.collateralBalance g)
    (hheld : ∀ g id, Protocol.held g (s'.loans id) = Protocol.held g (s.loans id)) :
    s'.Shows book := by
  refine .of_settled hsettled (fun g => ?_) (fun g id => ?_)
  · rw [hbalance, h.balance]
  · rw [hheld, h.pledged]

/-- An operation that changes nothing shows the same book. -/
theorem stay_of_applies (h : s.Shows book) (hsettled : s'.Settled d tokens tok clock)
    (happlies : Applies d tok none s s') : s'.Shows book := by
  have hvaults : s'.world.vault.vaults = s.world.vault.vaults := happlies.world.vaults
  have hloans : s'.loans = s.loans := happlies.loans
  refine h.stay hsettled (fun g => ?_) (fun g id => ?_)
  · rw [GuarantorVault.State.collateralBalance, GuarantorVault.State.position, hvaults]
    rfl
  · rw [hloans]

/-- A move that changes what an entry changes shows the book with the entry. -/
theorem enter (h : s.Shows book) (hsettled : s'.Settled d tokens tok clock)
    (hallows : book.Allows entry)
    (hbalance : ∀ g, s'.world.vault.collateralBalance g =
      s.world.vault.collateralBalance g + if entry.owner = g then entry.paid else 0)
    (hheld : ∀ g id, Protocol.held g (s'.loans id) =
      Protocol.held g (s.loans id) + if entry.owner = g then entry.pledged id else 0) :
    s'.Shows (book.enter entry hallows) := by
  refine .of_settled hsettled (fun g => ?_) (fun g id => ?_)
  · rw [hbalance, h.balance, Book.enter_balance]
  · rw [hheld, h.pledged, Book.enter_pledged]
    split <;> rfl

end System.Shows

/-! ## Every call follows the book -/

section Follows

variable {book : PledgeBook}

/-- A guarantor's payments. -/
theorem payment_follows (h' : s'.Settled d tokens tok clock)
    (hshows : s.Shows book) {call : GuarantorVault.Call}
    (hmoves : Moves d origin clock s s' (.vault call)) :
    ∃ book', bookMachine.Follows clock book (Call.entry d.config clock s (.vault call)) book' ∧
      s'.Shows book' := by
  have hfree := fun g => h'.1.solvent.sound.locked_le g
  cases hmoves with
  | quiet hquiet hposts _ hunpaid =>
      have hsame : s'.Shows book := by
        refine hshows.stay h' (fun g => ?_) (fun g id => ?_)
        · rw [hposts.balance]
          simp
        · rw [System.loans, hquiet.loans]
          rfl
      cases call with
      | deposit | withdraw => cases hunpaid
      | _ => exact ⟨book, rfl, hsame⟩
  | @deposit g amount _ hpos hledger hposts =>
      have hallows : book.Allows (.payIn g amount) := le_of_lt hpos
      refine ⟨_, ⟨hallows, rfl⟩, hshows.enter h' hallows (fun g' => ?_) (fun g' id => ?_)⟩
      · rw [hposts.balance]
        by_cases hg : g = g' <;> simp [Entry.owner, Entry.paid, hg, sub_eq_add_neg]
      · rw [System.loans, hledger]
        simp [Entry.pledged, System.loans]
  | @withdraw g amount _ hpos hledger hposts =>
      have hallows : book.Allows (.payOut g amount) := by
        refine ⟨le_of_lt hpos, ?_⟩
        have hle := hfree g
        rw [hposts.balance, hposts.locked] at hle
        rw [hshows.free]
        simp at hle
        omega
      refine ⟨_, ⟨hallows, rfl⟩, hshows.enter h' hallows (fun g' => ?_) (fun g' id => ?_)⟩
      · rw [hposts.balance]
        by_cases hg : g = g' <;> simp [Entry.owner, Entry.paid, hg, sub_eq_add_neg]
      · rw [System.loans, hledger]
        simp [Entry.pledged, System.loans]
  | flag hcrank | settle hcrank =>
      rcases hcrank with hcrank | hcrank <;> cases hcrank

/-- An origination opens its loan against collateral that is free. -/
theorem originate_opens (h : s.Sound d tokens tok clock.timestamp) {guarantor partner : Address}
    {beneficiary : BytesN32} {principalUsd : ℤ} {installmentCount intervalSecs : ℕ}
    (hok : exec d tokens origin clock s (.ledger (.originate guarantor beneficiary partner
      principalUsd installmentCount intervalSecs)) = some s') :
    ∃ loan, LoanLedger.Origination (origin.env clock d.ledger) d.config guarantor beneficiary
        partner principalUsd installmentCount intervalSecs s.ledger loan ∧
      0 < loan.collateralLocked ∧ (∃ ttl, s.ledger.open loan ttl = s'.ledger) ∧
      Posts [⟨.lock, loan.guarantor, loan.collateralLocked⟩] s.world.vault
        s'.world.vault := by
  obtain ⟨⟨l', w'⟩, hresult, rfl⟩ := Option.map_eq_some_iff.mp hok
  have hstorage : s.ledger.Sound d.config (origin.env clock d.ledger).timestamp := h.ledger
  have heffect := LoanLedger.exec_effect hstorage (outcome_eq_some.mp hresult)
  obtain ⟨loan, hchecks, ⟨vault, hvault, hlock⟩, hopen⟩ := heffect
  have hguarantor : loan.guarantor = guarantor := by
    rw [hchecks.opens]
    rfl
  have hposts := (h.vault rfl (h.wired.lockCall hvault hlock)).1
  exact ⟨loan, hchecks, ledgerVaults_refusesEmpty vault hlock, hopen, hguarantor ▸ hposts⟩

/-- An origination pledges the collateral of its loan. -/
theorem originate_follows (h : s.Sound d tokens tok clock.timestamp)
    (h' : s'.Settled d tokens tok clock) (hshows : s.Shows book) {guarantor partner : Address}
    {beneficiary : BytesN32} {principalUsd : ℤ} {installmentCount intervalSecs : ℕ}
    (hok : exec d tokens origin clock s (.ledger (.originate guarantor beneficiary partner
      principalUsd installmentCount intervalSecs)) = some s') :
    ∃ hallows : book.Allows (.pledge guarantor (LoanLedger.getLoanCount s.ledger + 1)
      (collateralFor d.config beneficiary principalUsd s)), s'.Shows (book.enter _ hallows) := by
  obtain ⟨loan, hchecks, hpos, hopen, hposts⟩ := originate_opens h hok
  have hguarantor : loan.guarantor = guarantor := by
    rw [hchecks.opens]
    rfl
  have hid : loan.id = LoanLedger.getLoanCount s.ledger + 1 := by
    rw [hchecks.opens]
    rfl
  have hcollateral : loan.collateralLocked = collateralFor d.config beneficiary principalUsd s := by
    rw [hchecks.opens]
    rfl
  have hopened := hchecks.opened hpos
  have hisOpen : loan.isOpen = true := Loan.isOpen_iff.mpr (.inl hopened.status)
  rw [← hguarantor, ← hid, ← hcollateral]
  -- the number of the new loan is not taken
  have hfresh : s.loans loan.id = none := by
    rw [Option.eq_none_iff_forall_ne_some]
    intro taken htaken
    have hcounted := (h.ledger.counted loan.id taken htaken).2
    omega
  have hallows : book.Allows (.pledge loan.guarantor loan.id loan.collateralLocked) := by
    refine ⟨?_, le_of_lt hpos, ?_⟩
    · rw [← hshows.pledged, hfresh]
      rfl
    · have hle := h'.1.solvent.sound.locked_le loan.guarantor
      rw [hposts.balance, hposts.locked] at hle
      rw [hshows.free]
      simp at hle
      omega
  refine ⟨hallows, hshows.enter h' hallows (fun g => ?_) (fun g id => ?_)⟩
  · rw [hposts.balance]
    by_cases hg : loan.guarantor = g <;> simp [Entry.owner, Entry.paid, hg]
  · rw [loans_open hopen]
    by_cases heq : id = loan.id
    · rw [heq, Function.update_self, hfresh, held_of_open hisOpen, Loan.remaining, hopened.released]
      by_cases hg : loan.guarantor = g <;> simp [Entry.owner, Entry.pledged, hg, held]
    · rw [Function.update_of_ne heq]
      simp [Entry.pledged, Finsupp.single_eq_of_ne heq]

end Follows

/-! ## Every operation draws on a pledge -/

section Draws

variable {book : PledgeBook} {op : Operation} {value : Returned} {change : Option Change}

/-- What a change draws on the pledge of its loan. -/
def Change.drawn (change : Change) : Entry Address ℕ ℤ :=
  .draw change.loan.guarantor change.loan.id change.forfeited change.returned

/-- A planned change lowers what its loan holds by what it forfeits and returns. -/
theorem Plans.held_eq {change : Change} (hplan : Plans d origin clock s op value (some change))
    (h : s.Sound d tokens tok clock.timestamp) :
    0 ≤ change.forfeited ∧ 0 ≤ change.returned ∧ ∀ g, held g (some change.loan) =
      held g (s.loans change.loan.id) +
        if change.loan.guarantor = g then -(change.forfeited + change.returned) else 0 := by
  have hconfig := h.ledger.accepted
  have hid := hplan.id_eq h change rfl
  rw [hid]
  cases hplan with
  | @attest _ _ loanId amount r loan checks fits earned =>
      have hfound : s.loans loanId = some loan := checks.found
      have hsound := h.ledger.loans _ _ checks.found
      have hreturned := earned_sub_nonneg hconfig hsound checks.isOpen checks.pos
      rw [earned] at hreturned
      refine ⟨le_refl 0, hreturned, fun g => ?_⟩
      rw [Operation.loanId, hfound, held_repay checks.isOpen, held_of_open checks.isOpen, earned]
      by_cases hg : loan.guarantor = g <;> simp [Loan.repay, hg, sub_eq_add_neg]
  | @flag _ _ loanId loan crank running found overdue deadline =>
      have hop : op.loanId = loanId := by
        rcases crank with ⟨rfl, -⟩ | ⟨rfl, -⟩ <;> rfl
      have hopen : loan.isOpen = true := Loan.isOpen_iff.mpr (.inl overdue.1)
      have hopen' : (loan.flag d.config clock.timestamp).isOpen = true :=
        Loan.isOpen_iff.mpr (.inr rfl)
      refine ⟨le_refl 0, le_refl 0, fun g => ?_⟩
      rw [hop, found, held_of_open hopen', held_of_open hopen, add_zero, neg_zero, ite_self,
        add_zero]
      rfl
  | @settle _ _ loanId loan crank running found expired =>
      have hop : op.loanId = loanId := by
        rcases crank with ⟨rfl, -⟩ | ⟨rfl, -⟩ <;> rfl
      have hsound := h.ledger.loans _ _ found
      have hopen : loan.isOpen = true := Loan.isOpen_iff.mpr (.inr expired.1)
      have hclosed : loan.default.isOpen = false := rfl
      refine ⟨forfeitable_nonneg hconfig hsound, sub_nonneg.mpr (forfeitable_le loan), fun g => ?_⟩
      rw [hop, found, held_of_closed hclosed, held_of_open hopen]
      by_cases hg : loan.guarantor = g <;> simp [Loan.default, hg]

/-- An operation that changes a loan draws on its pledge. -/
theorem Plans.shows {change : Change} (hplan : Plans d origin clock s op value (some change))
    (h : s.Sound d tokens tok clock.timestamp) (h' : s'.Settled d tokens tok clock)
    (happlies : Applies d tok (some change) s s') (hshows : s.Shows book) :
    ∃ hallows : book.Allows change.drawn, s'.Shows (book.enter _ hallows) := by
  obtain ⟨hforfeited, hreturned, hheld⟩ := hplan.held_eq h
  have hloans : s'.loans = Function.update s.loans change.loan.id (some change.loan) :=
    happlies.loans
  have hrecords := GuarantorVault.record_settle happlies.world.vaults hforfeited hreturned
  have hallows : book.Allows change.drawn := by
    refine ⟨hforfeited, hreturned, ?_⟩
    -- what is left of the pledge is not negative
    have hleft := held_nonneg h'.1.ledger change.loan.guarantor change.loan.id
    rw [hloans, Function.update_self, hheld, if_pos rfl, hshows.pledged] at hleft
    omega
  refine ⟨hallows, hshows.enter h' hallows (fun g => ?_) (fun g id => ?_)⟩
  · rw [(hrecords g).1]
    by_cases hg : change.loan.guarantor = g <;>
      simp [Change.drawn, Entry.owner, Entry.paid, hg, sub_eq_add_neg]
  · rw [hloans]
    by_cases heq : id = change.loan.id
    · rw [heq, Function.update_self, hheld]
      by_cases hg : change.loan.guarantor = g <;>
        simp [Change.drawn, Entry.owner, Entry.pledged, hg]
    · rw [Function.update_of_ne heq]
      simp [Change.drawn, Entry.pledged, Finsupp.single_eq_of_ne heq]

/-- An operation enters what its plan draws. -/
theorem Plans.follows (hplan : Plans d origin clock s op value change)
    (h : s.Sound d tokens tok clock.timestamp) (h' : s'.Settled d tokens tok clock)
    (happlies : Applies d tok change s s') (hshows : s.Shows book) :
    ∃ book', bookMachine.Follows clock book (op.call.entry d.config clock s) book' ∧
      s'.Shows book' := by
  have hkeyed := h.ledger.keyed
  cases hplan with
  | @attest partner verifier loanId amount r loan checks fits earned =>
      have hdraws : Plans d origin clock s _ _ _ := .attest checks fits earned
      obtain ⟨hallows, hshows'⟩ := hdraws.shows h h' happlies hshows
      have hfound : s.loans loanId = some loan := checks.found
      have hentry : Call.entry d.config clock s
          (.ledger (.attestRepayment partner verifier loanId amount)) =
            some (.draw loan.guarantor loan.id 0 r) := by
        rw [Call.entry, hfound, Option.map_some, earned]
      rw [Operation.call, hentry]
      exact ⟨_, ⟨hallows, rfl⟩, hshows'⟩
  | @flag _ _ loanId loan crank running found overdue deadline =>
      -- a loan in grace holds what it held
      have hdraws : Plans d origin clock s op value _ :=
        .flag crank running found overdue deadline
      obtain ⟨-, -, hheld⟩ := hdraws.held_eq h
      have hsilent : op.call.entry d.config clock s = none := by
        rcases crank with ⟨rfl, -⟩ | ⟨rfl, -⟩
        · rfl
        · have hnot : ¬ loan.GraceExpired clock.timestamp :=
            fun hexpired => loan.not_overdue_and_expired _ ⟨overdue, hexpired⟩
          rw [Operation.call, Call.entry, found]
          simp [Option.filter, hnot]
      rw [hsilent]
      have hrecords := GuarantorVault.record_settle happlies.world.vaults (le_refl 0) (le_refl 0)
      refine ⟨book, rfl, hshows.stay h' (fun g => ?_) (fun g id => ?_)⟩
      · rw [(hrecords g).1, ite_self, sub_zero]
      · rw [show s'.loans = Function.update s.loans loan.id
          (some (loan.flag d.config clock.timestamp)) from happlies.loans]
        by_cases heq : id = loan.id
        · rw [heq, Function.update_self]
          rw [hheld g, add_zero, neg_zero, ite_self, add_zero]
          rfl
        · rw [Function.update_of_ne heq]
  | @settle _ _ loanId loan crank running found expired =>
      have hdraws : Plans d origin clock s op value _ := .settle crank running found expired
      obtain ⟨hallows, hshows'⟩ := hdraws.shows h h' happlies hshows
      have hentry : op.call.entry d.config clock s = some (drawnBySettlement loan) := by
        rcases crank with ⟨rfl, -⟩ | ⟨rfl, -⟩
        · rw [Operation.call, Call.entry, found, Option.map_some]
        · rw [Operation.call, Call.entry, found]
          simp [Option.filter, running, expired]
      rw [hentry]
      exact ⟨_, ⟨hallows, rfl⟩, hshows'⟩
  | @paused loanId hpaused =>
      have hsilent : Call.entry d.config clock s (.engine (.poke loanId)) = none := by
        rw [Call.entry]
        cases s.loans loanId with
        | none => rfl
        | some loan => simp [Option.filter, hpaused]
      rw [Operation.call, hsilent]
      exact ⟨book, rfl, hshows.stay_of_applies h' happlies⟩
  | @idle loanId loan running found overdue expired =>
      have hsilent : Call.entry d.config clock s (.engine (.poke loanId)) = none := by
        rw [Call.entry, found]
        simp [Option.filter, expired]
      rw [Operation.call, hsilent]
      exact ⟨book, rfl, hshows.stay_of_applies h' happlies⟩

end Draws

/-! ## The refinement -/

section Refinement

variable {book : PledgeBook}

/-- An operation follows the book. -/
theorem operation_follows (h : s.Settled d tokens tok clock) (h' : s'.Settled d tokens tok clock)
    (hshows : s.Shows book) (op : Operation)
    (hok : exec d tokens origin clock s op.call = some s') :
    ∃ book', bookMachine.Follows clock book (op.call.entry d.config clock s) book' ∧
      s'.Shows book' := by
  rw [Operation.exec_call] at hok
  obtain ⟨⟨value, s₁⟩, hrun, rfl⟩ := Option.map_eq_some_iff.mp hok
  obtain ⟨change, hplan⟩ := exists_plan h hrun
  exact hplan.follows h.1 h' (hplan.applies h hrun).1 hshows

/-- A call that is neither a payment nor about one loan enters nothing. -/
theorem setting_follows (h : s.Sound d tokens tok clock.timestamp)
    (h' : s'.Settled d tokens tok clock) (hshows : s.Shows book) {call : Call}
    (hmoves : Moves d origin clock s s' call) (hsilent : call.entry d.config clock s = none)
    (hother : ∀ op : Operation, op.call ≠ call)
    (hopens : ∀ g b p u n i, call ≠ .ledger (.originate g b p u n i)) :
    ∃ book', bookMachine.Follows clock book (call.entry d.config clock s) book' ∧
      s'.Shows book' := by
  rw [hsilent]
  refine ⟨book, rfl, ?_⟩
  cases hmoves with
  | quiet hquiet hposts =>
      refine hshows.stay h' (fun g => ?_) (fun g id => ?_)
      · rw [hposts.balance]
        simp
      · rw [System.loans, hquiet.loans]
        rfl
  | @reassign _ partner _ loan _ hfound _ hrecord hposts =>
      refine hshows.stay h' (fun g => ?_) (fun g id => ?_)
      · rw [hposts.balance]
        simp
      · rw [loans_record h.ledger hfound hrecord rfl]
        by_cases heq : id = loan.id
        · rw [heq, h.ledger.keyed _ _ hfound, Function.update_self,
            show s.loans _ = some loan from hfound]
          rfl
        · rw [Function.update_of_ne (h.ledger.keyed _ _ hfound ▸ heq)]
  | deposit | withdraw => cases hsilent
  | originate => exact absurd rfl (hopens _ _ _ _ _ _)
  | attest => exact absurd rfl (hother (.attestRepayment _ _ _ _))
  | flag hcrank =>
      rcases hcrank with hcrank | hcrank
      · exact absurd hcrank.symm (hother (.flagOverdue _))
      · exact absurd hcrank.symm (hother (.poke _))
  | settle hcrank =>
      rcases hcrank with hcrank | hcrank
      · exact absurd hcrank.symm (hother (.liquidate _))
      · exact absurd hcrank.symm (hother (.poke _))

/-- **Every call follows the book.** -/
theorem call_follows (h : s.Settled d tokens tok clock) (hexternal : d.External origin)
    (hshows : s.Shows book) {call : Call} (hok : exec d tokens origin clock s call = some s') :
    ∃ book', bookMachine.Follows clock book (call.entry d.config clock s) book' ∧
      s'.Shows book' := by
  obtain ⟨hmoves, hsound'⟩ := exec_moves h.1 hexternal hok
  have h' : s'.Settled d tokens tok clock := ⟨hsound', h.2.step h.1 hmoves⟩
  cases call with
  | vault call => exact payment_follows h' hshows hmoves
  | ledger call =>
      cases call with
      | originate guarantor beneficiary partner principalUsd installmentCount intervalSecs =>
          obtain ⟨hallows, hshows'⟩ := originate_follows h.1 h' hshows hok
          exact ⟨_, ⟨hallows, rfl⟩, hshows'⟩
      | attestRepayment partner verifier loanId amountUsd =>
          exact operation_follows h h' hshows (.attestRepayment _ _ _ _) hok
      | _ =>
          refine setting_follows h.1 h' hshows hmoves rfl (fun op hop => ?_) ?_
          · cases op <;> cases hop
          · intros
            simp
  | engine call =>
      cases call with
      | flagOverdue loanId => exact operation_follows h h' hshows (.flagOverdue loanId) hok
      | liquidate loanId => exact operation_follows h h' hshows (.liquidate loanId) hok
      | poke loanId => exact operation_follows h h' hshows (.poke loanId) hok
      | _ =>
          refine setting_follows h.1 h' hshows hmoves rfl (fun op hop => ?_) ?_
          · cases op <;> cases hop
          · intros
            simp

variable (d tokens tok) in
/-- The system refines the book. -/
theorem machine_refines : (machine d tokens tok).Refines bookMachine (Input.entry d.config)
    System.Shows where
  initial := by
    rintro s ⟨script, token, htok, hdeploy⟩
    obtain ⟨hsound, hloans, hzero, -⟩ := deploy_cases s.now htok hdeploy
    refine ⟨.empty, rfl, { balance := fun g => (hzero g).1, locked := ?_, pledged := ?_ }⟩
    · intro g
      rw [(hzero g).2]
      exact (map_zero _).symm
    · intro g id
      rw [System.loans, hloans]
      rfl
  act := by
    rintro clock s (⟨origin, call⟩ | token) s' book hreach hact hshows
    · exact call_follows (.of_reachable hreach) hact.1 hshows hact.2.1
    · obtain ⟨-, rfl⟩ := hact
      exact ⟨book, rfl, hshows.balance, hshows.locked, hshows.pledged⟩

/-- **Refinement.** Every run of the wired system, whatever calls of anyone it is made of, is a run
of one book of pledges that takes the same entries in the same order: what guarantors pay in and
out, the collateral each new loan pledges, and what each repayment and liquidation draws on the
pledge of its loan. Where the run ends, the vault has the balances of the book and its totals
locked, and each loan holds its pledge. -/
theorem refines_pledge_book {history : List (Transition (System T) (Input T))}
    {s : Timed (System T)} (hrun : (machine d tokens tok).Run history s) :
    ∃ entries book, bookMachine.Run entries ⟨s.clock, book⟩ ∧
      entries.filterMap Transition.call =
        history.filterMap (Machine.standsFor (Input.entry d.config)) ∧
      ∀ g, s.state.world.vault.collateralBalance g = book.balance g ∧
        s.state.world.vault.lockedAmount g = (book.pledged g).degree ∧
        ∀ id, held g (s.state.loans id) = book.pledged g id := by
  obtain ⟨entries, book, hentries, hshows, hcalls⟩ := (machine_refines d tokens tok).run hrun
  refine ⟨entries, book, hentries, hcalls, fun g => ?_⟩
  exact ⟨hshows.balance g, hshows.locked g, hshows.pledged g⟩

/-- A loan of 120 against 180 of collateral, of which 30 are repaid before it defaults: 42 were
earned back, and of the other 138 the 90 still owed are taken. -/
theorem refines_pledge_book_partlyRepaid : ∃ history s, sampleMachine.Run history s ∧
    ∃ entries book, bookMachine.Run entries ⟨s.clock, book⟩ ∧
      entries.filterMap Transition.call =
        [.draw ⟨4⟩ 1 90 48, .draw ⟨4⟩ 1 0 42, .pledge ⟨4⟩ 1 180, .payIn ⟨4⟩ 1000] ∧
      s.state.world.vault.collateralBalance ⟨4⟩ = book.balance ⟨4⟩ := by
  obtain ⟨history, s, hrun, hmeans⟩ := exists_run_of_playLoan
    (P := fun history _ => history.filterMap (Machine.standsFor (Input.entry sample.config)) =
      [.draw ⟨4⟩ 1 90 48, .draw ⟨4⟩ 1 0 42, .pledge ⟨4⟩ 1 180, .payIn ⟨4⟩ 1000])
    (show (playLoan [(86400, .ledger (.attestRepayment ⟨5⟩ ⟨6⟩ 1 30)),
      (345600, .engine (.poke 1)), (1555201, .engine (.poke 1))]).any _ = true by decide +kernel)
  obtain ⟨entries, book, hentries, hcalls, hshows⟩ := refines_pledge_book hrun
  exact ⟨history, s, hrun, entries, book, hentries, hcalls.trans hmeans, (hshows ⟨4⟩).1⟩

end Refinement

end RemitCollateral.Protocol
