import RemitCollateral.Protocol.Batches

/-! # Keepers sweep the book

A keeper pokes one loan after the other and need not know which of them are due. What a sweep of a
list of loans does is worked out here for the whole list: each loan is cranked once, in whatever
order and however often it is named, and the vault pays out what the loans past their grace
forfeit. -/

namespace RemitCollateral

open Soroban

namespace GuarantorVault

section Records

variable {v v' : State} {g : Address} {amount balance locked forfeited returned : ℤ}

/-- A debit lowers one record. -/
theorem record_debitPositive (h : v'.vaults = debitPositive amount g balance locked v.vaults)
    (hbalance : amount ≤ 0 → balance = 0) (hlocked : amount ≤ 0 → locked = 0) (g' : Address) :
    v'.collateralBalance g' = v.collateralBalance g' - (if g = g' then balance else 0) ∧
      v'.lockedAmount g' = v.lockedAmount g' - if g = g' then locked else 0 := by
  unfold State.collateralBalance State.lockedAmount State.position
  rw [h]
  by_cases hpos : 0 < amount
  · rw [debitPositive, if_pos hpos, debit]
    by_cases heq : g = g'
    · subst heq
      simp only [Function.update_self, Option.getD_some, if_true, and_self]
    · simp only [Function.update_of_ne (Ne.symm heq), if_neg heq, sub_zero, and_self]
  · rw [debitPositive, if_neg hpos, hbalance (not_lt.mp hpos), hlocked (not_lt.mp hpos)]
    simp

/-- A settlement takes what is forfeited out of one record, and unlocks it together with what is
returned. -/
theorem record_settle (h : v'.vaults = settle g forfeited returned v.vaults)
    (hforfeited : 0 ≤ forfeited) (hreturned : 0 ≤ returned) (g' : Address) :
    v'.collateralBalance g' = v.collateralBalance g' - (if g = g' then forfeited else 0) ∧
      v'.lockedAmount g' = v.lockedAmount g' - if g = g' then forfeited + returned else 0 := by
  let seized : State := { v with vaults := debitPositive forfeited g forfeited forfeited v.vaults }
  have hseized : seized.vaults = debitPositive forfeited g forfeited forfeited v.vaults := rfl
  have hsettled : v'.vaults = debitPositive returned g 0 returned seized.vaults := h
  obtain ⟨hbalance, hlocked⟩ := record_debitPositive hseized
    (fun hle => le_antisymm hle hforfeited) (fun hle => le_antisymm hle hforfeited) g'
  obtain ⟨hbalance', hlocked'⟩ := record_debitPositive hsettled
    (fun _ => rfl) (fun hle => le_antisymm hle hreturned) g'
  rw [hbalance', hbalance, hlocked', hlocked]
  constructor <;> split <;> ring

end Records

end GuarantorVault

namespace Protocol

open LoanLedger (Loan LoanBook)

variable {T : Type} {d : Deployment} {tokens : Address → GuarantorVault.TokenClient T}
  {tok : GuarantorVault.StandardToken T} {origin : Origin} {clock : Clock} {s s' s'' : System T}

/-! ## What a poke makes of a loan -/

/-- The loan after a poke: flagged if it is overdue, closed if its grace is over, and as it was
otherwise. -/
def cranked (config : LoanLedger.Config) (now : ℕ) (loan : Loan) : Loan :=
  if loan.Overdue now then loan.flag config now
  else if loan.GraceExpired now then loan.default
  else loan

/-- The change a poke makes. -/
def crank (config : LoanLedger.Config) (now : ℕ) (loan : Loan) : Option Change :=
  if loan.Overdue now then some ⟨loan.flag config now, 0, 0⟩
  else if loan.GraceExpired now then
    some ⟨loan.default, forfeitable loan, loan.remaining - forfeitable loan⟩
  else none

section Crank

variable {config : LoanLedger.Config} {now : ℕ} {loan : Loan}

/-- A loan that was cranked is past nothing: its grace has just begun, or it is closed. -/
theorem not_due_cranked (config : LoanLedger.Config) (now : ℕ) (loan : Loan) :
    ¬ (cranked config now loan).Overdue now ∧ ¬ (cranked config now loan).GraceExpired now := by
  unfold cranked
  split
  · refine ⟨fun hoverdue => ?_, fun hexpired => ?_⟩
    · cases hoverdue.1
    · exact absurd hexpired.2 (not_lt.mpr (Nat.le_add_right _ _))
  · split
    · refine ⟨fun hoverdue => ?_, fun hexpired => ?_⟩
      · cases hoverdue.1
      · cases hexpired.1
    · exact ⟨‹_›, ‹_›⟩

/-- Cranking a loan twice in one ledger is cranking it once. -/
theorem cranked_cranked (config : LoanLedger.Config) (now : ℕ) (loan : Loan) :
    cranked config now (cranked config now loan) = cranked config now loan := by
  obtain ⟨hoverdue, hexpired⟩ := not_due_cranked config now loan
  rw [cranked, if_neg hoverdue, if_neg hexpired]

end Crank

/-! ## Totals over the loans of a sweep -/

/-- An amount of a loan, counted when its grace is over. -/
def ifExpired (now : ℕ) (amount : Loan → ℤ) : Option Loan → ℤ
  | some loan => if loan.GraceExpired now then amount loan else 0
  | none => 0

/-- The total of an amount over those loans of `ids` whose grace is over. -/
def expiredTotal (now : ℕ) (amount : Loan → ℤ) (book : LoanBook) (ids : Finset ℕ) : ℤ :=
  ∑ id ∈ ids, ifExpired now amount (book id)

/-- What `g` forfeits when a loan is settled. -/
def forfeitedBy (g : Address) (loan : Loan) : ℤ :=
  if loan.guarantor = g then forfeitable loan else 0

/-- What of `g` is no longer locked when a loan is settled. -/
def unlockedFor (g : Address) (loan : Loan) : ℤ :=
  if loan.guarantor = g then loan.remaining else 0

/-- The book after the loans of `ids` were cranked. -/
def crankBook (config : LoanLedger.Config) (now : ℕ) (ids : Finset ℕ) (book : LoanBook) :
    LoanBook :=
  fun id => if id ∈ ids then (book id).map (cranked config now) else book id

section Totals

variable {config : LoanLedger.Config} {now : ℕ} {amount : Loan → ℤ} {book : LoanBook}
  {ids ids' : Finset ℕ}

/-- Nothing is left to settle of a loan that was cranked. -/
theorem ifExpired_cranked (entry : Option Loan) :
    ifExpired now amount (entry.map (cranked config now)) = 0 := by
  cases entry with
  | none => rfl
  | some loan => exact if_neg (not_due_cranked config now loan).2

/-- Cranking some loans and then others is cranking all of them. -/
theorem crankBook_crankBook : crankBook config now ids' (crankBook config now ids book) =
    crankBook config now (ids ∪ ids') book := by
  funext id
  unfold crankBook
  by_cases hid : id ∈ ids <;> by_cases hid' : id ∈ ids' <;> simp only [Finset.mem_union, hid, hid',
    or_true, or_false, if_true, if_false]
  rw [Option.map_map]
  cases book id with
  | none => rfl
  | some loan => exact congrArg some (cranked_cranked config now loan)

/-- What is settled first and then is what is settled of all. -/
theorem expiredTotal_union : expiredTotal now amount book ids +
    expiredTotal now amount (crankBook config now ids book) ids' =
      expiredTotal now amount book (ids ∪ ids') := by
  unfold expiredTotal
  -- the loans cranked before are done
  have hdone : ∀ id ∈ ids', id ∉ ids' \ ids →
      ifExpired now amount (crankBook config now ids book id) = 0 := by
    intro id hid hnot
    have hmem : id ∈ ids := by simpa [hid] using hnot
    rw [crankBook, if_pos hmem, ifExpired_cranked]
  have hrest : ∀ id ∈ ids' \ ids,
      ifExpired now amount (crankBook config now ids book id) = ifExpired now amount (book id) := by
    intro id hid
    rw [crankBook, if_neg (Finset.mem_sdiff.mp hid).2]
  rw [← Finset.sum_subset Finset.sdiff_subset hdone, Finset.sum_congr rfl hrest,
    ← Finset.sum_union Finset.disjoint_sdiff, Finset.union_sdiff_self_eq_union]

end Totals

/-! ## The outcome of a sweep -/

variable (d tok) in
/-- The loans of `ids` were cranked at time `now`, and the vault paid out what they forfeit. -/
structure Swept (now : ℕ) (ids : Finset ℕ) (s s' : System T) : Prop where
  loans : s'.loans = crankBook d.config now ids s.loans
  balance : ∀ g, s'.world.vault.collateralBalance g =
    s.world.vault.collateralBalance g - expiredTotal now (forfeitedBy g) s.loans ids
  locked : ∀ g, s'.world.vault.lockedAmount g =
    s.world.vault.lockedAmount g - expiredTotal now (unlockedFor g) s.loans ids
  settlement : s'.world.vault.settlementAddress = s.world.vault.settlementAddress
  token : ∀ settlement, s.world.vault.settlementAddress = some settlement → ∀ a,
    tok.balance s'.world.token a = tok.balance s.world.token a +
      gained d.vault settlement (expiredTotal now forfeitable s.loans ids) a
  paused : LiquidationEngine.paused s'.engine = LiquidationEngine.paused s.engine

namespace Swept

variable {now : ℕ} {ids ids' : Finset ℕ}

/-- Sweeping nothing. -/
theorem refl (now : ℕ) (s : System T) : Swept d tok now ∅ s s where
  loans := by
    funext id
    simp [crankBook]
  balance g := by simp [expiredTotal]
  locked g := by simp [expiredTotal]
  settlement := rfl
  token settlement _ a := by simp [expiredTotal, gained_zero]
  paused := rfl

/-- Sweeping twice in one ledger is sweeping both lists at once. -/
theorem trans (h : Swept d tok now ids s s') (h' : Swept d tok now ids' s' s'') :
    Swept d tok now (ids ∪ ids') s s'' where
  loans := by rw [h'.loans, h.loans, crankBook_crankBook]
  balance g := by rw [h'.balance, h.balance, h.loans, ← expiredTotal_union, sub_sub]
  locked g := by rw [h'.locked, h.locked, h.loans, ← expiredTotal_union, sub_sub]
  settlement := h'.settlement.trans h.settlement
  token settlement hsettlement a := by
    rw [h'.token settlement (h.settlement.trans hsettlement), h.token settlement hsettlement,
      h.loans, ← expiredTotal_union, gained_add, add_assoc]
  paused := h'.paused.trans h.paused

/-- A sweep removes no loan from the book. -/
theorem isSome (h : Swept d tok now ids s s') (id : ℕ) :
    (s'.loans id).isSome = (s.loans id).isSome := by
  rw [h.loans, crankBook]
  split
  · exact Option.isSome_map
  · rfl

end Swept

/-! ## One poke after the other -/

section Poke

variable {loanId : ℕ} {loan : Loan}

/-- The change of a poke is the outcome of a sweep of one loan. -/
theorem Applies.swept (h : s.Sound d tokens tok clock.timestamp)
    (hfound : s.loans loanId = some loan)
    (happlies : Applies d tok (crank d.config clock.timestamp loan) s s') :
    Swept d tok clock.timestamp {loanId} s s' := by
  have hid : loan.id = loanId := h.ledger.keyed _ _ hfound
  have hsound := h.ledger.loans _ _ hfound
  have hforfeit := forfeitable_nonneg h.ledger.accepted hsound
  have hrest := sub_nonneg.mpr (forfeitable_le loan)
  have hone : ∀ amount, expiredTotal clock.timestamp amount s.loans {loanId} =
      if loan.GraceExpired clock.timestamp then amount loan else 0 := by
    intro amount
    rw [expiredTotal, Finset.sum_singleton, hfound]
    rfl
  have hbook : ∀ loan', cranked d.config clock.timestamp loan = loan' →
      crankBook d.config clock.timestamp {loanId} s.loans =
        Function.update s.loans loanId (some loan') := by
    intro loan' hcranked
    funext id
    by_cases heq : id = loanId
    · subst heq
      rw [crankBook, if_pos (Finset.mem_singleton_self _), hfound, Function.update_self,
        Option.map_some, hcranked]
    · rw [crankBook, if_neg (by simpa using heq), Function.update_of_ne heq]
  by_cases hoverdue : loan.Overdue clock.timestamp
  · -- flagged: the vault is not involved
    have hexpired : ¬ loan.GraceExpired clock.timestamp :=
      fun hexpired => loan.not_overdue_and_expired _ ⟨hoverdue, hexpired⟩
    rw [crank, if_pos hoverdue] at happlies
    have hcranked : cranked d.config clock.timestamp loan = loan.flag d.config clock.timestamp :=
      if_pos hoverdue
    have hrecords := GuarantorVault.record_settle happlies.world.vaults (le_refl 0) (le_refl 0)
    refine { loans := ?_, balance := fun g => ?_, locked := fun g => ?_,
             settlement := happlies.world.settlement, token := ?_, paused := happlies.paused }
    · rw [happlies.loans, hbook _ hcranked, ← hid]
      rfl
    · rw [(hrecords g).1, hone, if_neg hexpired, ite_self]
    · rw [(hrecords g).2, hone, if_neg hexpired, add_zero, ite_self]
    · rw [hone, if_neg hexpired]
      exact happlies.world.balance
  · rw [crank, if_neg hoverdue] at happlies
    by_cases hexpired : loan.GraceExpired clock.timestamp
    · -- closed: its collateral is divided
      rw [if_pos hexpired] at happlies
      have hcranked : cranked d.config clock.timestamp loan = loan.default := by
        rw [cranked, if_neg hoverdue, if_pos hexpired]
      have hrecords := GuarantorVault.record_settle happlies.world.vaults hforfeit hrest
      refine { loans := ?_, balance := fun g => ?_, locked := fun g => ?_,
               settlement := happlies.world.settlement, token := ?_, paused := happlies.paused }
      · rw [happlies.loans, hbook _ hcranked, ← hid]
        rfl
      · rw [(hrecords g).1, hone, if_pos hexpired]
        rfl
      · rw [(hrecords g).2, hone, if_pos hexpired, add_sub_cancel]
        rfl
      · rw [hone, if_pos hexpired]
        exact happlies.world.balance
    · -- not due for anything
      rw [if_neg hexpired] at happlies
      have hcranked : cranked d.config clock.timestamp loan = loan := by
        rw [cranked, if_neg hoverdue, if_neg hexpired]
      have hvaults : s'.world.vault.vaults = s.world.vault.vaults := happlies.world.vaults
      refine { loans := ?_, balance := fun g => ?_, locked := fun g => ?_,
               settlement := happlies.world.settlement, token := ?_, paused := happlies.paused }
      · rw [happlies.loans, hbook _ hcranked, ← hfound, Function.update_eq_self]
        rfl
      · rw [hone, if_neg hexpired, sub_zero, GuarantorVault.State.collateralBalance,
          GuarantorVault.State.position, hvaults]
        rfl
      · rw [hone, if_neg hexpired, sub_zero, GuarantorVault.State.lockedAmount,
          GuarantorVault.State.position, hvaults]
        rfl
      · rw [hone, if_neg hexpired]
        exact happlies.world.balance

/-- Every existing loan can be poked while the engine runs, and a poke cranks it. -/
theorem poke_swept (h : s.Settled d tokens tok clock)
    (hrunning : LiquidationEngine.paused s.engine = false)
    (htime : InU64 (clock.timestamp + d.config.gracePeriodSecs))
    (hfound : s.loans loanId = some loan) (origin : Origin) :
    ∃ value s', perform d tokens clock (origin, .poke loanId) s = some (value, s') ∧
      Swept d tok clock.timestamp {loanId} s s' ∧ s'.Settled d tokens tok clock := by
  obtain ⟨value, hplan⟩ : ∃ value, Plans d origin clock s (.poke loanId) value
      (crank d.config clock.timestamp loan) := by
    unfold crank
    split
    · exact ⟨_, .flag (.inr ⟨rfl, rfl⟩) hrunning hfound ‹_› htime⟩
    · split
      · exact ⟨_, .settle (.inr ⟨rfl, rfl⟩) hrunning hfound ‹_›⟩
      · exact ⟨_, .idle hrunning hfound ‹_› ‹_›⟩
  obtain ⟨s', hok⟩ := hplan.succeeds h
  obtain ⟨happlies, hsettled⟩ := hplan.applies h hok
  exact ⟨value, s', hok, happlies.swept h.1 hfound, hsettled⟩

end Poke

/-- The operations of a sweep: anyone may make any of the pokes. -/
def sweep (pokes : List (Origin × ℕ)) : List (Origin × Operation) :=
  pokes.map fun poke => (poke.1, .poke poke.2)

/-- The loans a sweep names. -/
def sweptIds (pokes : List (Origin × ℕ)) : Finset ℕ := (pokes.map Prod.snd).toFinset

/-- **Sweep.** While the engine runs, existing loans can be poked one after the other. -/
theorem sweep_swept (h : s.Settled d tokens tok clock)
    (hrunning : LiquidationEngine.paused s.engine = false)
    (htime : InU64 (clock.timestamp + d.config.gracePeriodSecs)) {pokes : List (Origin × ℕ)}
    (hfound : ∀ poke ∈ pokes, (s.loans poke.2).isSome) :
    ∃ receipts s', runBatch (perform d tokens clock) (sweep pokes) s = some (receipts, s') ∧
      Swept d tok clock.timestamp (sweptIds pokes) s s' ∧ s'.Settled d tokens tok clock := by
  induction pokes generalizing s with
  | nil => exact ⟨[], s, rfl, .refl _ s, h⟩
  | cons poke pokes ih =>
      obtain ⟨hpoke, hpokes⟩ := List.forall_mem_cons.mp hfound
      obtain ⟨loan, hloan⟩ := Option.isSome_iff_exists.mp hpoke
      obtain ⟨value, s₁, hok, hswept₁, hsettled₁⟩ := poke_swept h hrunning htime hloan poke.1
      have hfound₁ : ∀ poke ∈ pokes, (s₁.loans poke.2).isSome := by
        intro poke hmem
        rw [hswept₁.isSome]
        exact hpokes poke hmem
      obtain ⟨receipts, s', hrest, hswept, hsettled⟩ :=
        ih hsettled₁ (hswept₁.paused.trans hrunning) hfound₁
      have hids : sweptIds (poke :: pokes) = {poke.2} ∪ sweptIds pokes := List.toFinset_cons
      refine ⟨_, s', runBatch_cons hok hrest, ?_, hsettled⟩
      rw [hids]
      exact hswept₁.trans hswept

/-- **Sweep.** In every reachable state with the engine running, and as long as the clock has room
for a grace period, existing loans can be poked one after the other, by anyone, in any order and any
number of times: the overdue ones among them are flagged, those past their grace are closed and no
other loan changes; each guarantor's balance falls by what its closed loans forfeit and its locked
part by what they still held; and the settlement address is paid the total. All of this depends on
which loans are named only. -/
theorem sweep_cranks_each_once {s : Timed (System T)} (h : (machine d tokens tok).Reachable s)
    (hrunning : LiquidationEngine.paused s.state.engine = false)
    (htime : s.now + d.config.gracePeriodSecs < 2 ^ 64) {pokes : List (Origin × ℕ)}
    (hfound : ∀ poke ∈ pokes, (s.state.loans poke.2).isSome) :
    ∃ receipts s', runBatch (perform d tokens s.clock) (sweep pokes) s.state = some (receipts, s') ∧
      (∀ id, s'.loans id = if id ∈ sweptIds pokes then
        (s.state.loans id).map (cranked d.config s.now) else s.state.loans id) ∧
      (∀ g, s'.world.vault.collateralBalance g = s.state.world.vault.collateralBalance g -
        expiredTotal s.now (forfeitedBy g) s.state.loans (sweptIds pokes)) ∧
      (∀ g, s'.world.vault.lockedAmount g = s.state.world.vault.lockedAmount g -
        expiredTotal s.now (unlockedFor g) s.state.loans (sweptIds pokes)) ∧
      ∀ settlement, s.state.world.vault.settlementAddress = some settlement → ∀ a,
        tok.balance s'.world.token a = tok.balance s.state.world.token a + gained d.vault settlement
          (expiredTotal s.now forfeitable s.state.loans (sweptIds pokes)) a := by
  obtain ⟨receipts, s', hbatch, hswept, -⟩ := sweep_swept (.of_reachable h) hrunning htime hfound
  exact ⟨receipts, s', hbatch, congrFun hswept.loans, hswept.balance, hswept.locked, hswept.token⟩

/-- Two loans of one guarantor, one a day past its grace and one overdue, swept twice each: the
first is closed, the second flagged. -/
theorem sweep_cranks_each_once_twoLoans : ∃ history s receipts s', sampleMachine.Run history s ∧
    runBatch (perform sample (fun _ => GuarantorVault.tableToken.client) s.clock)
      (sweep [(⟨none, [], 0⟩, 2), (⟨none, [], 0⟩, 1), (sampleOrigin, 1), (sampleOrigin, 2)])
      s.state = some (receipts, s') ∧
    s'.world.vault.collateralBalance ⟨4⟩ = s.state.world.vault.collateralBalance ⟨4⟩ -
      expiredTotal s.now (forfeitedBy ⟨4⟩) s.state.loans {2, 1} := by
  obtain ⟨history, s, hrun, hrunning, htime, hfirst, hsecond⟩ := exists_run_of_playLoan
    (P := fun _ s => LiquidationEngine.paused s.state.engine = false ∧
      s.now + sample.config.gracePeriodSecs < 2 ^ 64 ∧ (s.state.loans 1).isSome = true ∧
      (s.state.loans 2).isSome = true)
    (show (playLoan [(0, .ledger (.originate ⟨4⟩ 8 ⟨5⟩ 120 3 86400)),
      (86401, .engine (.flagOverdue 1)), (1382402, .ledger (.isOverdue 2))]).any _ = true by
        decide +kernel)
  have hfound : ∀ poke ∈ [((⟨none, [], 0⟩ : Origin), 2), (⟨none, [], 0⟩, 1), (sampleOrigin, 1),
      (sampleOrigin, 2)], (s.state.loans poke.2).isSome := by simp [hfirst, hsecond]
  obtain ⟨receipts, s', hbatch, -, hbalance, -⟩ :=
    sweep_cranks_each_once hrun.reachable hrunning htime hfound
  have hids : sweptIds [((⟨none, [], 0⟩ : Origin), 2), (⟨none, [], 0⟩, 1), (sampleOrigin, 1),
      (sampleOrigin, 2)] = {2, 1} := by decide
  rw [hids] at hbalance
  exact ⟨history, s, receipts, s', hrun, hbatch, hbalance ⟨4⟩⟩

end Protocol

end RemitCollateral
