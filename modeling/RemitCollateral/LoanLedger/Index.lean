import RemitCollateral.LoanLedger.Runs

/-! # The index of loans

Two ways to find a loan besides its id: the open-loan marker of a guarantor and a beneficiary, and
the enumeration by pages. Both rest on what a call can do to the store: nothing, open the next loan,
or record a move of one open loan. -/

namespace RemitCollateral.LoanLedger

open Soroban

variable {X : Type} {vaults : Address → VaultClient X} {env : Env} {config : Config} {now : ℕ}
  {here : Address} {s s' : State} {x x' : X}

/-- What a call at time `now` does to the loans and their markers. -/
inductive Changes (config : Config) (now : ℕ) (s s' : State) : Prop
  /-- It leaves them alone. -/
  | quiet (quiet : Quiet s s')
  /-- It opens the next loan, of a pair with no open loan. -/
  | opens {loan : Loan} {ttl : Lifetimes Key} (opened : loan.Opened now)
      (next : loan.id = getLoanCount s + 1)
      (unique : s.openLoans (loan.guarantor, loan.beneficiary) = none)
      (eq : s.open loan ttl = s')
  /-- It moves one open loan. -/
  | records {id : ℕ} {loan loan' : Loan} {ttl : Lifetimes Key} (found : s.loans id = some loan)
      (isOpen : loan.isOpen = true) (step : Loan.Step config now loan loan')
      (eq : s.record loan' ttl = s')

/-- Every call makes one of the three changes. -/
theorem Effect.changes (hvaults : ∀ a, (vaults a).RefusesEmpty) {call : Call}
    (heffect : Effect vaults env config s x s' x' call) : Changes config env.timestamp s s' := by
  cases call with
  | originate guarantor beneficiary partner principalUsd installmentCount intervalSecs =>
      obtain ⟨loan, hchecks, ⟨vault, -, hlock⟩, ttl, heq⟩ := heffect
      have hopens := hchecks.opens
      exact .opens (hchecks.opened (hvaults vault hlock)) (hopens ▸ rfl)
        (hopens ▸ hchecks.unique) heq
  | attestRepayment partner verifier loanId amountUsd =>
      obtain ⟨loan, hchecks, -, ttl, heq⟩ := heffect
      exact .records hchecks.found hchecks.isOpen
        (.repay amountUsd hchecks.isOpen hchecks.pos hchecks.le) heq
  | markGrace caller loanId =>
      obtain ⟨-, -, -, loan, hfound, hstatus, hlate, ttl, heq⟩ := heffect
      exact .records hfound (Loan.isOpen_iff.mpr (.inl hstatus)) (.flag hstatus hlate) heq
  | markDefaulted caller loanId =>
      obtain ⟨-, -, -, loan, hfound, hstatus, hexpired, ttl, heq⟩ := heffect
      exact .records hfound (Loan.isOpen_iff.mpr (.inr hstatus)) (.default hstatus hexpired) heq
  | reassignPartner admin loanId partner =>
      obtain ⟨-, -, -, -, loan, hfound, hopen, ttl, heq⟩ := heffect
      exact .records hfound hopen (.reassign partner hopen) heq
  | _ => exact .quiet heffect.2

/-- Every call of a run of the ledger makes one of the three changes. -/
theorem machine_changes {c : Clock} {input : Input}
    (hreach : (machine config here).Reachable ⟨c, s⟩)
    (hact : (machine config here).act c s input s') : Changes config c.timestamp s s' := by
  obtain ⟨-, X, vaults, x, x', hvaults, hok⟩ := hact
  have hsound : s.Sound config (input.origin.env c here).timestamp :=
    State.Sound.of_reachable hreach
  exact (exec_effect hsound hok).changes hvaults

/-! ## The open-loan marker -/

/-- The call that closes a loan removes the marker of its pair and no other. -/
theorem Changes.openLoans_of_closed (h : s.Sound config now) (hchanges : Changes config now s s')
    {id : ℕ} {loan loan' : Loan} (hfound : s.loans id = some loan) (hopen : loan.isOpen = true)
    (hfound' : s'.loans id = some loan') (hclosed : loan'.isOpen = false) :
    s'.openLoans = Function.update s.openLoans (loan.guarantor, loan.beneficiary) none := by
  -- a change that leaves this loan alone leaves it open
  have hsame : s'.loans id ≠ s.loans id := by
    intro heq
    rw [hfound', hfound] at heq
    obtain rfl := Option.some.inj heq
    exact absurd (hopen.symm.trans hclosed) (by decide)
  cases hchanges with
  | quiet hquiet => exact absurd (congrFun hquiet.loans id) hsame
  | opens hopened hnext hunique heq =>
      obtain rfl := heq
      -- the loan was there, so its id is not the next one
      have hne : id ≠ getLoanCount s + 1 := by
        rintro rfl
        exact absurd (hfound.symm.trans (h.fresh rfl)) (by simp)
      rw [← hnext] at hne
      exact absurd (Function.update_of_ne hne _ _) hsame
  | @records id₁ loan₁ loan₁' ttl hfound₁ hopen₁ hstep heq =>
      obtain rfl := heq
      rw [h.record_loans hfound₁ hstep ttl] at hfound' hsame
      obtain rfl : id = id₁ := by
        by_contra hne
        exact hsame (Function.update_of_ne hne _ _)
      obtain rfl : loan = loan₁ := Option.some.inj (hfound.symm.trans hfound₁)
      obtain rfl : loan₁' = loan' := by simpa using hfound'
      simp [State.record, hclosed, hstep.sameTerms.guarantor, hstep.sameTerms.beneficiary]

section Refusal

variable {guarantor partner : Address} {beneficiary : BytesN32} {principalUsd : ℤ}
  {installmentCount intervalSecs : ℕ}

/-- The checks of an origination that come before the one for an open loan. -/
structure Eligible (env : Env) (guarantor partner : Address) (principalUsd : ℤ)
    (installmentCount intervalSecs : ℕ) (s : State) : Prop where
  signed : env.authorized guarantor
  pos : 0 < principalUsd
  count : minInstallments ≤ installmentCount ∧ installmentCount ≤ maxInstallments
  interval : minIntervalSecs ≤ intervalSecs ∧ intervalSecs ≤ maxIntervalSecs
  tenor : installmentCount * intervalSecs ≤ maxTenorSecs
  registered : s.partners partner = some true

/-- Pricing a loan never finds one open. -/
theorem requiredLtvBps_not_raises : ¬ Raises (requiredLtvBps beneficiary s) .loanAlreadyOpen := by
  simp [requiredLtvBps, getConfig]

/-- Past the earlier checks, an origination is refused for an open loan exactly when the pair has a
marker. -/
theorem originate_raises_loanAlreadyOpen : Raises (originate vaults env guarantor beneficiary
      partner principalUsd installmentCount intervalSecs s x) .loanAlreadyOpen ↔
    Eligible env guarantor partner principalUsd installmentCount intervalSecs s ∧
      s.openLoans (guarantor, beneficiary) ≠ none := by
  have hltv : ∀ s, ¬ Raises (requiredLtvBps beneficiary s) .loanAlreadyOpen := fun s =>
    requiredLtvBps_not_raises
  unfold originate
  -- every other check raises another error, and the vault's trap is not one of this contract's
  simp only [raises_bind, Env.not_raises_requireAuth, raises_require, raises_orPanic,
    not_raises_callee, not_raises_i128, not_raises_u64, not_raises_i128Div, not_raises_pure,
    Env.requireAuth_eq_ok, require_eq_ok, authorizedPartner_eq, extendInstance_eq, hltv,
    reduceCtorEq, and_false, and_true, false_or, or_false, exists_false, exists_const,
    withTtl_partners, withTtl_openLoans, withTtl_withTtl]
  constructor
  · rintro ⟨hauth, hpos, ⟨hcount, hinterval⟩, htenor, hknown, hmarked⟩
    refine ⟨⟨hauth, hpos, hcount, hinterval, ?_, by simpa [Option.getD_eq_iff] using hknown⟩,
      hmarked⟩
    -- the saturated product is under the limit only if the product is
    unfold maxTenorSecs at htenor ⊢
    omega
  · rintro ⟨⟨hauth, hpos, hcount, hinterval, htenor, hknown⟩, hmarked⟩
    exact ⟨hauth, hpos, ⟨hcount, hinterval⟩, le_trans (min_le_left _ _) htenor,
      by simp [hknown], hmarked⟩

end Refusal

/-- **One open loan per pair.** In every run the marker of a pair names the open loan of that pair,
so there is at most one; the call that closes a loan removes its own marker and no other; and past
its earlier checks an origination is refused for an open loan exactly while there is one. -/
theorem openLoan_marks_one {history : List (Transition State Input)} {s : Timed State}
    (hrun : (machine config here).Run history s) :
    (∀ guarantor beneficiary id, s.state.openLoans (guarantor, beneficiary) = some id ↔
      ∃ loan, s.state.loans id = some loan ∧ loan.guarantor = guarantor ∧
        loan.beneficiary = beneficiary ∧ (loan.status = .active ∨ loan.status = .grace)) ∧
    (∀ id id' loan loan', s.state.loans id = some loan → s.state.loans id' = some loan' →
      loan.isOpen = true → loan'.isOpen = true → loan'.guarantor = loan.guarantor →
      loan'.beneficiary = loan.beneficiary → id' = id) ∧
    (∀ t ∈ history, ∀ id loan loan', t.pre.state.loans id = some loan → loan.isOpen = true →
      t.post.state.loans id = some loan' → loan'.isOpen = false →
        t.post.state.openLoans =
          Function.update t.pre.state.openLoans (loan.guarantor, loan.beneficiary) none) ∧
    ∀ (X : Type) (vaults : Address → VaultClient X) (env : Env) guarantor beneficiary partner
      principalUsd installmentCount intervalSecs x,
      Raises (originate vaults env guarantor beneficiary partner principalUsd installmentCount
        intervalSecs s.state x) .loanAlreadyOpen ↔
      Eligible env guarantor partner principalUsd installmentCount intervalSecs s.state ∧
        ∃ id loan, s.state.loans id = some loan ∧ loan.guarantor = guarantor ∧
          loan.beneficiary = beneficiary ∧ (loan.status = .active ∨ loan.status = .grace) := by
  have hsound := State.Sound.of_reachable hrun.reachable
  have hmarkers : ∀ guarantor beneficiary id,
      s.state.openLoans (guarantor, beneficiary) = some id ↔
        ∃ loan, s.state.loans id = some loan ∧ loan.guarantor = guarantor ∧
          loan.beneficiary = beneficiary ∧ (loan.status = .active ∨ loan.status = .grace) := by
    intro guarantor beneficiary id
    rw [hsound.markers]
    refine exists_congr fun loan => and_congr_right fun _ => ?_
    rw [Loan.isOpen_iff]
    tauto
  refine ⟨hmarkers, ?_, ?_, ?_⟩
  · intro id id' loan loan' hloan hloan' hopen hopen' hg hb
    have hmark := (hmarkers _ _ _).mpr ⟨loan, hloan, rfl, rfl, Loan.isOpen_iff.mp hopen⟩
    have hmark' := (hmarkers _ _ _).mpr ⟨loan', hloan', hg, hb, Loan.isOpen_iff.mp hopen'⟩
    exact Option.some.inj (hmark'.symm.trans hmark)
  · intro t ht id loan loan' hloan hopen hloan' hclosed
    obtain ⟨hreach, hstep⟩ := hrun.step_of_mem ht
    obtain ⟨pre, call, post⟩ := t
    cases hstep with
    | tick later =>
        -- time passing closes nothing
        obtain rfl : loan = loan' := Option.some.inj (hloan.symm.trans hloan')
        exact absurd (hopen.symm.trans hclosed) (by decide)
    | call acts =>
        exact (machine_changes hreach acts).openLoans_of_closed (State.Sound.of_reachable hreach)
          hloan hopen hloan' hclosed
  · intro X vaults env guarantor beneficiary partner principalUsd installmentCount intervalSecs x
    rw [originate_raises_loanAlreadyOpen, Option.ne_none_iff_exists']
    simp only [hmarkers]

/-- A pair whose first loan was repaid and which opened another: the marker names the second loan,
and a third is refused while it is open. -/
theorem openLoan_marks_one_reopened : ∃ history s, (machine deployConfig ⟨0⟩).Run history s ∧
    (∃ loan, s.state.loans 2 = some loan ∧ loan.guarantor = ⟨4⟩ ∧ loan.beneficiary = 7 ∧
      (loan.status = .active ∨ loan.status = .grace)) ∧
    Raises (originate (fun _ => fundedVault) (Origin.env ⟨none, [⟨4⟩], 0⟩ s.clock ⟨0⟩) ⟨4⟩ 7 ⟨5⟩ 60
      2 86400 s.state ()) .loanAlreadyOpen := by
  obtain ⟨history, s, -, hrun, -, hmark, hpartner⟩ := exists_run_of_playLoan
    (P := fun _ s _ => s.state.openLoans (⟨4⟩, 7) = some 2 ∧ s.state.partners ⟨5⟩ = some true)
    (show (playLoan 120 [(1, .attestRepayment ⟨5⟩ ⟨6⟩ 1 120),
      (2, .originate ⟨4⟩ 7 ⟨5⟩ 90 3 86400)]).any _ = true by decide +kernel)
  obtain ⟨hmarkers, -, -, hrefused⟩ := openLoan_marks_one hrun
  have hopen := (hmarkers _ _ _).mp hmark
  refine ⟨history, s, hrun, hopen, (hrefused _ _ _ _ _ _ _ _ _ _).mpr ⟨?_, 2, hopen⟩⟩
  exact { signed := .inr (by simp [Origin.env]), pos := by decide, count := by decide
          interval := by decide, tenor := by decide, registered := hpartner }

/-! ## Enumeration by pages -/

/-- The store holds the loans numbered from one to the count, each under its own id. -/
structure Dense (s : State) : Prop where
  present : ∀ id, (s.loans id).isSome ↔ 1 ≤ id ∧ id ≤ getLoanCount s
  keyed : ∀ id loan, s.loans id = some loan → loan.id = id

/-- No call skips an id, reuses one or removes a loan. -/
theorem Changes.dense (h : s.Sound config now) (hdense : Dense s)
    (hchanges : Changes config now s s') : Dense s' := by
  cases hchanges with
  | quiet hquiet =>
      refine ⟨?_, hquiet.loans ▸ hdense.keyed⟩
      rw [hquiet.loans, getLoanCount, hquiet.loanCount]
      exact hdense.present
  | @opens loan ttl hopened hnext hunique heq =>
      obtain rfl := heq
      refine ⟨fun id => ?_, fun id loan' hfound => ?_⟩
      · by_cases hid : id = loan.id
        · simp [State.open, getLoanCount, hid, hnext]
        · have hpresent := hdense.present id
          simp only [State.open, getLoanCount, Function.update_of_ne hid, Option.getD_some]
          rw [hpresent, hnext]
          omega
      · rcases update_eq_some.mp hfound with ⟨rfl, rfl⟩ | ⟨-, hfound⟩
        · rfl
        · exact hdense.keyed _ _ hfound
  | @records id loan loan' ttl hfound hopen hstep heq =>
      obtain rfl := heq
      have hid : loan'.id = id := hstep.sameTerms.id.trans (hdense.keyed _ _ hfound)
      refine ⟨fun id₁ => ?_, fun id₁ loan₁ hfound₁ => ?_⟩
      · rw [h.record_loans hfound hstep ttl]
        by_cases hsame : id₁ = id
        · -- the loan that moved was there
          have hpresent := hdense.present id
          rw [hfound] at hpresent
          rw [hsame, Function.update_self]
          exact hpresent
        · rw [Function.update_of_ne hsame]
          exact hdense.present id₁
      · rw [h.record_loans hfound hstep ttl] at hfound₁
        rcases update_eq_some.mp hfound₁ with ⟨rfl, rfl⟩ | ⟨-, hfound₁⟩
        · exact hid
        · exact hdense.keyed _ _ hfound₁

/-- The store of every reachable state is dense. -/
theorem Dense.of_reachable {s : Timed State} (h : (machine config here).Reachable s) :
    Dense s.state := by
  obtain ⟨history, hrun⟩ := h
  induction hrun with
  | start initial =>
      obtain ⟨origin, admin, vault, timelockSecs, hok⟩ := initial
      simp only [construct, bind_eq_ok, pure_eq_ok] at hok
      obtain ⟨-, -, hs⟩ := hok
      rw [← hs]
      refine ⟨fun id => ?_, by rintro _ _ ⟨⟩⟩
      simp only [extendInstance, getLoanCount, Option.isSome_none, Option.getD_some,
        Bool.false_eq_true, false_iff]
      omega
  | step run step ih =>
      cases step with
      | tick => exact ih
      | call acts =>
          exact (machine_changes run.reachable acts).dense
            (State.Sound.of_reachable run.reachable) ih

/-- The loans under consecutive ids of a dense store, in their order. -/
theorem Dense.map_id (h : Dense s) {start length : ℕ} (hstart : 1 ≤ start)
    (hend : start + length ≤ getLoanCount s + 1) :
    ((List.range' start length).filterMap s.loans).map Loan.id = List.range' start length := by
  induction length generalizing start with
  | zero => rfl
  | succ length ih =>
      obtain ⟨loan, hloan⟩ := Option.isSome_iff_exists.mp
        ((h.present start).mpr ⟨hstart, by omega⟩)
      rw [List.range'_succ, List.filterMap_cons_some hloan, List.map_cons, h.keyed _ _ hloan,
        ih (by omega) (by omega)]

/-- The ids a page covers. -/
def pageIds (startId limit count : ℕ) : List ℕ :=
  if startId = 0 ∨ count < startId then []
  else List.range' startId (min (startId + min limit 50) (count + 1) - startId)

/-- A page is exactly the loans under its ids, in their order. -/
theorem getLoansRange_eq (h : Dense s) (hcount : getLoanCount s < 2 ^ 64 - 51)
    (startId limit : ℕ) : ∃ page, getLoansRange startId limit s = .ok page ∧
      page.map Loan.id = pageIds startId limit (getLoanCount s) ∧
      ∀ loan ∈ page, s.loans loan.id = some loan := by
  by_cases hempty : startId = 0 ∨ getLoanCount s < startId
  · refine ⟨[], ?_, ?_, by simp⟩
    · simp [getLoansRange, hempty]
    · simp [pageIds, hempty]
  · -- a page that is not empty starts at an existing loan, so its end is in range
    have hend : InU64 (startId + min limit 50) := by
      unfold InU64
      omega
    have hstore : InU64 (getLoanCount s + 1) := by
      unfold InU64
      omega
    refine ⟨(List.range' startId (min (startId + min limit 50) (getLoanCount s + 1) -
      startId)).filterMap s.loans, ?_, ?_, ?_⟩
    · simp only [getLoansRange, if_neg hempty, bind_eq_ok, u64_eq_ok, pure_eq_ok]
      exact ⟨_, ⟨hend, rfl⟩, _, ⟨hstore, rfl⟩, rfl⟩
    · rw [pageIds, if_neg hempty]
      exact h.map_id (by omega) (by omega)
    intro loan hloan
    obtain ⟨id, -, hfound⟩ := List.mem_filterMap.mp hloan
    rw [h.keyed _ _ hfound]
    exact hfound

/-- The client that reads pages of at most `limit` loans, each starting after the last loan of the
one before, until a page is empty; `none` when a read traps or `fuel` reads were not enough. -/
def fetchPages (limit : ℕ) (s : State) : (fuel startId : ℕ) → Option (List (List Loan))
  | 0, _ => none
  | fuel + 1, startId =>
      match getLoansRange startId limit s with
      | .error _ => none
      | .ok page =>
          match page.getLast? with
          | none => some []
          | some last => (fetchPages limit s fuel (last.id + 1)).map (page :: ·)

/-- From any loan on, the client reads every loan that is left, and stops. -/
theorem fetchPages_eq (h : Dense s) (hcount : getLoanCount s < 2 ^ 64 - 51) {limit : ℕ}
    (hlimit : 1 ≤ limit) {fuel startId : ℕ} (hstart : 1 ≤ startId)
    (hle : startId ≤ getLoanCount s + 1) (hfuel : getLoanCount s + 1 < startId + fuel) :
    ∃ pages, fetchPages limit s fuel startId = some pages ∧
      pages.flatten.map Loan.id = List.range' startId (getLoanCount s + 1 - startId) ∧
      ∀ loan ∈ pages.flatten, s.loans loan.id = some loan := by
  induction fuel generalizing startId with
  | zero => omega
  | succ fuel ih =>
      obtain ⟨page, hpage, hids, hstored⟩ := getLoansRange_eq h hcount startId limit
      by_cases hdone : getLoanCount s < startId
      · -- the page past the last loan is empty
        have hempty : page = [] := by
          rw [pageIds, if_pos (.inr hdone)] at hids
          exact List.map_eq_nil_iff.mp hids
        refine ⟨[], by simp [fetchPages, hpage, hempty], ?_, by simp⟩
        rw [show getLoanCount s + 1 - startId = 0 by omega]
        rfl
      · -- otherwise it is not, and the next one starts right after it
        obtain ⟨length, hlength, hpos⟩ : ∃ length,
            min (startId + min limit 50) (getLoanCount s + 1) = startId + length ∧ 0 < length :=
          ⟨min (startId + min limit 50) (getLoanCount s + 1) - startId, by omega, by omega⟩
        rw [pageIds, if_neg (by omega), hlength, Nat.add_sub_cancel_left] at hids
        have hlast : page.getLast?.map Loan.id = some (startId + length - 1) := by
          rw [← List.getLast?_map, hids, List.getLast?_range', if_neg (by omega)]
        obtain ⟨last, hlast, hlastId⟩ := Option.map_eq_some_iff.mp hlast
        have hnext : 1 ≤ last.id + 1 := Nat.succ_pos _
        obtain ⟨pages, hpages, hrest, hrestStored⟩ := ih hnext (by omega) (by omega)
        refine ⟨page :: pages, by simp [fetchPages, hpage, hlast, hpages], ?_, ?_⟩
        · rw [List.flatten_cons, List.map_append, hids, hrest, hlastId,
            show startId + length - 1 + 1 = startId + 1 * length by omega, List.range'_append]
          congr 1
          omega
        · intro loan hloan
          rcases List.mem_append.mp (List.flatten_cons ▸ hloan) with hloan | hloan
          · exact hstored loan hloan
          · exact hrestStored loan hloan

/-- **Pagination.** In every reachable state the loans are those numbered from one to the count,
each under its own id; a page returns exactly the loans of its range, in order; and with a limit of
at least one the client that follows the pages ends, having read every loan exactly once in
order. -/
theorem pages_enumerate_loans {s : Timed State} (h : (machine config here).Reachable s)
    (hcount : getLoanCount s.state < 2 ^ 64 - 51) :
    (∀ id, (s.state.loans id).isSome ↔ 1 ≤ id ∧ id ≤ getLoanCount s.state) ∧
    (∀ id loan, s.state.loans id = some loan → loan.id = id) ∧
    (∀ startId limit, ∃ page, getLoansRange startId limit s.state = .ok page ∧
      page.map Loan.id = (if startId = 0 ∨ getLoanCount s.state < startId then []
        else List.range' startId
          (min (startId + min limit 50) (getLoanCount s.state + 1) - startId)) ∧
      ∀ loan ∈ page, s.state.loans loan.id = some loan) ∧
    ∀ limit, 1 ≤ limit → ∀ fuel, getLoanCount s.state < fuel →
      ∃ pages, fetchPages limit s.state fuel 1 = some pages ∧
        pages.flatten.map Loan.id = List.range' 1 (getLoanCount s.state) ∧
        ∀ loan ∈ pages.flatten, s.state.loans loan.id = some loan := by
  have hdense := Dense.of_reachable h
  refine ⟨hdense.present, hdense.keyed, getLoansRange_eq hdense hcount, ?_⟩
  intro limit hlimit fuel hfuel
  exact fetchPages_eq hdense hcount hlimit (le_refl _) (by omega) (by omega)

/-- Three loans of one guarantor, read two at a time: the client ends with the ids one to three. -/
theorem pages_enumerate_loans_threeLoans : ∃ history s, (machine deployConfig ⟨0⟩).Run history s ∧
    getLoanCount s.state = 3 ∧ ∃ pages, fetchPages 2 s.state 4 1 = some pages ∧
      pages.flatten.map Loan.id = [1, 2, 3] ∧
      ∀ loan ∈ pages.flatten, s.state.loans loan.id = some loan := by
  obtain ⟨history, s, -, hrun, -, hcount⟩ := exists_run_of_playLoan
    (P := fun _ s _ => getLoanCount s.state = 3)
    (show (playLoan 120 [(1, .originate ⟨4⟩ 8 ⟨5⟩ 90 3 86400),
      (2, .originate ⟨4⟩ 9 ⟨5⟩ 60 2 86400)]).any _ = true by decide +kernel)
  obtain ⟨-, -, -, hpages⟩ := pages_enumerate_loans hrun.reachable (by rw [hcount]; decide)
  have hread := hpages 2 (by decide) 4 (by omega)
  rw [hcount] at hread
  exact ⟨history, s, hrun, hcount, hread⟩

end RemitCollateral.LoanLedger
