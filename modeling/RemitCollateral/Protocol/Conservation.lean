import RemitCollateral.Protocol.Accounting

/-! # Conservation

Everything the vault does with the collateral of a loan is published by a call that names the loan.
The statement of a loan collects these postings over its whole life: what was returned, what was
seized and what is still held make up its collateral, and what a guarantor has lost is what was
seized from its defaulted loans. -/

namespace RemitCollateral.Protocol

open Soroban
open GuarantorVault (Posting Posts Topic moved)
open LoanLedger (Loan Config)

variable {T : Type} {d : Deployment} {tokens : Address → GuarantorVault.TokenClient T}
  {tok : GuarantorVault.StandardToken T} {origin : Origin} {clock : Clock} {s s' : System T}

/-! ## Statements -/

/-- The amount a list of postings moves under one topic, for whomever. -/
def amountOf (topic : Topic) (postings : List Posting) : ℤ :=
  ((postings.filter (·.topic = topic)).map Posting.amount).sum

/-- The loan a call repays or settles. -/
def Call.loan : Call → Option ℕ
  | .ledger (.attestRepayment _ _ loanId _) => some loanId
  | .engine (.liquidate loanId) => some loanId
  | .engine (.poke loanId) => some loanId
  | _ => none

/-- What a transition published for a loan, latest first. -/
def publishedFor (id : ℕ) (t : Transition (System T) (Input T)) : List Posting :=
  match t.call with
  | some (.call _ call) =>
      if call.loan = some id then t.post.state.world.vault.postingsSince t.pre.state.world.vault
      else []
  | _ => []

/-- The statement of a loan: what the vault published for it in a run, latest first. -/
def statement (id : ℕ) (history : List (Transition (System T) (Input T))) : List Posting :=
  history.flatMap (publishedFor id)

/-- The payments guarantors made in a run, latest first. -/
def payments (history : List (Transition (System T) (Input T))) : List Posting :=
  history.flatMap fun t =>
    match t.call with
    | some (.call _ call) => call.payments
    | _ => []

section Amounts

variable (topic : Topic) (postings postings' : List Posting)

@[simp] theorem amountOf_nil : amountOf topic [] = 0 := rfl

@[simp] theorem amountOf_append : amountOf topic (postings ++ postings') =
    amountOf topic postings + amountOf topic postings' := by
  simp [amountOf]

@[simp] theorem statement_cons (id : ℕ) (t : Transition (System T) (Input T))
    (history : List (Transition (System T) (Input T))) :
    statement id (t :: history) = publishedFor id t ++ statement id history := rfl

theorem amountOf_returned {guarantor : Address} {amount : ℤ} (h0 : 0 ≤ amount) :
    amountOf topic (returned guarantor amount) = if topic = .release then amount else 0 := by
  unfold returned
  split
  · by_cases htopic : topic = .release <;> simp [amountOf, htopic, eq_comm]
  · have : amount = 0 := by omega
    simp [this]

theorem amountOf_seized {guarantor : Address} {amount : ℤ} (h0 : 0 ≤ amount) :
    amountOf topic (seized guarantor amount) = if topic = .forfeit then amount else 0 := by
  unfold seized
  split
  · by_cases htopic : topic = .forfeit <;> simp [amountOf, htopic, eq_comm]
  · have : amount = 0 := by omega
    simp [this]

/-- The forfeits among a list of postings. -/
def forfeits : List Posting := postings.filter (·.topic = .forfeit)

@[simp] theorem forfeits_nil : forfeits [] = [] := rfl

@[simp] theorem forfeits_append :
    forfeits (postings ++ postings') = forfeits postings ++ forfeits postings' :=
  List.filter_append ..

theorem amountOf_forfeit :
    amountOf .forfeit postings = ((forfeits postings).map Posting.amount).sum := rfl

/-- What is moved for one guarantor only is moved for that one. -/
theorem moved_eq_amountOf {guarantor : Address} (hown : ∀ p ∈ postings, p.guarantor = guarantor)
    (g : Address) :
    moved topic g postings = if guarantor = g then amountOf topic postings else 0 := by
  induction postings with
  | nil => simp
  | cons p postings ih =>
      have hp := hown p (.head _)
      rw [GuarantorVault.moved_cons, ih fun q hq => hown q (.tail _ hq), hp]
      by_cases hg : guarantor = g
      · by_cases htopic : p.topic = topic <;> simp [amountOf, hg, htopic]
      · simp [hg]

/-- Returning collateral forfeits nothing. -/
@[simp] theorem forfeits_returned (guarantor : Address) (amount : ℤ) :
    forfeits (returned guarantor amount) = [] := by
  unfold returned
  split <;> rfl

/-- What is returned is returned to the guarantor. -/
theorem guarantor_of_mem_returned {guarantor : Address} {amount : ℤ} {p : Posting}
    (h : p ∈ returned guarantor amount) : p.guarantor = guarantor := by
  unfold returned at h
  split at h
  · rw [List.mem_singleton.mp h]
  · cases h

/-- What is seized is seized from the guarantor. -/
theorem guarantor_of_mem_seized {guarantor : Address} {amount : ℤ} {p : Posting}
    (h : p ∈ seized guarantor amount) : p.guarantor = guarantor := by
  unfold seized at h
  split at h
  · rw [List.mem_singleton.mp h]
  · cases h

end Amounts

section Settlement

variable {config : Config} {now : ℕ} {loan : Loan}

/-- A liquidation publishes all that is still held, and one forfeit. -/
theorem statement_settlement (hconfig : config.Accepted) (h : loan.Sound config now)
    (hopen : loan.isOpen = true) :
    amountOf .release (settlement loan) + amountOf .forfeit (settlement loan) = loan.remaining ∧
      forfeits (settlement loan) = [⟨.forfeit, loan.guarantor, forfeitable loan⟩] := by
  -- an open loan owes something and holds something
  have hpos : 0 < forfeitable loan := lt_min (Int.sub_pos.mpr (h.lt_of_open hopen))
    (h.remaining_pos hconfig hopen)
  have hrest := sub_nonneg.mpr (forfeitable_le loan)
  constructor
  · simp only [settlement, amountOf_append, amountOf_returned _ hrest,
      amountOf_seized _ (le_of_lt hpos), reduceCtorEq, if_true, if_false]
    omega
  · rw [settlement, forfeits_append, forfeits_returned, seized, if_pos hpos]
    rfl

end Settlement

/-! ## What a move publishes for a loan -/

/-- An open loan has not defaulted. -/
theorem not_defaulted {loan : Loan} (hopen : loan.isOpen = true) : loan.status ≠ .defaulted := by
  rcases Loan.isOpen_iff.mp hopen with hstatus | hstatus <;> simp [hstatus]

/-- What a loan holds of its own guarantor. -/
theorem held_own (loan : Loan) : held loan.guarantor (some loan) =
    if loan.isOpen = true then loan.collateralLocked - loan.collateralReleased else 0 := by
  simp [held, Loan.remaining]

/-- What a step makes of the entry of one loan, and what it publishes for that loan. -/
inductive Carries (config : Config) (now : ℕ) : Option Loan → List Posting → Option Loan → Prop
  | leaves (entry : Option Loan) : Carries config now entry [] entry
  | opens {loan : Loan} (opened : loan.Opened now) : Carries config now none [] (some loan)
  | keeps {loan loan' : Loan} (terms : Loan.SameTerms loan loan') (isOpen : loan.isOpen = true)
      (isOpen' : loan'.isOpen = true)
      (released : loan'.collateralReleased = loan.collateralReleased) :
      Carries config now (some loan) [] (some loan')
  | repays {loan : Loan} {amount : ℤ} (isOpen : loan.isOpen = true) (pos : 0 < amount) :
      Carries config now (some loan) (returned loan.guarantor
        (loan.earned config (loan.totalRepaidUsd + amount) - loan.collateralReleased))
        (some (loan.repay config now amount))
  | settles {loan : Loan} (grace : loan.status = .grace) :
      Carries config now (some loan) (settlement loan) (some loan.default)

namespace Carries

variable {config : Config} {now : ℕ} {loan loan' : Loan} {new : List Posting}

/-- A step leaves the terms of a loan alone. -/
theorem terms (h : Carries config now (some loan) new (some loan')) : loan.SameTerms loan' := by
  cases h with
  | leaves => exact .refl loan
  | keeps terms => exact terms
  | repays | settles => constructor <;> rfl

/-- What a step publishes for a loan is published for its guarantor. -/
theorem own (h : Carries config now (some loan) new (some loan')) :
    ∀ p ∈ new, p.guarantor = loan.guarantor := by
  intro p hp
  cases h with
  | leaves | keeps => cases hp
  | repays => exact guarantor_of_mem_returned hp
  | settles =>
      rcases List.mem_append.mp hp with hp | hp
      · exact guarantor_of_mem_returned hp
      · exact guarantor_of_mem_seized hp

/-- What a step publishes for a loan is what the loan no longer holds. -/
theorem whole (hconfig : config.Accepted) (hsound : loan.Sound config now)
    (h : Carries config now (some loan) new (some loan')) :
    amountOf .release new + amountOf .forfeit new + held loan'.guarantor (some loan') =
      held loan.guarantor (some loan) := by
  cases h with
  | leaves => simp
  | keeps terms isOpen isOpen' released =>
      rw [held_of_open isOpen, held_of_open isOpen', if_pos rfl, if_pos rfl, Loan.remaining,
        Loan.remaining, released, terms.collateralLocked]
      simp
  | @repays _ amount isOpen pos =>
      have hreturned := earned_sub_nonneg hconfig hsound isOpen pos
      have hguarantor : (loan.repay config now amount).guarantor = loan.guarantor := rfl
      rw [hguarantor, held_repay isOpen, held_of_open isOpen, if_pos rfl, if_pos rfl,
        amountOf_returned _ hreturned, amountOf_returned _ hreturned, if_pos rfl,
        if_neg (by decide)]
      omega
  | settles grace =>
      have isOpen : loan.isOpen = true := Loan.isOpen_iff.mpr (.inr grace)
      have hclosed : loan.default.isOpen = false := rfl
      rw [(statement_settlement hconfig hsound isOpen).1, held_of_open isOpen, if_pos rfl,
        held_of_closed hclosed, add_zero]

/-- A step seizes from a loan when it closes it as defaulted, and otherwise not. -/
theorem forfeits_cases (hconfig : config.Accepted) (hsound : loan.Sound config now)
    (h : Carries config now (some loan) new (some loan')) :
    (loan' = loan ∧ forfeits new = []) ∨
      (loan.status ≠ .defaulted ∧ loan'.status ≠ .defaulted ∧ forfeits new = []) ∨
      loan.status = .grace ∧ loan' = loan.default ∧
        forfeits new = [⟨.forfeit, loan.guarantor, forfeitable loan⟩] := by
  cases h with
  | leaves => exact .inl ⟨rfl, rfl⟩
  | keeps terms isOpen isOpen' =>
      exact .inr (.inl ⟨not_defaulted isOpen, not_defaulted isOpen', rfl⟩)
  | repays isOpen =>
      refine .inr (.inl ⟨not_defaulted isOpen, fun hdefault => ?_, forfeits_returned ..⟩)
      simp only [Loan.repay] at hdefault
      split at hdefault
      · cases hdefault
      · split at hdefault
        · cases hdefault
        · exact not_defaulted isOpen hdefault
  | settles grace =>
      exact .inr (.inr ⟨grace, rfl,
        (statement_settlement hconfig hsound (Loan.isOpen_iff.mpr (.inr grace))).2⟩)

end Carries

/-- A move that records one loan and publishes for it carries every entry. -/
theorem carries_record (h : s.ledger.Sound d.config clock.timestamp) {loanId : ℕ}
    {loan loan' : Loan} (hfound : s.ledger.loans loanId = some loan)
    (hrecord : ∃ ttl, s.ledger.record loan' ttl = s'.ledger) (hid : loan'.id = loan.id)
    {new : List Posting} {call : Call} (hcall : call.loan = some loanId ∨ new = [])
    (hcarries : Carries d.config clock.timestamp (some loan) new (some loan')) (id : ℕ) :
    Carries d.config clock.timestamp (s.loans id) (if call.loan = some id then new else [])
      (s'.loans id) := by
  rw [loans_record h hfound hrecord hid]
  by_cases heq : id = loanId
  · -- the loan itself, for which the call publishes
    subst heq
    rw [Function.update_self, System.loans, hfound]
    rcases hcall with hcall | rfl
    · rwa [if_pos hcall]
    · simpa using hcarries
  · rw [Function.update_of_ne heq]
    rcases hcall with hcall | rfl
    · rw [if_neg (by rw [hcall, Option.some.injEq]; exact Ne.symm heq)]
      exact .leaves _
    · simpa using Carries.leaves _

/-- Every move carries every entry. -/
theorem Moves.carries (h : s.Sound d tokens tok clock.timestamp) {call : Call}
    (hmoves : Moves d origin clock s s' call) (id : ℕ) :
    Carries d.config clock.timestamp (s.loans id)
      (if call.loan = some id then s'.world.vault.postingsSince s.world.vault else [])
      (s'.loans id) := by
  have hledger := h.ledger
  cases hmoves with
  | quiet hquiet hposts =>
      rw [hposts.postingsSince, ite_self, System.loans, System.loans, hquiet.loans]
      exact .leaves _
  | deposit _ _ hsame | withdraw _ _ hsame =>
      rw [if_neg (by simp [Call.loan]), System.loans, System.loans, hsame]
      exact .leaves _
  | @originate _ _ _ _ _ _ loan hchecks hpos hopen =>
      rw [if_neg (by simp [Call.loan]), loans_open hopen]
      by_cases heq : id = loan.id
      · subst heq
        rw [System.loans, hledger.fresh (hchecks.opens ▸ rfl), Function.update_self]
        exact .opens (hchecks.opened hpos)
      · rw [Function.update_of_ne heq]
        exact .leaves _
  | reassign _ hfound hopen hrecord hposts =>
      rw [hposts.postingsSince]
      exact carries_record hledger hfound hrecord rfl (.inr rfl)
        (.keeps (by constructor <;> rfl) hopen hopen rfl) id
  | attest hchecks hrecord hposts =>
      rw [hposts.postingsSince]
      exact carries_record hledger hchecks.found hrecord rfl (.inl rfl)
        (.repays hchecks.isOpen hchecks.pos) id
  | flag hcrank _ hfound hstatus _ hrecord hposts =>
      rw [hposts.postingsSince]
      exact carries_record hledger hfound hrecord rfl (.inr rfl)
        (.keeps (by constructor <;> rfl) (Loan.isOpen_iff.mpr (.inl hstatus)) rfl rfl) id
  | settle hcrank _ hfound hstatus _ hrecord hposts =>
      rw [hposts.postingsSince]
      exact carries_record hledger hfound hrecord rfl
        (.inl (by rcases hcrank with rfl | rfl <;> rfl)) (.settles hstatus) id

/-- Every step of a run carries every entry. -/
theorem carries_step {history : List (Transition (System T) (Input T))} {s s' : Timed (System T)}
    {input : Option (Input T)} (hrun : (machine d tokens tok).Run history s)
    (hstep : (machine d tokens tok).Step s input s') (id : ℕ) :
    Carries d.config s.now (s.state.loans id) (publishedFor id ⟨s, input, s'⟩)
      (s'.state.loans id) := by
  cases hstep with
  | tick => exact .leaves _
  | @call c s s' input acts =>
      cases input with
      | call origin call =>
          have hsound := System.Sound.of_reachable hrun.reachable
          exact (exec_moves hsound acts.1 acts.2.1).1.carries hsound id
      | moveTokens token =>
          obtain ⟨-, rfl⟩ := acts
          exact .leaves _

/-! ## The life of a loan -/

/-- What a run published for a loan, from its opening on. -/
structure Conserved (id : ℕ) (loan : Loan) (history : List (Transition (System T) (Input T))) : Prop
    where
  /-- What was returned, what was seized and what is still held make up the collateral. -/
  whole : amountOf .release (statement id history) + amountOf .forfeit (statement id history) +
    (if loan.isOpen = true then loan.collateralLocked - loan.collateralReleased else 0) =
      loan.collateralLocked
  /-- All of it was moved for the guarantor of the loan. -/
  own : ∀ p ∈ statement id history, p.guarantor = loan.guarantor
  /-- Nothing is seized for a loan that did not default. -/
  kept : loan.status ≠ .defaulted → forfeits (statement id history) = []
  /-- For a loan in default one amount was seized, once: what was owed, up to what was still held
  when it defaulted. -/
  lost : loan.status = .defaulted → ∃ closing ∈ history, ∃ before,
    closing.pre.state.loans id = some before ∧ before.status = .grace ∧
    closing.post.state.loans id = some loan ∧ loan = before.default ∧
    forfeits (statement id history) = [⟨.forfeit, loan.guarantor,
      min (loan.principalUsd - loan.totalRepaidUsd)
        (before.collateralLocked - before.collateralReleased)⟩]

/-- A step carries the account of a loan on. -/
theorem Conserved.step {config : Config} {now : ℕ} (hconfig : config.Accepted) {id : ℕ}
    {loan loan' : Loan} {history : List (Transition (System T) (Input T))}
    (h : Conserved id loan history) (hsound : loan.Sound config now)
    {t : Transition (System T) (Input T)} (hbefore : t.pre.state.loans id = some loan)
    (hafter : t.post.state.loans id = some loan')
    (hcarries : Carries config now (some loan) (publishedFor id t) (some loan')) :
    Conserved id loan' (t :: history) where
  whole := by
    have hwhole := h.whole
    have hmoved := hcarries.whole hconfig hsound
    rw [statement_cons, amountOf_append, amountOf_append, ← held_own,
      hcarries.terms.collateralLocked]
    rw [← held_own] at hwhole
    omega
  own p hp := by
    rw [hcarries.terms.guarantor]
    rcases List.mem_append.mp hp with hp | hp
    · exact hcarries.own p hp
    · exact h.own p hp
  kept hstatus := by
    rw [statement_cons, forfeits_append]
    rcases hcarries.forfeits_cases hconfig hsound with
        ⟨rfl, hnothing⟩ | ⟨hbefore, -, hnothing⟩ | ⟨-, rfl, -⟩
    · rw [hnothing, h.kept hstatus]
      rfl
    · rw [hnothing, h.kept hbefore]
      rfl
    · exact absurd rfl hstatus
  lost hstatus := by
    rw [statement_cons, forfeits_append]
    rcases hcarries.forfeits_cases hconfig hsound with
        ⟨rfl, hnothing⟩ | ⟨-, hopen, -⟩ | ⟨hgrace, rfl, honce⟩
    · -- it had defaulted before this step
      obtain ⟨closing, hmem, hrest⟩ := h.lost hstatus
      rw [hnothing]
      exact ⟨closing, .tail _ hmem, hrest⟩
    · exact absurd hstatus hopen
    · -- this step settles it
      have hkept : forfeits (statement id history) = [] := h.kept (by simp [hgrace])
      rw [honce, hkept]
      exact ⟨t, .head _, loan, hbefore, hgrace, hafter, rfl, rfl⟩

/-- An account opens with its loan, and with nothing published. -/
theorem Conserved.open {now id : ℕ} {loan : Loan} (hopened : loan.Opened now)
    {history : List (Transition (System T) (Input T))} (hempty : statement id history = []) :
    Conserved id loan history where
  whole := by
    have hopen : loan.isOpen = true := Loan.isOpen_iff.mpr (.inl hopened.status)
    rw [hempty, if_pos hopen, hopened.released]
    simp
  own := by simp [hempty]
  kept _ := by rw [hempty, forfeits_nil]
  lost hdefault := by simp [hopened.status] at hdefault

/-- The account of an entry: nothing is published for a loan before it is opened. -/
def Account (id : ℕ) (history : List (Transition (System T) (Input T))) : Option Loan → Prop
  | none => statement id history = []
  | some loan => Conserved id loan history

/-- A step carries the account of an entry on. -/
theorem Account.step {config : Config} {now id : ℕ} {t : Transition (System T) (Input T)}
    {history : List (Transition (System T) (Input T))} (hconfig : config.Accepted)
    (h : Account id history (t.pre.state.loans id))
    (hsound : ∀ loan, t.pre.state.loans id = some loan → loan.Sound config now)
    (hcarries : Carries config now (t.pre.state.loans id) (publishedFor id t)
      (t.post.state.loans id)) : Account id (t :: history) (t.post.state.loans id) := by
  cases hbefore : t.pre.state.loans id with
  | none =>
      rw [hbefore] at h hcarries
      have hempty : publishedFor id t = [] → statement id (t :: history) = [] := by
        intro hnothing
        rw [statement_cons, hnothing, List.nil_append]
        exact h
      cases hafter : t.post.state.loans id with
      | none =>
          rw [hafter] at hcarries
          generalize publishedFor id t = new at hcarries hempty
          cases hcarries
          exact hempty rfl
      | some loan =>
          rw [hafter] at hcarries
          generalize publishedFor id t = new at hcarries hempty
          cases hcarries with
          | opens hopened => exact .open hopened (hempty rfl)
  | some loan =>
      rw [hbefore] at h hcarries
      cases hafter : t.post.state.loans id with
      | none =>
          rw [hafter] at hcarries
          generalize publishedFor id t = new at hcarries
          cases hcarries
      | some loan' =>
          rw [hafter] at hcarries
          exact Conserved.step hconfig h (hsound loan hbefore) hbefore hafter hcarries

/-- **Accounts.** Every run keeps the account of every loan. -/
theorem account_of_run {history : List (Transition (System T) (Input T))} {s : Timed (System T)}
    (hrun : (machine d tokens tok).Run history s) (id : ℕ) :
    Account id history (s.state.loans id) := by
  induction hrun with
  | start initial =>
      rw [(machine_books d tokens tok).initial _ initial id]
      exact rfl
  | @step history s s' input run step ih =>
      have hledger := (System.Sound.of_reachable run.reachable).ledger
      exact ih.step (t := ⟨s, input, s'⟩) hledger.accepted (hledger.loans id)
        (carries_step run step id)

/-! ## The loss of a guarantor -/

/-- An amount of a loan, if it is a defaulted loan of `g`. -/
def ofDefaulted (g : Address) (amount : Loan → ℤ) : Option Loan → ℤ
  | some loan => if loan.guarantor = g ∧ loan.status = .defaulted then amount loan else 0
  | none => 0

/-- A move posts the payments of its call, and no others. -/
theorem Moves.pays {call : Call} (hmoves : Moves d origin clock s s' call) :
    ∃ new, Posts new s.world.vault s'.world.vault ∧ ∀ topic, topic = .deposit ∨ topic = .withdraw →
      ∀ g, moved topic g new = moved topic g call.payments := by
  cases hmoves with
  | quiet _ hposts _ hunpaid => exact ⟨[], hposts, fun _ _ _ => by rw [hunpaid]⟩
  | deposit _ _ _ hposts | withdraw _ _ _ hposts => exact ⟨_, hposts, fun _ _ _ => rfl⟩
  | originate _ _ _ hposts =>
      refine ⟨_, hposts, ?_⟩
      rintro topic (rfl | rfl) g <;> simp [Call.payments]
  | reassign _ _ _ _ hposts => exact ⟨_, hposts, fun _ _ _ => rfl⟩
  | attest _ _ hposts =>
      refine ⟨_, hposts, ?_⟩
      rintro topic (rfl | rfl) g <;> exact moved_returned_of_ne _ _ nofun
  | flag hcrank _ _ _ _ _ hposts =>
      refine ⟨_, hposts, fun _ _ _ => ?_⟩
      rcases hcrank with rfl | rfl <;> rfl
  | settle hcrank _ _ _ _ _ hposts =>
      have hunpaid : call.payments = [] := by rcases hcrank with rfl | rfl <;> rfl
      refine ⟨_, hposts, ?_⟩
      rw [hunpaid]
      rintro topic (rfl | rfl) g <;>
        simp [settlement, moved_returned_of_ne, moved_seized_of_ne]

/-- What a move does to a record of the vault. -/
theorem Moves.balance {call : Call} (hmoves : Moves d origin clock s s' call) (g : Address) :
    s'.world.vault.collateralBalance g = s.world.vault.collateralBalance g +
      moved .deposit g call.payments - moved .withdraw g call.payments -
        moved .forfeit g (s'.world.vault.postingsSince s.world.vault) := by
  obtain ⟨new, hposts, hpays⟩ := hmoves.pays
  rw [hposts.postingsSince, hposts.balance, hpays .deposit (.inl rfl), hpays .withdraw (.inr rfl)]

/-- What a move seizes it seizes for a loan of the book. -/
theorem Moves.seizes {call : Call} (hmoves : Moves d origin clock s s' call) :
    (∀ g, moved .forfeit g (s'.world.vault.postingsSince s.world.vault) = 0) ∨
      ∃ id loan, s.loans id = some loan ∧ call.loan = some id := by
  cases hmoves with
  | quiet _ hposts | reassign _ _ _ _ hposts | flag _ _ _ _ _ _ hposts =>
      rw [hposts.postingsSince]
      exact .inl fun _ => rfl
  | deposit _ _ _ hposts | withdraw _ _ _ hposts | originate _ _ _ hposts =>
      rw [hposts.postingsSince]
      exact .inl fun g => by simp
  | attest _ _ hposts =>
      rw [hposts.postingsSince]
      exact .inl fun g => moved_returned_of_ne _ _ nofun
  | settle hcrank _ hfound =>
      exact .inr ⟨_, _, hfound, by rcases hcrank with rfl | rfl <;> rfl⟩

/-- Summed over the book, what a move seizes for a loan is all that it seizes. -/
theorem Moves.sum_seized {call : Call} (hmoves : Moves d origin clock s s' call) (g : Address)
    {ids : Finset ℕ} (hids : ∀ id loan, s.loans id = some loan → id ∈ ids) :
    ∑ id ∈ ids, moved .forfeit g
        (if call.loan = some id then s'.world.vault.postingsSince s.world.vault else []) =
      moved .forfeit g (s'.world.vault.postingsSince s.world.vault) := by
  rcases hmoves.seizes with hnothing | ⟨id, loan, hfound, hcall⟩
  · rw [hnothing g]
    refine Finset.sum_eq_zero fun id _ => ?_
    split
    · exact hnothing g
    · rfl
  · -- a call names one loan, so one term of the sum is left
    have hother : ∀ j ∈ ids, j ≠ id → moved .forfeit g
        (if call.loan = some j then s'.world.vault.postingsSince s.world.vault else []) = 0 := by
      intro j _ hne
      rw [if_neg fun heq => hne (Option.some.inj (heq.symm.trans hcall))]
      rfl
    rw [Finset.sum_eq_single_of_mem id (hids id loan hfound) hother, if_pos hcall]

/-- What a guarantor lost on a loan is what was seized for it. -/
theorem Account.lost {id : ℕ} {history : List (Transition (System T) (Input T))}
    {entry : Option Loan} (h : Account id history entry) (g : Address) :
    ofDefaulted g (fun _ => amountOf .forfeit (statement id history)) entry =
      moved .forfeit g (statement id history) := by
  cases entry with
  | none =>
      have hempty : statement id history = [] := h
      rw [hempty]
      rfl
  | some loan =>
      have haccount : Conserved id loan history := h
      rw [moved_eq_amountOf _ _ haccount.own, ofDefaulted]
      by_cases hdefault : loan.status = .defaulted
      · simp [hdefault]
      · rw [amountOf_forfeit, haccount.kept hdefault]
        simp

/-- **Reconciliation.** In every run a guarantor's balance is what it paid in, less what it took
out, less what was seized for the loans of the book. -/
theorem reconciled_of_run {history : List (Transition (System T) (Input T))} {s : Timed (System T)}
    (hrun : (machine d tokens tok).Run history s) (g : Address) {ids : Finset ℕ}
    (hids : ∀ id loan, s.state.loans id = some loan → id ∈ ids) :
    s.state.world.vault.collateralBalance g =
      moved .deposit g (payments history) - moved .withdraw g (payments history) -
        ∑ id ∈ ids, moved .forfeit g (statement id history) := by
  induction hrun with
  | start initial =>
      obtain ⟨script, token, htok, hdeploy⟩ := initial
      obtain ⟨-, -, hzero, -⟩ := deploy_cases 0 htok hdeploy
      rw [(hzero g).1]
      simp [payments, statement]
  | @step history s s' input run step ih =>
      -- a loan of the earlier state is still in the book
      have hbefore : ∀ id loan, s.state.loans id = some loan → id ∈ ids := by
        intro id loan hloan
        obtain ⟨loan', hloan', -⟩ := (machine_books d tokens tok).persists run step hloan
        exact hids id loan' hloan'
      have hbalance := ih hbefore
      simp only [statement_cons, GuarantorVault.moved_append, Finset.sum_add_distrib]
      cases step with
      | tick => simpa [payments, publishedFor] using hbalance
      | @call c s s' input acts =>
          cases input with
          | moveTokens token =>
              obtain ⟨-, rfl⟩ := acts
              simpa [payments, publishedFor] using hbalance
          | call origin call =>
              have hmoves := (exec_moves (System.Sound.of_reachable run.reachable) acts.1
                acts.2.1).1
              have hseized : ∑ id ∈ ids, moved .forfeit g (publishedFor id
                  ⟨⟨c, s⟩, some (.call origin call), ⟨c, s'⟩⟩) = _ := hmoves.sum_seized g hbefore
              have hpaid : payments (⟨⟨c, s⟩, some (.call origin call), ⟨c, s'⟩⟩ :: history) =
                call.payments ++ payments history := rfl
              rw [hseized, hpaid, hmoves.balance g]
              simp only [GuarantorVault.moved_append]
              have hbalance : s.world.vault.collateralBalance g = _ := hbalance
              omega

/-- What was seized for a defaulted loan is what it owed, up to what it held; no more is lost, and
all of it is recovered if the loan was opened with at least its principal in collateral. -/
theorem loss_of_defaulted {history : List (Transition (System T) (Input T))} {s : Timed (System T)}
    (hrun : (machine d tokens tok).Run history s) {id : ℕ} {loan : Loan}
    (hloan : s.state.loans id = some loan) (hdefault : loan.status = .defaulted) :
    amountOf .forfeit (statement id history) ≤ loan.outstanding ∧
      (10000 ≤ loan.ltvBps → amountOf .forfeit (statement id history) = loan.outstanding) := by
  have haccount : Conserved id loan history := by
    have := account_of_run hrun id
    rwa [hloan] at this
  obtain ⟨closing, hmem, before, hbefore, hgrace, -, rfl, honce⟩ := haccount.lost hdefault
  rw [amountOf_forfeit, honce, List.map_singleton, List.sum_singleton]
  refine ⟨min_le_left _ _, fun hltv => min_eq_left ?_⟩
  have hledger := (System.Sound.of_reachable (hrun.step_of_mem hmem).1).ledger
  exact (hledger.loans id before hbefore).outstanding_le_remaining
    (Loan.isOpen_iff.mpr (.inr hgrace)) hltv

/-- The sum of an amount over the defaulted loans of `g`. -/
def System.overDefaulted (s : System T) (g : Address) (amount : ℕ → Loan → ℤ) : ℤ :=
  ∑ id ∈ Finset.Icc 1 (LoanLedger.getLoanCount s.ledger), ofDefaulted g (amount id) (s.loans id)

section Loss

variable {history : List (Transition (System T) (Input T))} {s : Timed (System T)}
  (hrun : (machine d tokens tok).Run history s) (g : Address)
include hrun

/-- A guarantor loses no more than its defaulted loans owe. -/
theorem overDefaulted_le :
    s.state.overDefaulted g (fun id _ => amountOf .forfeit (statement id history)) ≤
      s.state.overDefaulted g fun _ => Loan.outstanding := by
  refine Finset.sum_le_sum fun id _ => ?_
  cases hloan : s.state.loans id with
  | none => exact le_refl _
  | some loan =>
      simp only [ofDefaulted]
      split
      · rename_i hdefault
        exact (loss_of_defaulted hrun hloan hdefault.2).1
      · exact le_refl _

/-- A guarantor whose loans were opened with at least their principal in collateral pays in full for
those that default. -/
theorem overDefaulted_eq
    (hfull : ∀ id loan, s.state.loans id = some loan → loan.guarantor = g → 10000 ≤ loan.ltvBps) :
    s.state.overDefaulted g (fun id _ => amountOf .forfeit (statement id history)) =
      s.state.overDefaulted g fun _ => Loan.outstanding := by
  refine Finset.sum_congr rfl fun id _ => ?_
  cases hloan : s.state.loans id with
  | none => rfl
  | some loan =>
      simp only [ofDefaulted]
      split
      · rename_i hdefault
        exact (loss_of_defaulted hrun hloan hdefault.2).2 (hfull id loan hloan hdefault.1)
      · rfl

end Loss

/-- **Conservation.** In every run of the wired system: what was returned and what was seized for a
loan, and what it still holds if it is open, make up its collateral exactly, with nothing seized for
a repaid loan and one seizure for a defaulted one, of what it owed up to what it held; a guarantor's
balance is all its deposits less all its withdrawals less what was seized for its defaulted loans;
so it loses no more than the principal these loans owe, and exactly that much if its loans were
opened with at least their principal in collateral. -/
theorem collateral_conserved {history : List (Transition (System T) (Input T))}
    {s : Timed (System T)} (hrun : (machine d tokens tok).Run history s) :
    (∀ id loan, s.state.loans id = some loan → Conserved id loan history) ∧
    ∀ g, s.state.world.vault.collateralBalance g =
        moved .deposit g (payments history) - moved .withdraw g (payments history) -
          s.state.overDefaulted g (fun id _ => amountOf .forfeit (statement id history)) ∧
      moved .deposit g (payments history) - moved .withdraw g (payments history) -
          s.state.world.vault.collateralBalance g ≤
        s.state.overDefaulted g (fun _ => Loan.outstanding) ∧
      ((∀ id loan, s.state.loans id = some loan → loan.guarantor = g → 10000 ≤ loan.ltvBps) →
        moved .deposit g (payments history) - moved .withdraw g (payments history) -
            s.state.world.vault.collateralBalance g =
          s.state.overDefaulted g fun _ => Loan.outstanding) := by
  have hledger := (System.Sound.of_reachable hrun.reachable).ledger
  refine ⟨fun id loan hloan => ?_, fun g => ?_⟩
  · have haccount := account_of_run hrun id
    rwa [hloan] at haccount
  · have hbalance := reconciled_of_run hrun g fun id loan hloan =>
      Finset.mem_Icc.mpr (hledger.counted id loan hloan)
    -- only a loan in default has anything seized, so the sum is over those
    simp only [← (account_of_run hrun _).lost g] at hbalance
    rw [← System.overDefaulted] at hbalance
    refine ⟨hbalance, ?_, fun hfull => ?_⟩
    · have := overDefaulted_le hrun g
      omega
    · have := overDefaulted_eq hrun g hfull
      omega

/-- A loan of 120 against 180 of collateral, of which 30 are repaid before it defaults: the
guarantor who paid in 1000 is left with 910, so the loan owes 90. -/
theorem collateral_conserved_defaulted : ∃ history s, sampleMachine.Run history s ∧
    s.state.overDefaulted ⟨4⟩ (fun _ => Loan.outstanding) = 90 := by
  obtain ⟨history, s, hrun, hchecked⟩ := exists_run_of_playLoan
    (P := fun history s => moved .deposit ⟨4⟩ (payments history) = 1000 ∧
      moved .withdraw ⟨4⟩ (payments history) = 0 ∧
      s.state.world.vault.collateralBalance ⟨4⟩ = 910 ∧
      LoanLedger.getLoanCount s.state.ledger = 1 ∧
      (s.state.loans 1).all (fun loan => 10000 ≤ loan.ltvBps) = true)
    (show (playLoan [(86400, .ledger (.attestRepayment ⟨5⟩ ⟨6⟩ 1 30)),
      (86401, .engine (.flagOverdue 1)), (1296002, .engine (.liquidate 1))]).any _ = true by
        decide +kernel)
  obtain ⟨hdeposited, hwithdrawn, hbalance, hcount, hltv⟩ := hchecked
  have hledger := (System.Sound.of_reachable hrun.reachable).ledger
  have hloss := ((collateral_conserved hrun).2 ⟨4⟩).2.2 fun id loan hloan _ => by
    obtain rfl : id = 1 := by
      have := hledger.counted id loan hloan
      omega
    rw [hloan] at hltv
    exact of_decide_eq_true hltv
  rw [hdeposited, hwithdrawn, hbalance] at hloss
  exact ⟨history, s, hrun, hloss.symm.trans (by decide)⟩

end RemitCollateral.Protocol
