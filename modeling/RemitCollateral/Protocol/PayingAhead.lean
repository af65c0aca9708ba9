import RemitCollateral.Protocol.Arrears
import RemitCollateral.Protocol.Exit

/-! # Paying ahead never hurts

Two loans under the same schedule, in two runs or in one. If at every moment no less has been repaid
of the first than of the second, and the first is only ever cranked together with the second, then
the first fares no worse: it does not default unless the second does, its grace period is over no
sooner, and it is repaid when the second is. -/

namespace RemitCollateral.Protocol

open Soroban
open LoanLedger (Loan)

/-! ## One loan ahead of another -/

/-- Two loans that fall due alike. -/
structure SameSchedule (a b : Loan) : Prop where
  principalUsd : b.principalUsd = a.principalUsd
  installmentCount : b.installmentCount = a.installmentCount
  intervalSecs : b.intervalSecs = a.intervalSecs
  originatedAt : b.originatedAt = a.originatedAt

/-- At time `now` loan `a` is no worse off than `b`. -/
structure Ahead (config : LoanLedger.Config) (now : ℕ) (a b : Loan) : Prop where
  schedule : SameSchedule a b
  repaid : b.totalRepaidUsd ≤ a.totalRepaidUsd
  grace : a.status = .grace →
    b.status = .defaulted ∨ b.status = .grace ∧ b.graceExpiresAt ≤ a.graceExpiresAt
  defaulted : a.status = .defaulted → b.status = .defaulted
  /-- No grace period ends later than one that starts now. -/
  deadline : b.status = .grace → b.graceExpiresAt ≤ now + config.gracePeriodSecs

section Ahead

variable {config : LoanLedger.Config} {now now' : ℕ} {a b : Loan} {amount : ℤ}

/-- What is covered by less falls due no later. -/
theorem SameSchedule.dueAfter_le (h : SameSchedule a b) (ha : a.Wf) {total total' : ℤ}
    (hle : total ≤ total') : b.dueAfter total ≤ a.dueAfter total' := by
  have hcovered : b.covered total ≤ a.covered total' := by
    rw [Loan.covered, h.installmentCount, h.principalUsd]
    exact ha.covered_mono hle
  have hdates : b.dueDate (b.covered total + 1) = a.dueDate (b.covered total + 1) := by
    rw [Loan.dueDate, h.originatedAt, h.intervalSecs, Loan.dueDate]
  rw [Loan.dueAfter, hdates]
  exact a.dueDate_mono (Nat.succ_le_succ hcovered)

/-- The due date of a loan that is not repaid is the first it has not covered. -/
theorem nextDue_of_unrepaid (h : a.Sound config now) (hne : a.status ≠ .repaid) :
    a.nextDue = a.dueAfter a.totalRepaidUsd := by
  rw [(h.unpaid hne).2, h.paid, Loan.dueAfter]

/-- Of two loans that are not repaid the one behind falls due no later. -/
theorem Ahead.nextDue_le (h : Ahead config now a b) (ha : a.Sound config now)
    (hb : b.Sound config now) (hane : a.status ≠ .repaid) (hbne : b.status ≠ .repaid) :
    b.nextDue ≤ a.nextDue := by
  rw [nextDue_of_unrepaid ha hane, nextDue_of_unrepaid hb hbne]
  exact h.schedule.dueAfter_le ha.wf h.repaid

theorem Ahead.mono (h : Ahead config now a b) (hle : now ≤ now') : Ahead config now' a b := by
  refine { h with deadline := fun hgrace => ?_ }
  have hdeadline := h.deadline hgrace
  omega

/-! ## What a repayment does to the status -/

/-- A repayment starts no grace period. -/
theorem grace_of_repay (h : (a.repay config now amount).status = .grace) :
    a.status = .grace ∧ (a.repay config now amount).graceExpiresAt = a.graceExpiresAt := by
  by_cases hclosed : a.principalUsd ≤ a.totalRepaidUsd + amount
  · simp [Loan.repay, hclosed] at h
  · by_cases hcurrent : now ≤ a.dueAfter (a.totalRepaidUsd + amount)
    · simp [Loan.repay, hclosed, hcurrent] at h
    · obtain ⟨hstatus, hexpires⟩ := Loan.repay_of_late config hclosed hcurrent
      exact ⟨hstatus.symm.trans h, hexpires⟩

/-- A repayment does not close a loan as defaulted. -/
theorem repay_not_defaulted (hopen : a.isOpen = true) :
    (a.repay config now amount).status ≠ .defaulted := by
  intro h
  have hstatus := Loan.isOpen_iff.mp hopen
  simp only [Loan.repay] at h
  split at h
  · cases h
  · split at h
    · cases h
    · rw [h] at hstatus
      simp at hstatus

/-! ## Each event keeps the order -/

/-- The loan ahead is repaid further. -/
theorem Ahead.repay_left (h : Ahead config now a b) (hopen : a.isOpen = true) (hpos : 0 < amount) :
    Ahead config now (a.repay config now amount) b where
  schedule := ⟨h.schedule.1, h.schedule.2, h.schedule.3, h.schedule.4⟩
  repaid := by
    have hle := h.repaid
    show b.totalRepaidUsd ≤ a.totalRepaidUsd + amount
    omega
  grace hgrace := by
    obtain ⟨hstatus, hexpires⟩ := grace_of_repay hgrace
    rw [hexpires]
    exact h.grace hstatus
  defaulted hdefaulted := absurd hdefaulted (repay_not_defaulted hopen)
  deadline := h.deadline

/-- The loan behind is repaid, but no further than the one ahead. -/
theorem Ahead.repay_right (h : Ahead config now a b) (ha : a.Sound config now)
    (hopen : b.isOpen = true) (hle : b.totalRepaidUsd + amount ≤ a.totalRepaidUsd) :
    Ahead config now a (b.repay config now amount) where
  schedule := ⟨h.schedule.1, h.schedule.2, h.schedule.3, h.schedule.4⟩
  repaid := hle
  grace hgrace := by
    have hisOpen : a.isOpen = true := Loan.isOpen_iff.mpr (.inr hgrace)
    have hunpaid : ¬ b.principalUsd ≤ b.totalRepaidUsd + amount := by
      have hlt := ha.lt_of_open hisOpen
      rw [h.schedule.principalUsd]
      omega
    -- the loan ahead is behind its schedule, and so is this one
    have hlate : ¬ now ≤ b.dueAfter (b.totalRepaidUsd + amount) := by
      have hne : a.status ≠ .repaid := by
        rw [hgrace]
        exact LoanLedger.LoanStatus.noConfusion
      have hbehind := ha.behind (.inl hgrace)
      rw [nextDue_of_unrepaid ha hne] at hbehind
      have hdue := h.schedule.dueAfter_le ha.wf hle
      omega
    obtain ⟨hstatus, hexpires⟩ := Loan.repay_of_late config hunpaid hlate
    rw [hstatus, hexpires]
    exact h.grace hgrace
  defaulted hdefaulted := by
    have hclosed := h.defaulted hdefaulted
    rw [Loan.isOpen_iff, hclosed] at hopen
    simp at hopen
  deadline hgrace := by
    obtain ⟨hstatus, hexpires⟩ := grace_of_repay hgrace
    rw [hexpires]
    exact h.deadline hstatus

/-- The loan behind is cranked. -/
theorem Ahead.crank_right (h : Ahead config now a b) :
    Ahead config now a (cranked config now b) := by
  unfold cranked
  split
  · rename_i hoverdue
    have hactive : b.status = .active := hoverdue.1
    refine { schedule := ⟨h.schedule.1, h.schedule.2, h.schedule.3, h.schedule.4⟩
             repaid := h.repaid, grace := fun hgrace => ?_, defaulted := fun hdefaulted => ?_
             deadline := fun _ => le_refl _ }
    · rcases h.grace hgrace with hstatus | ⟨hstatus, -⟩ <;> cases hactive.symm.trans hstatus
    · cases hactive.symm.trans (h.defaulted hdefaulted)
  · split
    · exact { schedule := ⟨h.schedule.1, h.schedule.2, h.schedule.3, h.schedule.4⟩
              repaid := h.repaid, grace := fun _ => .inl rfl, defaulted := fun _ => rfl
              deadline := fun hgrace => by cases hgrace }
    · exact h

/-- A closed loan is not cranked. -/
theorem cranked_of_defaulted (h : b.status = .defaulted) : cranked config now b = b := by
  apply cranked_of_closed
  rw [Loan.isOpen, h]
  rfl

/-- A loan in its grace period defaults when the period is over. -/
theorem cranked_of_grace (h : b.status = .grace) :
    cranked config now b = if b.graceExpiresAt < now then b.default else b := by
  have hoverdue : ¬ b.Overdue now := fun hoverdue => by cases h.symm.trans hoverdue.1
  by_cases hlate : b.graceExpiresAt < now
  · rw [cranked, if_neg hoverdue, if_pos ⟨h, hlate⟩, if_pos hlate]
  · rw [cranked, if_neg hoverdue, if_neg fun hexpired => hlate hexpired.2, if_neg hlate]

/-- Both are cranked. -/
theorem Ahead.crank (h : Ahead config now a b) (ha : a.Sound config now) (hb : b.Sound config now) :
    Ahead config now (cranked config now a) (cranked config now b) := by
  have hright := h.crank_right
  by_cases hoverdue : a.Overdue now
  · have hflag : cranked config now a = a.flag config now := if_pos hoverdue
    rw [hflag]
    refine { schedule := ⟨hright.schedule.1, hright.schedule.2, hright.schedule.3,
               hright.schedule.4⟩
             repaid := hright.repaid, grace := fun _ => ?_
             defaulted := fun hdefaulted => by cases hdefaulted
             deadline := hright.deadline }
    -- the loan behind is flagged too, unless it was before
    cases hstatus : b.status with
    | active =>
        have hane : a.status ≠ .repaid := fun hrepaid => by cases hoverdue.1.symm.trans hrepaid
        have hbne : b.status ≠ .repaid := fun hrepaid => by cases hstatus.symm.trans hrepaid
        have hlate := lt_of_le_of_lt (h.nextDue_le ha hb hane hbne) hoverdue.2
        rw [cranked, if_pos ⟨hstatus, hlate⟩]
        exact .inr ⟨rfl, le_refl _⟩
    | grace =>
        rw [cranked_of_grace hstatus]
        split
        · exact .inl rfl
        · exact .inr ⟨hstatus, h.deadline hstatus⟩
    | repaid =>
        have hunpaid := ha.lt_of_open (Loan.isOpen_iff.mpr (.inl hoverdue.1))
        have hsettled := hb.settled hstatus
        have hrepaid := h.repaid
        rw [hsettled, h.schedule.principalUsd] at hrepaid
        omega
    | defaulted =>
        rw [cranked_of_defaulted hstatus]
        exact .inl hstatus
  · by_cases hexpired : a.GraceExpired now
    · have hdefault : cranked config now a = a.default := by
        rw [cranked, if_neg hoverdue, if_pos hexpired]
      have hdefaulted : (cranked config now b).status = .defaulted := by
        rcases h.grace hexpired.1 with hstatus | ⟨hstatus, hexpires⟩
        · rw [cranked_of_defaulted hstatus, hstatus]
        · rw [cranked_of_grace hstatus, if_pos (lt_of_le_of_lt hexpires hexpired.2)]
          rfl
      rw [hdefault]
      exact { schedule := ⟨hright.schedule.1, hright.schedule.2, hright.schedule.3,
                hright.schedule.4⟩
              repaid := hright.repaid, grace := fun hgrace => by cases hgrace
              defaulted := fun _ => hdefaulted, deadline := hright.deadline }
    · have hsame : cranked config now a = a := by
        rw [cranked, if_neg hoverdue, if_neg hexpired]
      rw [hsame]
      exact hright

end Ahead

/-! ## Two lives side by side -/

/-- What an event repays. -/
def LoanEvent.paid : LoanEvent → ℤ
  | repaid amountUsd => amountUsd
  | _ => 0

/-- What a list of events repays. -/
def repaidIn (events : List (ℕ × LoanEvent)) : ℤ := (events.map fun event => event.2.paid).sum

/-- What happens to two loans at one time. -/
structure Line where
  now : ℕ
  ahead : Option LoanEvent
  behind : Option LoanEvent

/-- What happens to the first loan. -/
def Line.first (line : Line) : Option (ℕ × LoanEvent) := line.ahead.map (line.now, ·)

/-- What happens to the second loan. -/
def Line.second (line : Line) : Option (ℕ × LoanEvent) := line.behind.map (line.now, ·)

/-- A table of two lives, latest line first, in which the first loan is paid ahead: the two open
together under one schedule, after every line no less is repaid of the first than of the second, and
it is cranked only when the second is. -/
inductive PaidAhead : List Line → Prop
  | opened {now : ℕ} {a b : Loan} (schedule : SameSchedule a b) :
      PaidAhead [⟨now, some (.opened a), some (.opened b)⟩]
  | line {line : Line} {older : List Line} (ahead : PaidAhead older)
      (later : ∀ earlier ∈ older.head?, earlier.now ≤ line.now)
      (cranks : line.ahead = some .cranked → line.behind = some .cranked)
      (leads : repaidIn ((line :: older).filterMap Line.second) ≤
        repaidIn ((line :: older).filterMap Line.first)) :
      PaidAhead (line :: older)

/-- Each event of a list can happen to what the earlier ones leave. -/
def Lawful (config : LoanLedger.Config) : List (ℕ × LoanEvent) → Prop
  | [] => True
  | (now, event) :: older => Lawful config older ∧ event.Happens now (recordAfter config older)

/-- A life makes a lawful list of events. -/
theorem lawful_of_run {config : LoanLedger.Config}
    {life : List (Transition (Option Loan) (ℕ × LoanEvent))} {s : Timed (Option Loan)}
    (hlife : (loanMachine config).Run life s) : Lawful config (life.filterMap Transition.call) := by
  induction hlife with
  | start => trivial
  | step run step ih =>
      cases step with
      | tick => exact ih
      | @call clock entry entry' event acts =>
          obtain ⟨-, hhappens, -⟩ := acts
          have hbefore := recordAfter_of_run run
          refine ⟨ih, ?_⟩
          rw [hbefore]
          exact hhappens

/-- What one line of a table makes of a loan. -/
def Passes (config : LoanLedger.Config) (now : ℕ) : Option LoanEvent → Loan → Loan → Prop
  | none, loan, loan' => loan = loan'
  | some event, loan, loan' =>
      event.Happens now (some loan) ∧ event.apply config now (some loan) = some loan'

section Lives

variable {config : LoanLedger.Config} {now now' : ℕ} {a a' b b' : Loan}
  {event : Option LoanEvent}

/-- The loan ahead goes through a line in which it is not cranked. -/
theorem Ahead.left (h : Ahead config now a b) (hpasses : Passes config now event a a')
    (hne : event ≠ some .cranked) : Ahead config now a' b := by
  cases event with
  | none =>
      obtain rfl : a = a' := hpasses
      exact h
  | some event =>
      obtain ⟨hhappens, happly⟩ := hpasses
      cases event with
      | opened => exact hhappens.elim
      | repaid amount =>
          obtain ⟨hopen, hpos, -⟩ := hhappens
          rw [← Option.some.inj happly]
          exact h.repay_left hopen hpos
      | reassigned partner =>
          rw [← Option.some.inj happly]
          exact { schedule := ⟨h.schedule.1, h.schedule.2, h.schedule.3, h.schedule.4⟩
                  repaid := h.repaid, grace := h.grace, defaulted := h.defaulted
                  deadline := h.deadline }
      | cranked => exact absurd rfl hne

/-- The loan behind goes through a line. -/
theorem Ahead.right (h : Ahead config now a b) (ha : a.Sound config now)
    (hpasses : Passes config now event b b') (hle : b'.totalRepaidUsd ≤ a.totalRepaidUsd) :
    Ahead config now a b' := by
  cases event with
  | none =>
      obtain rfl : b = b' := hpasses
      exact h
  | some event =>
      obtain ⟨hhappens, happly⟩ := hpasses
      cases event with
      | opened => exact hhappens.elim
      | repaid amount =>
          obtain ⟨hopen, -, -⟩ := hhappens
          rw [← Option.some.inj happly] at hle ⊢
          exact h.repay_right ha hopen hle
      | reassigned partner =>
          rw [← Option.some.inj happly]
          exact { schedule := ⟨h.schedule.1, h.schedule.2, h.schedule.3, h.schedule.4⟩
                  repaid := h.repaid, grace := h.grace, defaulted := h.defaulted
                  deadline := h.deadline }
      | cranked =>
          rw [← Option.some.inj happly]
          exact h.crank_right

/-- A crank is a move of the loan's life, or none. -/
theorem cranked_step (config : LoanLedger.Config) (now : ℕ) (loan : Loan) :
    Loan.Step config now loan (cranked config now loan) := by
  unfold cranked
  split
  · rename_i hoverdue
    exact .flag hoverdue.1 hoverdue.2
  · split
    · rename_i hexpired
      exact .default hexpired.1 hexpired.2
    · exact .stay

/-- A crank repays nothing. -/
theorem cranked_repaid (config : LoanLedger.Config) (now : ℕ) (loan : Loan) :
    (cranked config now loan).totalRepaidUsd = loan.totalRepaidUsd := by
  unfold cranked
  split
  · rfl
  · split <;> rfl

/-- The loan a lawful list of events leaves at time `now`. -/
structure Lived (config : LoanLedger.Config) (now : ℕ) (events : List (ℕ × LoanEvent))
    (loan : Loan) : Prop where
  record : recordAfter config events = some loan
  sound : loan.Sound config now
  repaid : loan.totalRepaidUsd = repaidIn events

/-- A loan that has just been opened. -/
theorem Lived.opened (h : a.Opened now) : Lived config now [(now, .opened a)] a where
  record := rfl
  sound := h.sound
  repaid := h.repaid

/-- A life goes on by one line. -/
theorem Lived.line {events : List (ℕ × LoanEvent)} (hconfig : config.Accepted)
    (h : Lived config now events a) (hle : now ≤ now')
    (hlawful : Lawful config ((event.map (now', ·)).toList ++ events)) :
    ∃ a', Passes config now' event a a' ∧
      Lived config now' ((event.map (now', ·)).toList ++ events) a' := by
  have hsound := h.sound.mono hle
  cases event with
  | none => exact ⟨a, rfl, h.record, hsound, h.repaid⟩
  | some event =>
      obtain ⟨-, hhappens⟩ := hlawful
      have hbefore : event.Happens now' (some a) := by
        rw [← h.record]
        exact hhappens
      have hrecord : ∀ {a'}, event.apply config now' (some a) = some a' →
          recordAfter config ((now', event) :: events) = some a' := by
        intro a' happly
        rw [← happly, ← h.record]
        rfl
      have hrepaid : repaidIn ((now', event) :: events) = event.paid + a.totalRepaidUsd := by
        rw [h.repaid, repaidIn, List.map_cons, List.sum_cons, repaidIn]
      cases event with
      | opened => exact hbefore.elim
      | repaid amount =>
          obtain ⟨hopen, hpos, hfits⟩ := hbefore
          refine ⟨_, ⟨⟨hopen, hpos, hfits⟩, rfl⟩, hrecord rfl, hsound.repay hopen hpos hfits, ?_⟩
          exact (add_comm _ _).trans hrepaid.symm
      | reassigned partner =>
          have hmove : Loan.Step config now' a { a with partner } := .reassign partner hbefore
          refine ⟨_, ⟨hbefore, rfl⟩, hrecord rfl, hsound.step hconfig hmove, ?_⟩
          exact (zero_add _).symm.trans hrepaid.symm
      | cranked =>
          refine ⟨_, ⟨trivial, rfl⟩, hrecord rfl, ?_, ?_⟩
          · exact hsound.step hconfig (cranked_step config now' a)
          · rw [cranked_repaid]
            exact (zero_add _).symm.trans hrepaid.symm

/-- Two lives side by side go on by one line. -/
theorem Ahead.line {event' : Option LoanEvent} (h : Ahead config now a b)
    (ha : a.Sound config now) (hb : b.Sound config now) (ha' : a'.Sound config now)
    (hfirst : Passes config now event a a') (hsecond : Passes config now event' b b')
    (hcranks : event = some .cranked → event' = some .cranked)
    (hle : b'.totalRepaidUsd ≤ a'.totalRepaidUsd) : Ahead config now a' b' := by
  by_cases hevent : event = some .cranked
  · rw [hcranks hevent] at hsecond
    rw [hevent] at hfirst
    rw [← Option.some.inj hfirst.2, ← Option.some.inj hsecond.2]
    exact h.crank ha hb
  · exact (h.left hfirst hevent).right ha' hsecond hle

/-- A column of a table with one more line. -/
theorem filterMap_cons_toList {α β : Type} (f : α → Option β) (x : α) (l : List α) :
    (x :: l).filterMap f = (f x).toList ++ l.filterMap f := by
  cases h : f x with
  | none => rw [List.filterMap_cons_none h, Option.toList_none, List.nil_append]
  | some y => rw [List.filterMap_cons_some h, Option.toList_some, List.singleton_append]

/-- What stands under a lawful column is lawful. -/
theorem Lawful.older {event : Option (ℕ × LoanEvent)} {events : List (ℕ × LoanEvent)}
    (h : Lawful config (event.toList ++ events)) : Lawful config events := by
  cases event with
  | none => exact h
  | some event => exact h.1

/-- **Dominance.** Of two lawful lives in a table that is paid ahead the first is ahead. -/
theorem PaidAhead.ahead {timeline : List Line} (hconfig : config.Accepted)
    (h : PaidAhead timeline) (hfirst : Lawful config (timeline.filterMap Line.first))
    (hsecond : Lawful config (timeline.filterMap Line.second)) :
    ∃ now a b, (timeline.head?.map Line.now = some now) ∧
      Lived config now (timeline.filterMap Line.first) a ∧
      Lived config now (timeline.filterMap Line.second) b ∧ Ahead config now a b := by
  induction h with
  | @opened now a b schedule =>
      have ha : a.Opened now := hfirst.2
      have hb : b.Opened now := hsecond.2
      refine ⟨now, a, b, rfl, .opened ha, .opened hb, ?_⟩
      exact { schedule
              repaid := by rw [ha.repaid, hb.repaid]
              grace := fun hgrace => by cases ha.status.symm.trans hgrace
              defaulted := fun hdefaulted => by cases ha.status.symm.trans hdefaulted
              deadline := fun hgrace => by cases hb.status.symm.trans hgrace }
  | @line line older _ later cranks leads ih =>
      rw [filterMap_cons_toList] at hfirst hsecond
      obtain ⟨now, a, b, hnow, ha, hb, hahead⟩ := ih hfirst.older hsecond.older
      have hle : now ≤ line.now := by
        obtain ⟨earlier, hearlier, rfl⟩ := Option.map_eq_some_iff.mp hnow
        exact later earlier hearlier
      obtain ⟨a', hpasses, ha'⟩ := ha.line hconfig hle hfirst
      obtain ⟨b', hpasses', hb'⟩ := hb.line hconfig hle hsecond
      rw [filterMap_cons_toList, filterMap_cons_toList] at leads
      have htotals : b'.totalRepaidUsd ≤ a'.totalRepaidUsd := by
        rw [ha'.repaid, hb'.repaid]
        exact leads
      rw [filterMap_cons_toList, filterMap_cons_toList]
      exact ⟨line.now, a', b', rfl, ha', hb', (hahead.mono hle).line (ha.sound.mono hle)
        (hb.sound.mono hle) ha'.sound hpasses hpasses' cranks htotals⟩

end Lives

/-! ## In the system -/

variable {T : Type} {d : Deployment} {tokens : Address → GuarantorVault.TokenClient T}
  {tok : GuarantorVault.StandardToken T}

/-- **Paying ahead never hurts.** Take two histories of the system and a loan of each, under the
same schedule, and let the first loan be paid ahead. Then it is no worse off than the second: no
more is outstanding of it, it has defaulted only if the second has, it is repaid if the second is,
and if it is in its grace period then the second is in one that ends no later, or has defaulted. -/
theorem paying_ahead_never_hurts {history history' : List (Transition (System T) (Input T))}
    {s s' : Timed (System T)} (hrun : (machine d tokens tok).Run history s)
    (hrun' : (machine d tokens tok).Run history' s') {id id' : ℕ} {timeline : List Line}
    (htable : PaidAhead timeline)
    (hfirst : timeline.filterMap Line.first = loanEvents d.config id history)
    (hsecond : timeline.filterMap Line.second = loanEvents d.config id' history') :
    ∃ a b, s.state.loans id = some a ∧ s'.state.loans id' = some b ∧
      a.outstanding ≤ b.outstanding ∧
      (a.status = .defaulted → b.status = .defaulted) ∧
      (b.status = .repaid → a.status = .repaid) ∧
      (a.status = .grace →
        b.status = .defaulted ∨ b.status = .grace ∧ b.graceExpiresAt ≤ a.graceExpiresAt) := by
  have hconfig := (machine_books d tokens tok).accepted_of_run hrun
  have hlawful : ∀ {history : List (Transition (System T) (Input T))} {s : Timed (System T)},
      (machine d tokens tok).Run history s → ∀ id,
        Lawful d.config (loanEvents d.config id history) ∧
        s.state.loans id = recordAfter d.config (loanEvents d.config id history) := by
    intro history s hrun id
    obtain ⟨life, entry, hlife, rfl, hevents⟩ := (machine_refines_loan d tokens tok id).run hrun
    rw [loanEvents, ← hevents, recordAfter_of_run hlife]
    exact ⟨lawful_of_run hlife, rfl⟩
  obtain ⟨hlaw, hrecord⟩ := hlawful hrun id
  obtain ⟨hlaw', hrecord'⟩ := hlawful hrun' id'
  rw [← hfirst] at hlaw hrecord
  rw [← hsecond] at hlaw' hrecord'
  obtain ⟨now, a, b, -, ha, hb, hahead⟩ := htable.ahead hconfig hlaw hlaw'
  have hprincipal := hahead.schedule.principalUsd
  have htotals := hahead.repaid
  refine ⟨a, b, hrecord.trans ha.record, hrecord'.trans hb.record, ?_, hahead.defaulted, ?_,
    hahead.grace⟩
  · rw [Loan.outstanding, Loan.outstanding, hprincipal]
    omega
  · intro hrepaid
    by_contra hne
    have hunpaid := (ha.sound.unpaid hne).1
    have hsettled := hb.sound.settled hrepaid
    omega

/-- A loan opened at once in two histories. In the first its first installment is repaid. It is
poked after that installment was due, and long after. -/
def sampleTable : List Line :=
  let opened : LoanEvent := .opened (Loan.opening 0 1 ⟨4⟩ 7 ⟨5⟩ 120 15000 3 86400)
  [⟨1309601, some .cranked, some .cranked⟩, ⟨100000, some .cranked, some .cranked⟩,
    ⟨50000, some (.repaid 40), none⟩, ⟨0, some opened, some opened⟩]

/-- The last poke closes the loan in the second history and only flags it in the first. -/
theorem paying_ahead_never_hurts_firstInstallment : ∃ history history' s s',
    sampleMachine.Run history s ∧ sampleMachine.Run history' s' ∧
    (s.state.loans 1).map Loan.status = some .grace ∧
    (s'.state.loans 1).map Loan.status = some .defaulted ∧
    ∃ a b, s.state.loans 1 = some a ∧ s'.state.loans 1 = some b ∧
      a.outstanding ≤ b.outstanding := by
  have hopened : PaidAhead (sampleTable.drop 3) := .opened ⟨rfl, rfl, rfl, rfl⟩
  have hpaid : PaidAhead (sampleTable.drop 2) := .line hopened (by decide) (by decide) (by decide)
  have hpoked : PaidAhead (sampleTable.drop 1) := .line hpaid (by decide) (by decide) (by decide)
  have htable : PaidAhead sampleTable := .line hpoked (by decide) (by decide) (by decide)
  obtain ⟨history, s, hrun, hfirst, hgrace⟩ := exists_run_of_playLoan
    (P := fun history s =>
      sampleTable.filterMap Line.first = loanEvents sample.config 1 history ∧
      (s.state.loans 1).map Loan.status = some .grace)
    (show (playLoan [(50000, .ledger (.attestRepayment ⟨5⟩ ⟨6⟩ 1 40)),
      (100000, .engine (.poke 1)), (1309601, .engine (.poke 1))]).any _ = true by decide +kernel)
  obtain ⟨history', s', hrun', hsecond, hdefaulted⟩ := exists_run_of_playLoan
    (P := fun history s =>
      sampleTable.filterMap Line.second = loanEvents sample.config 1 history ∧
      (s.state.loans 1).map Loan.status = some .defaulted)
    (show (playLoan [(100000, .engine (.poke 1)), (1309601, .engine (.poke 1))]).any _ = true by
      decide +kernel)
  obtain ⟨a, b, ha, hb, hle, -⟩ := paying_ahead_never_hurts hrun hrun' htable hfirst hsecond
  exact ⟨history, history', s, s', hrun, hrun', hgrace, hdefaulted, a, b, ha, hb, hle⟩

end RemitCollateral.Protocol
