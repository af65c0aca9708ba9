import RemitCollateral.Host.Machine
import RemitCollateral.LoanLedger.LifeCycle

/-! # A book of loans over time

What holds of a loan along a run, for any machine whose states show a book of loans and whose calls
move each loan by at most one step of its life. The ledger alone is such a machine, with any vault,
and so is the wired system; both use the results of this file at their own states. -/

namespace RemitCollateral.LoanLedger

open Soroban

/-- A book of loans by id. -/
abbrev LoanBook := ℕ → Option Loan

/-- What may happen to one entry of a book at time `now`. -/
inductive EntryStep (config : Config) (now id : ℕ) : Option Loan → Option Loan → Prop
  /-- There is no such loan, still. -/
  | absent : EntryStep config now id none none
  /-- The loan is opened. -/
  | opened {loan : Loan} (opened : loan.Opened now) (keyed : loan.id = id) :
      EntryStep config now id none (some loan)
  /-- The loan makes a move. -/
  | moved {loan loan' : Loan} (step : Loan.Step config now loan loan') :
      EntryStep config now id (some loan) (some loan')

/-- An entry left alone. -/
theorem EntryStep.refl {config : Config} {now id : ℕ} (entry : Option Loan) :
    EntryStep config now id entry entry := by
  cases entry with
  | none => exact .absent
  | some loan => exact .moved .stay

variable {σ ι : Type}

/-- A machine whose states show a book of loans: it starts empty, and every call moves each of its
entries by at most one step. -/
structure Books (M : Machine σ ι) (config : Config) (book : σ → LoanBook) : Prop where
  accepted : ∀ s, M.initial s → config.Accepted
  initial : ∀ s, M.initial s → ∀ id, book s.state id = none
  act : ∀ c s input s', M.Reachable ⟨c, s⟩ → M.act c s input s' →
    ∀ id, EntryStep config c.timestamp id (book s id) (book s' id)

namespace Books

variable {M : Machine σ ι} {config : Config} {book : σ → LoanBook} (h : Books M config book)
include h

/-- A run's configuration was accepted by the constructor. -/
theorem accepted_of_run {history : List (Transition σ ι)} {s : Timed σ} (hrun : M.Run history s) :
    config.Accepted := by
  induction hrun with
  | start initial => exact h.accepted _ initial
  | step _ _ ih => exact ih

/-- One step of a run, the passing of time included, moves each entry by at most one step. -/
theorem entry_step {history : List (Transition σ ι)} {s s' : Timed σ} {input : Option ι}
    (hrun : M.Run history s) (hstep : M.Step s input s') (id : ℕ) :
    EntryStep config s.now id (book s.state id) (book s'.state id) := by
  cases hstep with
  | tick => exact .refl _
  | call acts => exact h.act _ _ _ _ hrun.reachable acts id

/-- A step takes a loan of its later state from the same loan, or from nothing. -/
theorem step_cases {history : List (Transition σ ι)} {s s' : Timed σ} {input : Option ι}
    (hrun : M.Run history s) (hstep : M.Step s input s') {id : ℕ} {loan' : Loan}
    (hloan' : book s'.state id = some loan') :
    (book s.state id = none ∧ loan'.Opened s.now ∧ loan'.id = id) ∨
      ∃ loan, book s.state id = some loan ∧ Loan.Step config s.now loan loan' := by
  have hentry := h.entry_step hrun hstep id
  rw [hloan'] at hentry
  cases hentry' : book s.state id with
  | none =>
      rw [hentry'] at hentry
      cases hentry with
      | opened opened keyed => exact .inl ⟨rfl, opened, keyed⟩
  | some loan =>
      rw [hentry'] at hentry
      cases hentry with
      | moved step => exact .inr ⟨loan, rfl, step⟩

/-- **Invariant.** Every loan of a reachable state is sound. -/
theorem sound {history : List (Transition σ ι)} {s : Timed σ} (hrun : M.Run history s) {id : ℕ}
    {loan : Loan} (hloan : book s.state id = some loan) : loan.Sound config s.now := by
  induction hrun generalizing loan with
  | start initial => simp [h.initial _ initial id] at hloan
  | step run step ih =>
      have hnow := step.now_le
      -- the entry is new, or one move away from a sound one
      rcases h.step_cases run step hloan with ⟨-, hopened, -⟩ | ⟨before, hbefore, hmove⟩
      · exact hopened.sound.mono hnow
      · exact ((ih hbefore).step (h.accepted_of_run run) hmove).mono hnow

/-- A loan once in the book stays in it, under the same terms. -/
theorem persists {history : List (Transition σ ι)} {s s' : Timed σ} {input : Option ι}
    (hrun : M.Run history s) (hstep : M.Step s input s') {id : ℕ} {loan : Loan}
    (hloan : book s.state id = some loan) :
    ∃ loan', book s'.state id = some loan' ∧ Loan.Step config s.now loan loan' := by
  have hentry := h.entry_step hrun hstep id
  rw [hloan] at hentry
  cases hentry' : book s'.state id with
  | none =>
      rw [hentry'] at hentry
      cases hentry
  | some loan' =>
      rw [hentry'] at hentry
      cases hentry with
      | moved step => exact ⟨loan', rfl, step⟩

/-- A loan stays in the book for the rest of a run, under the same terms. -/
theorem sameTerms {newer older : List (Transition σ ι)} {t : Transition σ ι} {s : Timed σ}
    (hrun : M.Run (newer ++ t :: older) s) {id : ℕ} {loan : Loan}
    (hloan : book t.post.state id = some loan) :
    ∃ loan', book s.state id = some loan' ∧ Loan.SameTerms loan loan' := by
  -- by induction on the part of the run after `t`
  induction newer generalizing s with
  | nil =>
      cases hrun with
      | step => exact ⟨loan, hloan, .refl loan⟩
  | cons last newer ih =>
      cases hrun with
      | step run step =>
          obtain ⟨before, hbefore, hsame⟩ := ih run
          obtain ⟨loan', hloan', hmove⟩ := h.persists run step hbefore
          exact ⟨loan', hloan', hsame.trans hmove.sameTerms⟩

end Books

/-! ## Entries into grace -/

/-- A transition that takes a loan into its grace period. -/
def entersGrace (book : σ → LoanBook) (id : ℕ) (t : Transition σ ι) : Bool :=
  (book t.pre.state id).map Loan.status ≠ some .grace ∧
    (book t.post.state id).map Loan.status = some .grace

namespace Books

variable {M : Machine σ ι} {config : Config} {book : σ → LoanBook} (h : Books M config book)
include h

/-- A loan that is not in the book was never in it. -/
theorem absent {history : List (Transition σ ι)} {s s' : Timed σ} {input : Option ι}
    (hrun : M.Run history s) (hstep : M.Step s input s') {id : ℕ}
    (hnone : book s'.state id = none) : book s.state id = none := by
  have hentry := h.entry_step hrun hstep id
  rw [hnone] at hentry
  cases hbefore : book s.state id with
  | none => rfl
  | some loan =>
      rw [hbefore] at hentry
      cases hentry

/-- A loan that was never in the book never entered grace. -/
theorem count_entersGrace_of_absent {history : List (Transition σ ι)} {s : Timed σ}
    (hrun : M.Run history s) {id : ℕ} (hnone : book s.state id = none) :
    history.countP (entersGrace book id) = 0 := by
  induction hrun with
  | start => rfl
  | step run step ih =>
      rw [List.countP_cons, ih (h.absent run step hnone)]
      simp [entersGrace, hnone]

/-- **Entries.** A loan has entered grace at most as often as its entries allow. -/
theorem count_entersGrace_le {history : List (Transition σ ι)} {s : Timed σ}
    (hrun : M.Run history s) {id : ℕ} {loan : Loan} (hloan : book s.state id = some loan) :
    history.countP (entersGrace book id) ≤ loan.graceEntries := by
  induction hrun generalizing loan with
  | start initial => simp [h.initial _ initial id] at hloan
  | step run step ih =>
      rw [List.countP_cons]
      -- the count of the run grows by the entry of this step, which the move pays for
      rcases h.step_cases run step hloan with ⟨hnone, hopened, -⟩ | ⟨before, hbefore, hmove⟩
      · rw [h.count_entersGrace_of_absent run hnone]
        simp [entersGrace, hloan, hopened.status]
      · have hcount := ih hbefore
        have hentries := hmove.graceEntries_le (h.accepted_of_run run) (h.sound run hbefore)
        simp only [entersGrace, hbefore, hloan, Option.map_some, ne_eq, Option.some.injEq,
          decide_eq_true_eq] at hentries ⊢
        omega

end Books

/-! ## From grace to default -/

/-- The loan is in grace until `expires` and behind schedule. -/
def Behind (book : σ → LoanBook) (id expires : ℕ) (s : Timed σ) : Prop :=
  ∃ loan, book s.state id = some loan ∧ loan.status = .grace ∧ loan.graceExpiresAt = expires ∧
    loan.nextDue < s.now

/-- The transition flags the loan: it was active and past its due date, and its grace period
starts. -/
def Flags (config : Config) (book : σ → LoanBook) (id : ℕ) (t : Transition σ ι) : Prop :=
  ∃ loan, book t.pre.state id = some loan ∧ loan.status = .active ∧ loan.nextDue < t.pre.now ∧
    book t.post.state id = some (loan.flag config t.pre.now)

/-- The transition closes the loan as defaulted. -/
def Defaults (book : σ → LoanBook) (id : ℕ) (t : Transition σ ι) : Prop :=
  ∃ loan, book t.pre.state id = some loan ∧ loan.status = .grace ∧
    loan.graceExpiresAt < t.pre.now ∧ book t.post.state id = some loan.default

/-- The history of a loan in grace until `expires`: it was flagged once, and has been behind
schedule with that deadline ever since. -/
def InGraceSince (config : Config) (book : σ → LoanBook) (id expires : ℕ)
    (history : List (Transition σ ι)) : Prop :=
  ∃ since flag before, history = since ++ flag :: before ∧ Flags config book id flag ∧
    expires = flag.pre.now + config.gracePeriodSecs ∧
    ∀ t ∈ since, Behind book id expires t.pre ∧ Behind book id expires t.post

/-- The history of a loan in default: it was in grace, still behind schedule, when its deadline had
passed and it was closed. -/
def DefaultedAfterGrace (config : Config) (book : σ → LoanBook) (id : ℕ)
    (history : List (Transition σ ι)) : Prop :=
  ∃ after closing grace expires, history = after ++ closing :: grace ∧
    InGraceSince config book id expires grace ∧ Behind book id expires closing.pre ∧
    expires < closing.pre.now ∧ Defaults book id closing

namespace Books

variable {M : Machine σ ι} {config : Config} {book : σ → LoanBook} (h : Books M config book)
include h

/-- **Grace.** A loan in grace was flagged once past its due date, and has been behind schedule with
the same deadline ever since. -/
theorem grace_history {history : List (Transition σ ι)} {s : Timed σ} (hrun : M.Run history s)
    {id : ℕ} {loan : Loan} (hloan : book s.state id = some loan) (hgrace : loan.status = .grace) :
    InGraceSince config book id loan.graceExpiresAt history := by
  induction hrun generalizing loan with
  | start initial => simp [h.initial _ initial id] at hloan
  | @step history s s' input run step ih =>
      have hbehind : loan.nextDue < s'.now := (h.sound (.step run step) hloan).behind (.inl hgrace)
      rcases h.step_cases run step hloan with ⟨-, hopened, -⟩ | ⟨before, hbefore, hmove⟩
      · simp [hopened.status] at hgrace
      · rcases hmove.grace_cases hgrace with ⟨hgrace', hexpires⟩ | ⟨hactive, hlate, rfl⟩
        · -- it was in grace before this step
          obtain ⟨since, flag, older, rfl, hflag, hdeadline, hsince⟩ := ih hbefore hgrace'
          rw [← hexpires] at hdeadline hsince
          refine ⟨⟨s, input, s'⟩ :: since, flag, older, rfl, hflag, hdeadline, ?_⟩
          intro t ht
          rcases List.mem_cons.mp ht with rfl | ht
          · exact ⟨⟨before, hbefore, hgrace', hexpires.symm,
              (h.sound run hbefore).behind (.inl hgrace')⟩, loan, hloan, hgrace, rfl, hbehind⟩
          · exact hsince t ht
        · -- this step flags it
          exact ⟨[], ⟨s, input, s'⟩, history, rfl, ⟨before, hbefore, hactive, hlate, hloan⟩, rfl,
            nofun⟩

/-- **Default.** A defaulted loan was flagged once past its due date, stayed behind schedule with
the same deadline, and was closed after that deadline. -/
theorem default_history {history : List (Transition σ ι)} {s : Timed σ} (hrun : M.Run history s)
    {id : ℕ} {loan : Loan} (hloan : book s.state id = some loan)
    (hdefault : loan.status = .defaulted) : DefaultedAfterGrace config book id history := by
  induction hrun generalizing loan with
  | start initial => simp [h.initial _ initial id] at hloan
  | @step history s s' input run step ih =>
      rcases h.step_cases run step hloan with ⟨-, hopened, -⟩ | ⟨before, hbefore, hmove⟩
      · simp [hopened.status] at hdefault
      · rcases hmove.default_cases hdefault with rfl | ⟨hgrace, hexpired, rfl⟩
        · -- it was closed before this step
          obtain ⟨after, closing, grace, expires, rfl, hrest⟩ := ih hbefore hdefault
          exact ⟨⟨s, input, s'⟩ :: after, closing, grace, expires, rfl, hrest⟩
        · -- this step closes it
          have hlate := (h.sound run hbefore).behind (.inl hgrace)
          exact ⟨[], ⟨s, input, s'⟩, history, _, rfl, h.grace_history run hbefore hgrace,
            ⟨before, hbefore, hgrace, rfl, hlate⟩, hexpired, before, hbefore, hgrace, hexpired,
            hloan⟩

end Books

end RemitCollateral.LoanLedger
