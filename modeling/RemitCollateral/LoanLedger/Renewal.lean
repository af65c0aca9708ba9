import RemitCollateral.Host.Lifetimes
import RemitCollateral.LoanLedger.Calls

/-! # What the ledger keeps alive

Every call of the ledger extends its instance and the entries it reads or writes: the loan with its
open-loan marker when it is stored, the loan alone when it is only read. Nothing shortens a life. -/

namespace RemitCollateral.LoanLedger

open Soroban
open Soroban.Lifetimes (Keeps)

section Entries

variable (env : Env) (s : State)

theorem threshold_pos : 0 < threshold := by decide

theorem threshold_le_extendTo : threshold ≤ extendTo := by decide

/-- The ledger until which an entry extended in this call is live at least. -/
abbrev renewedUntil : ℕ := env.clock.sequence + threshold

theorem keeps_extendInstance {bound : ℕ} : Keeps bound s.ttl (extendInstance env s).ttl :=
  Lifetimes.keeps_extendInstance threshold_le_extendTo s.ttl

theorem keeps_extendEntry {bound : ℕ} (key : Key) : Keeps bound s.ttl (extendEntry env key s).ttl :=
  Lifetimes.keeps_extendEntry threshold_le_extendTo key s.ttl

theorem keeps_touch {bound : ℕ} (key : Key) : Keeps bound s.ttl (touch env key s).ttl := by
  unfold touch
  split
  · exact keeps_extendEntry env s key
  · exact .refl s.ttl

/-- An entry that exists is live for the threshold once it has been touched. -/
theorem touch_renews {key : Key} (hpresent : hasEntry s key = true) :
    renewedUntil env ≤ (touch env key s).ttl.entryUntil key := by
  rw [touch, if_pos hpresent]
  exact Lifetimes.entry_extended threshold_pos threshold_le_extendTo key s.ttl

theorem keeps_partnerTtl {bound : ℕ} (partner : Address) :
    Keeps bound s.ttl (partnerTtl env s partner) := by
  unfold partnerTtl authorizedPartner
  split
  · exact keeps_touch env s _
  · exact .refl s.ttl

theorem keeps_verifierTtl {bound : ℕ} (verifier : Address) :
    Keeps bound s.ttl (verifierTtl env s verifier) := by
  unfold verifierTtl authorizedVerifier
  split
  · exact keeps_touch env s _
  · exact .refl s.ttl

theorem keeps_loadedTtl {bound : ℕ} (loanId : ℕ) : Keeps bound s.ttl (loadedTtl env s loanId) :=
  (keeps_extendInstance env s).trans (keeps_extendEntry env (extendInstance env s) _)

/-- A loan that was read, and the instance, are live for the threshold. -/
theorem loadedTtl_renews (loanId : ℕ) : renewedUntil env ≤ (loadedTtl env s loanId).instanceUntil ∧
    renewedUntil env ≤ (loadedTtl env s loanId).entryUntil (.loan loanId) := by
  constructor
  · exact Lifetimes.instance_extended threshold_pos threshold_le_extendTo s.ttl
  · exact Lifetimes.entry_extended threshold_pos threshold_le_extendTo _ _

/-- An entry written and then touched keeps every promise. -/
theorem keeps_written (key : Key) {s' : State} (hpresent : hasEntry s' key = true)
    (h : Keeps (renewedUntil env) (created env key s).ttl s'.ttl) :
    Keeps (renewedUntil env) s.ttl (touch env key s').ttl :=
  (h.trans (keeps_touch env s' key)).of_onSet (touch_renews env s' hpresent)

theorem keeps_savedTtl (loan : Loan) : Keeps (renewedUntil env) s.ttl (savedTtl env s loan) := by
  apply Keeps.trans _ (keeps_touch env _ _)
  exact Lifetimes.keeps_set threshold_pos threshold_le_extendTo _ _ s.ttl

/-- A loan that was stored is live for the threshold. -/
theorem savedTtl_loan (loan : Loan) :
    renewedUntil env ≤ (savedTtl env s loan).entryUntil (.loan loan.id) := by
  apply (keeps_touch env _ _).le_entry (le_refl _)
  exact Lifetimes.entry_extended threshold_pos threshold_le_extendTo _ _

/-- The marker of a loan that was stored is live for the threshold, if there is one. -/
theorem savedTtl_marker (loan : Loan)
    (hmarked : (s.openLoans (loan.guarantor, loan.beneficiary)).isSome = true) :
    renewedUntil env ≤
      (savedTtl env s loan).entryUntil (.openLoan loan.guarantor loan.beneficiary) :=
  touch_renews env _ hmarked

end Entries

section Operations

variable {X : Type} {vaults : Address → VaultClient X} {env : Env} {config : Config}
  {s s' : State} {x x' : X} {loanId : ℕ}

theorem keeps_attestedTtl (partner verifier : Address) (loanId : ℕ) (loan : Loan) (s : State) :
    Keeps (renewedUntil env) s.ttl (attestedTtl env partner verifier loanId loan s) := by
  let s₁ := extendInstance env s
  let s₂ := extendEntry env (.loan loanId) s₁
  let s₃ := s₂.withTtl (partnerTtl env s₂ partner)
  have hchecked : Keeps (renewedUntil env) s.ttl (checkedTtl env partner verifier loanId s) :=
    (((keeps_extendInstance env s).trans (keeps_extendEntry env s₁ _)).trans
      (keeps_partnerTtl env s₂ partner)).trans (keeps_verifierTtl env s₃ verifier)
  unfold attestedTtl
  split
  · exact hchecked.trans (keeps_savedTtl env (s.withTtl _) loan)
  · exact hchecked.trans (keeps_savedTtl env ((s.withTtl _).unmark loan) loan)

theorem keeps_reassignPartner {admin partner : Address}
    (h : reassignPartner env admin loanId partner s = .ok s') :
    Keeps (renewedUntil env) s.ttl s'.ttl := by
  simp only [reassignPartner, authorizedPartner_eq, loanOf_eq_ok, bind_eq_ok, requireAdmin_eq_ok,
    require_eq_ok, pure_eq_ok, exists_const, Prod.exists] at h
  obtain ⟨-, -, loan, _, ⟨-, rfl⟩, -, rfl⟩ := h
  let s₁ := extendInstance env s
  let s₂ := s₁.withTtl (partnerTtl env s₁ partner)
  let s₃ := extendEntry env (.loan loanId) s₂
  exact (((keeps_extendInstance env s).trans (keeps_partnerTtl env s₁ partner)).trans
    (keeps_extendEntry env s₂ _)).trans (keeps_savedTtl env s₃ { loan with partner })

theorem keeps_setPartner {admin partner : Address} {authorized : Bool}
    (h : setPartner env admin partner authorized s = .ok s') :
    Keeps (renewedUntil env) s.ttl s'.ttl := by
  let s₁ := extendInstance env s
  have hrenews : Keeps (renewedUntil env) s.ttl s₁.ttl := keeps_extendInstance env s
  obtain ⟨-, ttl, hlookup, rfl⟩ := setPartner_cases h
  have hread : Keeps (renewedUntil env) s.ttl ttl := by
    rcases hlookup with rfl | rfl
    · exact hrenews
    · exact hrenews.trans (keeps_verifierTtl env s₁ partner)
  apply hread.trans
  refine keeps_written env (s.withTtl ttl) _ ?_ ?_
  · exact isSome_update_self _ _ _
  · exact .refl _

theorem keeps_setVerifier {admin verifier : Address} {authorized : Bool}
    (h : setVerifier env admin verifier authorized s = .ok s') :
    Keeps (renewedUntil env) s.ttl s'.ttl := by
  let s₁ := extendInstance env s
  have hrenews : Keeps (renewedUntil env) s.ttl s₁.ttl := keeps_extendInstance env s
  obtain ⟨-, ttl, hlookup, rfl⟩ := setVerifier_cases h
  have hread : Keeps (renewedUntil env) s.ttl ttl := by
    rcases hlookup with rfl | rfl
    · exact hrenews
    · exact hrenews.trans (keeps_partnerTtl env s₁ verifier)
  apply hread.trans
  refine keeps_written env (s.withTtl ttl) _ ?_ ?_
  · exact isSome_update_self _ _ _
  · exact .refl _

theorem keeps_setReputation {oracle : Address} {beneficiary : BytesN32} {scoreBps : ℕ}
    (h : setReputation env oracle beneficiary scoreBps s = .ok s') :
    Keeps (renewedUntil env) s.ttl s'.ttl := by
  simp only [setReputation, bind_eq_ok, pure_eq_ok] at h
  obtain ⟨-, -, -, -, -, -, -, -, rfl⟩ := h
  apply (keeps_extendInstance env s).trans
  refine keeps_written env (extendInstance env s) _ ?_ ?_
  · exact isSome_update_self _ _ _
  · exact .refl _

/-- Storing a loan right after its marker renews both. -/
theorem opening_renews (s s₃ : State) (loan : Loan)
    (hread : Keeps (renewedUntil env) (extendInstance env s).ttl s₃.ttl) :
    let s₄ : State := { created env (.openLoan loan.guarantor loan.beneficiary) s₃ with
      openLoans := Function.update s₃.openLoans (loan.guarantor, loan.beneficiary) (some loan.id) }
    Keeps (renewedUntil env) s.ttl (saveLoan env loan s₄).ttl ∧
      renewedUntil env ≤ (saveLoan env loan s₄).ttl.instanceUntil ∧
      renewedUntil env ≤ (saveLoan env loan s₄).ttl.entryUntil (.loan loan.id) ∧
      renewedUntil env ≤
        (saveLoan env loan s₄).ttl.entryUntil (.openLoan loan.guarantor loan.beneficiary) := by
  intro s₄
  have hmarked : (s₄.openLoans (loan.guarantor, loan.beneficiary)).isSome = true :=
    isSome_update_self _ _ _
  -- the marker is written before the loan is, and touched after it
  have hwritten : Keeps (renewedUntil env) s₃.ttl (saveLoan env loan s₄).ttl := by
    refine keeps_written env s₃ (.openLoan loan.guarantor loan.beneficiary) hmarked ?_
    exact Lifetimes.keeps_set threshold_pos threshold_le_extendTo _ _ s₄.ttl
  have hkeeps := hread.trans hwritten
  refine ⟨(keeps_extendInstance env s).trans hkeeps, hkeeps.le_instance (le_refl _) ?_,
    savedTtl_loan env s₄ loan, savedTtl_marker env s₄ loan hmarked⟩
  exact Lifetimes.instance_extended threshold_pos threshold_le_extendTo s.ttl

/-- **Origination.** It keeps every promise, and leaves the instance, the loan and its marker the
threshold. -/
theorem originate_renews {guarantor partner : Address} {beneficiary : BytesN32}
    {principalUsd : ℤ} {installmentCount intervalSecs id : ℕ}
    (h : originate vaults env guarantor beneficiary partner principalUsd installmentCount
      intervalSecs s x = .ok (id, s', x')) :
    Keeps (renewedUntil env) s.ttl s'.ttl ∧ renewedUntil env ≤ s'.ttl.instanceUntil ∧
      renewedUntil env ≤ s'.ttl.entryUntil (.loan id) ∧
      renewedUntil env ≤ s'.ttl.entryUntil (.openLoan guarantor beneficiary) := by
  simp only [originate, authorizedPartner_eq, touch_eq, bind_eq_ok, Env.requireAuth_eq_ok,
    require_eq_ok, pure_eq_ok, exists_const, Prod.mk.injEq] at h
  obtain ⟨-, -, -, -, -, -, ltv, -, _, -, collateral, -, vault, -, _, -, id₁, -, installment, -,
    due, -, rfl, rfl, -⟩ := h
  let s₁ := extendInstance env s
  let s₂ := s₁.withTtl (partnerTtl env s₁ partner)
  let s₃ : State :=
    { s₂.withTtl (touchedTtl env s₂ (.reputation beneficiary)) with loanCount := some id₁ }
  have hread : Keeps (renewedUntil env) s₁.ttl s₃.ttl :=
    (keeps_partnerTtl env s₁ partner).trans (keeps_touch env s₂ _)
  exact opening_renews s s₃ _ hread

/-- **No call shortens a life.** -/
theorem exec_keeps {call : Call} (hsound : s.Sound config env.timestamp)
    (h : exec vaults env call s x = .ok (s', x')) : Keeps (renewedUntil env) s.ttl s'.ttl := by
  have hrenews : Keeps (renewedUntil env) s.ttl (extendInstance env s).ttl :=
    keeps_extendInstance env s
  cases call with
  | originate guarantor beneficiary partner principalUsd installmentCount intervalSecs =>
      obtain ⟨⟨id, s₁, x₁⟩, hok, heq⟩ := map_eq_ok.mp h
      obtain ⟨rfl, rfl⟩ := Prod.mk.inj heq
      exact (originate_renews hok).1
  | attestRepayment partner verifier loanId amountUsd =>
      obtain ⟨⟨r, s₁, x₁⟩, hok, heq⟩ := map_eq_ok.mp h
      obtain ⟨rfl, rfl⟩ := Prod.mk.inj heq
      obtain ⟨loan, -, -, -, -, rfl⟩ := (attestRepayment_eq_ok hsound).mp hok
      exact keeps_attestedTtl partner verifier loanId _ s
  | markGrace caller loanId =>
      obtain ⟨hok, -⟩ := onLedger_eq_ok.mp h
      obtain ⟨-, -, loan, -, -, -, -, rfl⟩ := (markGrace_eq_ok hsound).mp hok
      exact (keeps_loadedTtl env s loanId).trans (keeps_savedTtl env (s.withTtl _) _)
  | markDefaulted caller loanId =>
      obtain ⟨hok, -⟩ := onLedger_eq_ok.mp h
      obtain ⟨-, -, loan, -, -, -, rfl⟩ := markDefaulted_eq_ok.mp hok
      exact (keeps_loadedTtl env s loanId).trans (keeps_savedTtl env (s.withTtl _) _)
  | reassignPartner admin loanId partner => exact keeps_reassignPartner (onLedger_eq_ok.mp h).1
  | setPartner admin partner authorized => exact keeps_setPartner (onLedger_eq_ok.mp h).1
  | setVerifier admin verifier authorized => exact keeps_setVerifier (onLedger_eq_ok.mp h).1
  | setReputation oracle beneficiary scoreBps => exact keeps_setReputation (onLedger_eq_ok.mp h).1
  | setOracle admin oracle =>
      obtain ⟨hok, -⟩ := onLedger_eq_ok.mp h
      obtain ⟨-, -, hok⟩ := bind_eq_ok.mp hok
      obtain rfl := pure_eq_ok.mp hok
      exact hrenews
  | setLiquidationEngine admin engine =>
      obtain ⟨hok, -⟩ := onLedger_eq_ok.mp h
      obtain ⟨-, -, hok⟩ := bind_eq_ok.mp hok
      obtain ⟨-, -, hok⟩ := bind_eq_ok.mp hok
      obtain rfl := pure_eq_ok.mp hok
      exact hrenews
  | scheduleAction | cancelAction | proposeAdmin | acceptAdmin =>
      obtain ⟨hok, -⟩ := onLedger_eq_ok.mp h
      obtain ⟨governance, -, hok⟩ := bind_eq_ok.mp hok
      obtain rfl := pure_eq_ok.mp hok
      exact hrenews
  | executeAction =>
      obtain ⟨hok, -⟩ := onLedger_eq_ok.mp h
      obtain ⟨⟨⟨wasmHash⟩, governance⟩, -, hok⟩ := bind_eq_ok.mp hok
      obtain rfl := pure_eq_ok.mp hok
      exact hrenews
  | isOverdue loanId =>
      obtain ⟨⟨value, hview⟩, -⟩ := onView_eq_ok.mp h
      obtain ⟨-, -, -, rfl⟩ := isOverdue_eq_ok.mp hview
      exact keeps_loadedTtl env s loanId
  | isGraceExpired loanId =>
      obtain ⟨⟨value, hview⟩, -⟩ := onView_eq_ok.mp h
      obtain ⟨-, -, -, rfl⟩ := isGraceExpired_eq_ok.mp hview
      exact keeps_loadedTtl env s loanId
  | loanGuarantor loanId =>
      obtain ⟨⟨value, hview⟩, -⟩ := onView_eq_ok.mp h
      obtain ⟨-, -, -, rfl⟩ := loanGuarantor_eq_ok.mp hview
      exact keeps_loadedTtl env s loanId
  | loanOutstanding loanId =>
      obtain ⟨⟨value, hview⟩, -⟩ := onView_eq_ok.mp h
      obtain ⟨-, -, -, rfl⟩ := (loanOutstanding_eq_ok hsound).mp hview
      exact keeps_loadedTtl env s loanId
  | loanCollateralRemaining loanId =>
      obtain ⟨⟨value, hview⟩, -⟩ := onView_eq_ok.mp h
      obtain ⟨-, -, -, rfl⟩ := (loanCollateralRemaining_eq_ok hsound).mp hview
      exact keeps_loadedTtl env s loanId

end Operations

end RemitCollateral.LoanLedger
