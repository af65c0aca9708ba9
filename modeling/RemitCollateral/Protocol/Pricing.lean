import RemitCollateral.Protocol.Runs

/-! # Pricing a loan

The LTV a score qualifies for, what an origination locks at that LTV, and how the two move: a better
score never raises the LTV, and neither a better score nor a smaller principal ever locks more. -/

namespace RemitCollateral.LoanLedger

open Soroban

namespace Config

variable {config : Config} {score score' : ℕ}

theorem ltvFor_le_base (config : Config) (score : ℕ) : config.ltvFor score ≤ config.baseLtvBps :=
  Nat.sub_le _ _

theorem ltvFor_zero (config : Config) : config.ltvFor 0 = config.baseLtvBps := by
  simp [ltvFor]

/-- A perfect score earns the floor. -/
theorem Accepted.ltvFor_perfect (h : config.Accepted) :
    config.ltvFor 10000 = config.minLtvBps := by
  have := h.minLtv_le
  rw [ltvFor, Nat.mul_div_cancel _ (by decide)]
  omega

/-- A better score never raises the LTV. -/
theorem ltvFor_antitone (config : Config) (h : score ≤ score') :
    config.ltvFor score' ≤ config.ltvFor score :=
  Nat.sub_le_sub_left (Nat.div_le_div_right (Nat.mul_le_mul_left _ h)) _

/-- Neither subtraction of the formula is cut off at zero. -/
theorem Accepted.ltvFor_eq (h : config.Accepted) (hscore : score ≤ 10000) :
    (config.ltvFor score : ℤ) =
      config.baseLtvBps - (config.baseLtvBps - config.minLtvBps : ℤ) * score / 10000 := by
  have hspan : (config.baseLtvBps - config.minLtvBps) * score / 10000 ≤
      config.baseLtvBps - config.minLtvBps :=
    Nat.div_le_of_le_mul (by rw [mul_comm]; exact Nat.mul_le_mul_right _ hscore)
  rw [ltvFor, Nat.cast_sub (le_trans hspan (Nat.sub_le _ _)), ← Nat.cast_sub h.minLtv_le]
  push_cast
  rfl

end Config

/-- The score of a beneficiary is a share of a perfect one. -/
theorem State.Sound.score_le {config : Config} {now : ℕ} {s : State} (h : s.Sound config now)
    (beneficiary : BytesN32) : getReputation beneficiary s ≤ 10000 := by
  have := h.scores beneficiary
  unfold BPS at this
  omega

/-- The LTV of a beneficiary is computed without loss and lies between the floor and the base. -/
theorem State.Sound.requiredLtvBps {config : Config} {now : ℕ} {s : State} (h : s.Sound config now)
    (beneficiary : BytesN32) :
    ∃ ltv, LoanLedger.requiredLtvBps beneficiary s = .ok ltv ∧
      ltv = config.ltvFor (getReputation beneficiary s) ∧
      (ltv : ℤ) = config.baseLtvBps -
        (config.baseLtvBps - config.minLtvBps : ℤ) * getReputation beneficiary s / 10000 ∧
      config.minLtvBps ≤ ltv ∧ ltv ≤ config.baseLtvBps :=
  ⟨_, requiredLtvBps_eq h.accepted h.config_eq (h.scores beneficiary), rfl,
    h.accepted.ltvFor_eq (h.score_le beneficiary),
    h.accepted.minLtv_le_ltvFor (h.score_le beneficiary), config.ltvFor_le_base _⟩

/-- What a loan of `principalUsd` locks for a beneficiary with `score`. -/
def Config.collateralFor (config : Config) (principalUsd : ℤ) (score : ℕ) : ℤ :=
  principalUsd * config.ltvFor score / BPS

section Collateral

variable (config : Config) {principalUsd principalUsd' : ℤ} {score score' : ℕ}

/-- The collateral is the exact share of the principal, less than one unit rounded off. -/
theorem Config.collateralFor_bounds (principalUsd : ℤ) (score : ℕ) :
    config.collateralFor principalUsd score * 10000 ≤ principalUsd * config.ltvFor score ∧
      principalUsd * config.ltvFor score <
        (config.collateralFor principalUsd score + 1) * 10000 := by
  have hle := Int.ediv_mul_le (principalUsd * config.ltvFor score) (by decide : BPS ≠ 0)
  have hlt := Int.lt_ediv_add_one_mul_self (principalUsd * config.ltvFor score)
    (by decide : 0 < BPS)
  exact ⟨hle, hlt⟩

/-- Neither a better score nor a smaller principal locks more. -/
theorem Config.collateralFor_mono (h0 : 0 ≤ principalUsd)
    (hprincipal : principalUsd ≤ principalUsd') (hscore : score ≤ score') :
    config.collateralFor principalUsd score' ≤ config.collateralFor principalUsd' score := by
  have hltv : (config.ltvFor score' : ℤ) ≤ config.ltvFor score :=
    Int.ofNat_le.mpr (config.ltvFor_antitone hscore)
  refine Int.ediv_le_ediv (by decide) ?_
  calc principalUsd * config.ltvFor score'
      ≤ principalUsd * config.ltvFor score := mul_le_mul_of_nonneg_left hltv h0
    _ ≤ principalUsd' * config.ltvFor score :=
        mul_le_mul_of_nonneg_right hprincipal (Int.natCast_nonneg _)

end Collateral

end RemitCollateral.LoanLedger

namespace RemitCollateral.Protocol

open Soroban
open GuarantorVault (Posting Posts moved)

variable {T : Type} {d : Deployment} {tokens : Address → GuarantorVault.TokenClient T}
  {tok : GuarantorVault.StandardToken T} {origin : Origin} {clock : Clock} {s s' : System T}
  {guarantor partner : Address} {beneficiary : BytesN32} {principalUsd : ℤ}
  {installmentCount intervalSecs : ℕ}

/-- An origination as the next loan: its LTV is the one its beneficiary qualifies for, its
collateral the share of the principal at that LTV, and that amount is locked in the vault. -/
structure Prices (config : LoanLedger.Config) (guarantor : Address) (beneficiary : BytesN32)
    (principalUsd : ℤ) (s s' : System T) (loan : LoanLedger.Loan) : Prop where
  recorded : s'.loans (LoanLedger.getLoanCount s.ledger + 1) = some loan
  principal : loan.principalUsd = principalUsd
  ltv : LoanLedger.requiredLtvBps beneficiary s.ledger = .ok loan.ltvBps
  collateral : loan.collateralLocked =
    config.collateralFor principalUsd (LoanLedger.getReputation beneficiary s.ledger)
  locked : s'.world.vault.lockedAmount guarantor =
    s.world.vault.lockedAmount guarantor + loan.collateralLocked
  others : ∀ g, g ≠ guarantor →
    s'.world.vault.lockedAmount g = s.world.vault.lockedAmount g
  pos : 0 < principalUsd

/-- Every origination that succeeds is priced so. -/
theorem originate_prices (h : s.Sound d tokens tok clock.timestamp)
    (hok : exec d tokens origin clock s (.ledger (.originate guarantor beneficiary partner
      principalUsd installmentCount intervalSecs)) = some s') :
    ∃ loan, Prices d.config guarantor beneficiary principalUsd s s' loan := by
  obtain ⟨⟨l', w'⟩, hresult, rfl⟩ := Option.map_eq_some_iff.mp hok
  have hstorage : s.ledger.Sound d.config (origin.env clock d.ledger).timestamp := h.ledger
  obtain ⟨loan, hchecks, ⟨vault, hvault, hlock⟩, ttl, rfl⟩ :=
    LoanLedger.exec_effect hstorage (outcome_eq_some.mp hresult)
  obtain ⟨hposts, -⟩ := h.vault rfl (h.wired.lockCall hvault hlock)
  obtain ⟨ltv, hltv, rfl, -⟩ := h.ledger.requiredLtvBps beneficiary
  have hopens := hchecks.opens
  have hid : loan.id = LoanLedger.getLoanCount s.ledger + 1 := hopens ▸ rfl
  refine ⟨loan, { recorded := ?_, principal := hopens ▸ rfl, ltv := hopens ▸ hltv
                  collateral := hopens ▸ rfl, locked := ?_, others := fun g hg => ?_
                  pos := hchecks.pos }⟩
  · rw [← hid]
    exact Function.update_self _ _ _
  · simp [hposts.locked, GuarantorVault.Call.postings]
  · simp [hposts.locked, GuarantorVault.Call.postings, hg.symm]

/-- **Pricing.** In every reachable ledger the LTV of a beneficiary is computed without loss,
between the floor and the base, the base with no score and the floor with a perfect one, and no
higher for a better score. In every reachable system an origination locks in the vault exactly the
collateral it records, the share of the principal at that LTV rounded down; and of two originations
the one with the better score and the smaller principal never locks more. -/
theorem ltv_bounds_price (d : Deployment) (tokens : Address → GuarantorVault.TokenClient T)
    (tok : GuarantorVault.StandardToken T) :
    (∀ here (s : Timed LoanLedger.State), (LoanLedger.machine d.config here).Reachable s →
      ∀ beneficiary, ∃ ltv, LoanLedger.requiredLtvBps beneficiary s.state = .ok ltv ∧
        (ltv : ℤ) = d.config.baseLtvBps - (d.config.baseLtvBps - d.config.minLtvBps : ℤ) *
          LoanLedger.getReputation beneficiary s.state / 10000 ∧
        d.config.minLtvBps ≤ ltv ∧ ltv ≤ d.config.baseLtvBps ∧
        (s.state.reputation beneficiary = none → ltv = d.config.baseLtvBps) ∧
        (s.state.reputation beneficiary = some 10000 → ltv = d.config.minLtvBps)) ∧
    (∀ here (s₁ s₂ : Timed LoanLedger.State), (LoanLedger.machine d.config here).Reachable s₁ →
      (LoanLedger.machine d.config here).Reachable s₂ → ∀ b₁ b₂ ltv₁ ltv₂,
        LoanLedger.getReputation b₁ s₁.state ≤ LoanLedger.getReputation b₂ s₂.state →
        LoanLedger.requiredLtvBps b₁ s₁.state = .ok ltv₁ →
        LoanLedger.requiredLtvBps b₂ s₂.state = .ok ltv₂ → ltv₂ ≤ ltv₁) ∧
    (∀ s : Timed (System T), (machine d tokens tok).Reachable s →
      ∀ origin guarantor beneficiary partner principalUsd installmentCount intervalSecs s',
        exec d tokens origin s.clock s.state (.ledger (.originate guarantor beneficiary partner
          principalUsd installmentCount intervalSecs)) = some s' →
        ∃ loan, Prices d.config guarantor beneficiary principalUsd s.state s' loan ∧
          loan.collateralLocked * 10000 ≤ principalUsd * loan.ltvBps ∧
          principalUsd * loan.ltvBps < (loan.collateralLocked + 1) * 10000) ∧
    ∀ s₁ s₂ : Timed (System T), (machine d tokens tok).Reachable s₁ →
      (machine d tokens tok).Reachable s₂ → ∀ o₁ o₂ g₁ g₂ b₁ b₂ p₁ p₂ principalUsd₁ principalUsd₂
        count₁ count₂ interval₁ interval₂ s₁' s₂',
        exec d tokens o₁ s₁.clock s₁.state (.ledger (.originate g₁ b₁ p₁ principalUsd₁ count₁
          interval₁)) = some s₁' →
        exec d tokens o₂ s₂.clock s₂.state (.ledger (.originate g₂ b₂ p₂ principalUsd₂ count₂
          interval₂)) = some s₂' →
        LoanLedger.getReputation b₁ s₁.state.ledger ≤ LoanLedger.getReputation b₂ s₂.state.ledger →
        principalUsd₂ ≤ principalUsd₁ →
          s₂'.world.vault.lockedAmount g₂ - s₂.state.world.vault.lockedAmount g₂ ≤
            s₁'.world.vault.lockedAmount g₁ - s₁.state.world.vault.lockedAmount g₁ := by
  refine ⟨fun here s h beneficiary => ?_, fun here s₁ s₂ h₁ h₂ b₁ b₂ ltv₁ ltv₂ hle hok₁ hok₂ => ?_,
    fun s h origin guarantor beneficiary partner principalUsd installmentCount intervalSecs s'
      hok => ?_, ?_⟩
  · have hsound := LoanLedger.State.Sound.of_reachable h
    obtain ⟨ltv, hok, hltv, hexact, hmin, hbase⟩ := hsound.requiredLtvBps beneficiary
    refine ⟨ltv, hok, hexact, hmin, hbase, fun hnone => ?_, fun hperfect => ?_⟩
    · rw [hltv, LoanLedger.getReputation, hnone]
      exact d.config.ltvFor_zero
    · rw [hltv, LoanLedger.getReputation, hperfect]
      exact hsound.accepted.ltvFor_perfect
  · obtain ⟨ltv₁', hok₁', hltv₁, -⟩ := (LoanLedger.State.Sound.of_reachable h₁).requiredLtvBps b₁
    obtain ⟨ltv₂', hok₂', hltv₂, -⟩ := (LoanLedger.State.Sound.of_reachable h₂).requiredLtvBps b₂
    obtain rfl : ltv₁ = ltv₁' := Except.ok.inj (hok₁.symm.trans hok₁')
    obtain rfl : ltv₂ = ltv₂' := Except.ok.inj (hok₂.symm.trans hok₂')
    rw [hltv₁, hltv₂]
    exact d.config.ltvFor_antitone hle
  · have hsound := System.Sound.of_reachable h
    obtain ⟨loan, hprices⟩ := originate_prices hsound hok
    have hbounds := d.config.collateralFor_bounds principalUsd
      (LoanLedger.getReputation beneficiary s.state.ledger)
    obtain ⟨ltv, hltv, hltvFor, -⟩ := hsound.ledger.requiredLtvBps beneficiary
    obtain rfl : loan.ltvBps = ltv := Except.ok.inj (hprices.ltv.symm.trans hltv)
    rw [← hprices.collateral, ← hltvFor] at hbounds
    exact ⟨loan, hprices, hbounds⟩
  · intro s₁ s₂ h₁ h₂ o₁ o₂ g₁ g₂ b₁ b₂ p₁ p₂ principalUsd₁ principalUsd₂ count₁ count₂ interval₁
      interval₂ s₁' s₂' hok₁ hok₂ hscore hle
    obtain ⟨loan₁, hprices₁⟩ := originate_prices (System.Sound.of_reachable h₁) hok₁
    obtain ⟨loan₂, hprices₂⟩ := originate_prices (System.Sound.of_reachable h₂) hok₂
    have hmono := d.config.collateralFor_mono (le_of_lt hprices₂.pos) hle hscore
    rw [hprices₁.locked, hprices₂.locked, hprices₁.collateral, hprices₂.collateral]
    omega

/-- A second loan of the same guarantor, of 100 for a beneficiary with no score, is priced at the
base. -/
theorem ltv_bounds_price_noScore : ∃ history s s' loan, sampleMachine.Run history s ∧
    exec sample (fun _ => GuarantorVault.tableToken.client) sampleOrigin s.clock s.state
      (.ledger (.originate ⟨4⟩ 8 ⟨5⟩ 100 2 86400)) = some s' ∧
    Prices sample.config ⟨4⟩ 8 100 s.state s' loan ∧
    loan.collateralLocked * 10000 ≤ 100 * loan.ltvBps ∧
    100 * loan.ltvBps < (loan.collateralLocked + 1) * 10000 := by
  obtain ⟨history, s, hrun, hopens⟩ := exists_run_of_playLoan
    (P := fun _ s => (exec sample (fun _ => GuarantorVault.tableToken.client) sampleOrigin s.clock
      s.state (.ledger (.originate ⟨4⟩ 8 ⟨5⟩ 100 2 86400))).isSome = true)
    (show (playLoan []).any _ = true by decide +kernel)
  obtain ⟨s', hok⟩ := Option.isSome_iff_exists.mp hopens
  obtain ⟨loan, hprices, hbounds⟩ := (ltv_bounds_price sample _ _).2.2.1 s hrun.reachable _ _ _ _ _
    _ _ s' hok
  exact ⟨history, s, s', loan, hrun, hok, hprices, hbounds⟩

end RemitCollateral.Protocol
