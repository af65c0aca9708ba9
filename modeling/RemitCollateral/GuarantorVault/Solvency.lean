import RemitCollateral.GuarantorVault.Calls
import RemitCollateral.Arithmetic.Pool

/-! # Solvency

The records of all guarantors are claims on one pooled token balance. The balance changes only
together with a record, by at least as much, so it covers all of them together in every reachable
state, whatever the settlement address is and whoever sends tokens to the vault. -/

namespace RemitCollateral.GuarantorVault

open Soroban

variable {T : Type} (tokens : Address → TokenClient T) (tok : StandardToken T) (here : Address)

/-- One input of a run of the vault at `here`. -/
inductive Input (T : Type)
  /-- A call of an entry point, by anyone and with any signatures. -/
  | call (origin : Origin) (call : Call)
  /-- Tokens move without the vault. -/
  | moveTokens (token : T)

/-- Runs of the vault contract at `here` against a standard token that others may move, up to the
first upgrade. Only the vault's own transfers lower its balance. -/
def machine : Machine (World T) (Input T) where
  initial s := ∃ (origin : Origin) (admin usdc settlement : Address) (timelockSecs : ℕ),
    tokens usdc = tok.client ∧
    s.state.vault = construct (origin.env s.clock here) admin usdc settlement timelockSecs
  act clock w input w' :=
    match input with
    | .call origin call => w.vault.wasm = none ∧ exec tokens (origin.env clock here) call w = .ok w'
    | .moveTokens token =>
        tok.balance w.token here ≤ tok.balance token here ∧ { w with token } = w'

/-- The invariant of a run: the records are sound, the lock is clear, a settlement address is set,
finitely many guarantors hold collateral, and the vault's token balance backs all of them. -/
structure Solvent (w : World T) : Prop where
  sound : w.vault.Sound
  uses : w.vault.Uses tokens tok
  unlocked : w.vault.reentrancyLock = false
  settled : w.vault.settlementAddress.isSome
  finite : (Function.support w.vault.collateralBalance).Finite
  backed : Pool.Backed w.vault.collateralBalance (tok.balance w.token here)

variable {tokens tok here}

/-- A fresh vault holds nothing and owes nothing. -/
theorem Solvent.construct {env : Env} {admin usdc settlement : Address} {timelockSecs : ℕ}
    {token : T} (htok : tokens usdc = tok.client) :
    Solvent tokens tok here
      ⟨GuarantorVault.construct env admin usdc settlement timelockSecs, token⟩ where
  sound := State.Sound.construct env admin usdc settlement timelockSecs
  uses := ⟨usdc, rfl, htok⟩
  unlocked := rfl
  settled := rfl
  finite := by
    convert (Set.finite_empty : (∅ : Set Address).Finite)
    ext g
    simp [State.collateralBalance, State.position, GuarantorVault.construct, extendInstance]
  backed := fun keys => by
    refine le_trans (le_of_eq (Finset.sum_eq_zero fun g _ => rfl)) (tok.balance_nonneg token here)

namespace Solvent

variable {w w' : World T}

/-- More tokens back the same records. -/
theorem moveTokens (h : Solvent tokens tok here w) {token : T}
    (hle : tok.balance w.token here ≤ tok.balance token here) :
    Solvent tokens tok here { w with token } :=
  { h with backed := h.backed.mono hle }

/-- A quiet call changes no claim. -/
theorem quiet (h : Solvent tokens tok here w) (hq : Quiet w.vault w'.vault)
    (htoken : w'.token = w.token) : Solvent tokens tok here w' := by
  have hbal : w'.vault.collateralBalance = w.vault.collateralBalance :=
    funext hq.collateralBalance
  exact { sound := h.sound.quiet hq
          uses := by rw [State.Uses, hq.usdcToken]; exact h.uses
          unlocked := hq.lock.trans h.unlocked
          settled := hq.settlement h.settled
          finite := hbal ▸ h.finite
          backed := by rw [hbal, htoken]; exact h.backed }

/-- Replacing one record keeps the invariant when the vault's tokens change by at least as much as
the record's balance. -/
theorem adjust (h : Solvent tokens tok here w) {env : Env} {topic : Topic} {g : Address}
    {amount balance locked : ℤ} {token : T} (h0 : 0 ≤ locked) (hle : locked ≤ balance)
    (hb : InI128 balance)
    (hpool : tok.balance w.token here + (balance - w.vault.collateralBalance g) ≤
      tok.balance token here) :
    Solvent tokens tok here ⟨w.vault.adjust env topic g amount balance locked, token⟩ where
  sound := h.sound.adjust env topic g amount h0 hle hb
  uses := h.uses
  unlocked := rfl
  settled := h.settled
  finite := by
    refine (h.finite.insert g).subset fun g' hg' => ?_
    rw [Function.mem_support, collateralBalance_adjust] at hg'
    by_cases heq : g' = g
    · exact Set.mem_insert_iff.mpr (.inl heq)
    · rw [if_neg heq] at hg'
      exact Set.mem_insert_iff.mpr (.inr hg')
  backed := by
    refine h.backed.update (fun g' (hne : g' ≠ g) => ?_) ?_ ?_
    · rw [collateralBalance_adjust, if_neg hne]
    · rw [collateralBalance_adjust, if_pos rfl]
      omega
    · rw [collateralBalance_adjust, if_pos rfl]
      exact hpool

/-- Every call keeps the invariant. -/
theorem step (h : Solvent tokens tok here w) {env : Env} (hself : env.currentContract = here)
    {call : Call} (heffect : Effect env tok w w' call) : Solvent tokens tok here w' := by
  have hl0 := h.sound.locked_nonneg
  have hle := h.sound.locked_le
  cases call with
  | deposit g amount =>
      -- the record grows by what the pool has been seen to grow by
      obtain ⟨-, hpos, t', ht, hne, hi128, rfl⟩ := heffect
      have hgain := (tok.received_iff hpos ht).mpr hne
      rw [hself] at hgain
      exact h.adjust (hl0 g) (by have := hle g; omega) hi128 (by omega)
  | withdraw g amount =>
      obtain ⟨-, hpos, hfree, t', ht, rfl⟩ := heffect
      have hmoves := tok.transfer_moves ht here
      have hl := hl0 g
      have hi128 := h.sound.i128_of_le g (x := w.vault.collateralBalance g - amount)
        (by omega) (by omega)
      refine h.adjust hl (by omega) hi128 ?_
      -- a withdrawal to the vault itself lowers the record and leaves the pool as it is
      rw [hmoves, hself, if_pos rfl]
      split <;> omega
  | lockCollateral caller g amount =>
      -- locking and releasing move no tokens and leave the balance
      obtain ⟨-, -, hpos, hfree, rfl⟩ := heffect
      exact h.adjust (by have := hl0 g; omega) (by omega) (h.sound.balance_i128 g) (by omega)
  | releaseCollateral caller g amount =>
      obtain ⟨-, -, hpos, hheld, rfl⟩ := heffect
      exact h.adjust (by omega) (by have := hle g; omega) (h.sound.balance_i128 g) (by omega)
  | forfeitCollateral caller g amount =>
      obtain ⟨-, -, hpos, hheld, settlement, -, t', ht, rfl⟩ := heffect
      have hmoves := tok.transfer_moves ht here
      have hlg := hle g
      have hi128 := h.sound.i128_of_le g (x := w.vault.collateralBalance g - amount)
        (by omega) (by omega)
      refine h.adjust (by omega) (by omega) hi128 ?_
      -- the settlement address may be the vault's own
      rw [hmoves, hself, if_pos rfl]
      split <;> omega
  | _ => exact h.quiet heffect.1 heffect.2

/-- Every reachable state of the vault is solvent. -/
theorem of_reachable {s : Timed (World T)} (h : (machine tokens tok here).Reachable s) :
    Solvent tokens tok here s.state := by
  refine Machine.Reachable.invariant (I := fun s => Solvent tokens tok here s.state) ?_ ?_ ?_ h
  · rintro ⟨clock, ⟨vault, token⟩⟩ ⟨origin, admin, usdc, settlement, timelockSecs, htok, hvault⟩
    have hfresh : vault = GuarantorVault.construct (origin.env clock here) admin usdc settlement
        timelockSecs := hvault
    rw [hfresh]
    exact .construct htok
  · exact fun _ _ _ _ h => h
  · rintro clock w (⟨origin, call⟩ | token) w' hact h
    · exact h.step (origin.env_currentContract clock here) (exec_effect h.sound h.uses hact.2)
    · obtain ⟨hle, rfl⟩ := hact
      exact h.moveTokens hle

/-- The vault holds the tokens of every record. -/
theorem balance_le (h : Solvent tokens tok here w) (g : Address) :
    w.vault.collateralBalance g ≤ tok.balance w.token here :=
  h.backed.le g

/-- A withdrawal that the vault's own checks admit is paid. -/
theorem withdraw_succeeds (h : Solvent tokens tok here w) {env : Env}
    (hself : env.currentContract = here) {g : Address} {amount : ℤ} (hauth : env.authorized g)
    (hpos : 0 < amount) (hfree : amount ≤ w.vault.collateralBalance g - w.vault.lockedAmount g) :
    ∃ w', withdraw tokens env g amount w = .ok w' := by
  have hcovered : amount ≤ tok.balance w.token here := by
    have := h.balance_le g
    have := h.sound.locked_nonneg g
    omega
  have hpaid : (tok.transfer w.token here g amount).isSome :=
    tok.transfer_succeeds (le_of_lt hpos) hcovered
  obtain ⟨t', ht⟩ := Option.isSome_iff_exists.mp hpaid
  exact ⟨_, (withdraw_eq_ok h.sound h.uses).mpr
    ⟨h.unlocked, hauth, hpos, hfree, t', hself ▸ ht, rfl⟩⟩

/-- A forfeiture that the vault's own checks admit is paid. -/
theorem forfeit_succeeds (h : Solvent tokens tok here w) {env : Env}
    (hself : env.currentContract = here) {caller g : Address} {amount : ℤ}
    (hauth : env.authorized caller) (hengine : w.vault.liquidationEngine = some caller)
    (hpos : 0 < amount) (hheld : amount ≤ w.vault.lockedAmount g) :
    ∃ w', forfeitCollateral tokens env caller g amount w = .ok w' := by
  have hcovered : amount ≤ tok.balance w.token here := by
    have := h.balance_le g
    have := h.sound.locked_le g
    omega
  obtain ⟨settlement, hsettlement⟩ := Option.isSome_iff_exists.mp h.settled
  have hpaid : (tok.transfer w.token here settlement amount).isSome :=
    tok.transfer_succeeds (le_of_lt hpos) hcovered
  obtain ⟨t', ht⟩ := Option.isSome_iff_exists.mp hpaid
  exact ⟨_, (forfeitCollateral_eq_ok h.sound h.uses).mpr
    ⟨h.unlocked, hauth, hengine, hpos, hheld, settlement, hsettlement, t', hself ▸ ht, rfl⟩⟩

end Solvent

/-! ## The assertions never fail -/

section Assertions

variable {env : Env} {s : State} {g caller : Address} {amount : ℤ}

/-- The assertions of `save` are the invariant of the record it writes. -/
theorem assertFails_save {v : Vault} : AssertFails (save env v s) ↔
    ¬ (0 ≤ v.collateralBalance ∧ 0 ≤ v.lockedAmount ∧ v.lockedAmount ≤ v.collateralBalance) := by
  simp only [save, assertFails_bind, assertFails_assertThat, assertThat_eq_ok, not_assertFails_pure,
    exists_const, and_false, or_false]
  omega

@[simp] theorem not_assertFails_enter : ¬ AssertFails (enter s) := by
  simp [enter]

@[simp] theorem not_assertFails_usdcClient {tokens : Address → TokenClient T} :
    ¬ AssertFails (usdcClient tokens s) := by
  simp [usdcClient]

@[simp] theorem not_assertFails_requireLedger : ¬ AssertFails (requireLedger caller s) := by
  simp [requireLedger]

@[simp] theorem not_assertFails_requireEngine : ¬ AssertFails (requireEngine caller s) := by
  simp [requireEngine]

@[simp] theorem not_assertFails_requireLedgerOrEngine :
    ¬ AssertFails (requireLedgerOrEngine caller s) := by
  simp [requireLedgerOrEngine]

@[simp] theorem not_assertFails_requireAdmin {admin : Address} :
    ¬ AssertFails (requireAdmin env admin s) := by
  simp [requireAdmin]

variable {T : Type} {tokens : Address → TokenClient T} {tok : StandardToken T} {w : World T}

@[simp] theorem assertFails_onVault {operation : State → Result Error State} :
    AssertFails (onVault operation w) ↔ AssertFails (operation w.vault) := by
  simp [onVault]

/-- A deposit raises the balance of a sound record. -/
theorem deposit_not_assertFails (h : w.vault.Sound) (huses : w.vault.Uses tokens tok) :
    ¬ AssertFails (deposit tokens env g amount w) := by
  simp only [deposit, assertFails_bind, not_assertFails_enter, enter_eq_ok,
    Env.not_assertFails_requireAuth, Env.requireAuth_eq_ok, not_assertFails_require,
    require_eq_ok, usdcClient_extendInstance, not_assertFails_usdcClient,
    huses.usdcClient_eq_ok, not_assertFails_callee, callee_eq_ok,
    StandardToken.client_balance, StandardToken.client_transfer_eq_some,
    not_assertFails_i128, i128_eq_ok, vaultOf_locked, assertFails_save, not_assertFails_pure,
    Option.some.injEq, exists_const, and_assoc, exists_and_left, exists_eq_left',
    exists_exists_and_eq_and, false_or, or_false, and_false, exists_false,
    position_collateralBalance, position_lockedAmount]
  rintro ⟨-, -, hpos, t', -, -, -, -, hsave⟩
  have h0 := h.locked_nonneg g
  have hle := h.locked_le g
  exact hsave ⟨by omega, h0, by omega⟩

/-- A withdrawal leaves what is locked. -/
theorem withdraw_not_assertFails (h : w.vault.Sound) :
    ¬ AssertFails (withdraw tokens env g amount w) := by
  simp only [withdraw, assertFails_bind, not_assertFails_enter, enter_eq_ok,
    Env.not_assertFails_requireAuth, Env.requireAuth_eq_ok, not_assertFails_require,
    require_eq_ok, not_assertFails_usdcClient, not_assertFails_callee, not_assertFails_i128,
    i128_eq_ok, vaultOf_locked, assertFails_save, not_assertFails_pure, exists_const, and_assoc,
    exists_and_left, exists_eq_left', false_or, or_false, and_false, exists_false,
    position_collateralBalance, position_lockedAmount]
  rintro ⟨-, -, hpos, -, havail, -, hsave⟩
  have h0 := h.locked_nonneg g
  exact hsave ⟨by omega, h0, by omega⟩

/-- What is locked comes out of what is available. -/
theorem lockCollateral_not_assertFails (h : s.Sound) :
    ¬ AssertFails (lockCollateral env caller g amount s) := by
  simp only [lockCollateral, assertFails_bind, not_assertFails_enter, enter_eq_ok,
    Env.not_assertFails_requireAuth, Env.requireAuth_eq_ok, not_assertFails_requireLedger,
    requireLedger_eq_ok, not_assertFails_require, require_eq_ok, not_assertFails_i128, i128_eq_ok,
    vaultOf_locked, assertFails_save, not_assertFails_pure, exists_const, and_assoc,
    exists_and_left, exists_eq_left', false_or, or_false, and_false, exists_false,
    position_collateralBalance, position_lockedAmount]
  rintro ⟨-, -, -, hpos, -, havail, -, hsave⟩
  have h0 := h.locked_nonneg g
  exact hsave ⟨h.balance_nonneg g, by omega, by omega⟩

/-- What is released comes out of what is locked. -/
theorem releaseCollateral_not_assertFails (h : s.Sound) :
    ¬ AssertFails (releaseCollateral env caller g amount s) := by
  simp only [releaseCollateral, assertFails_bind, not_assertFails_enter, enter_eq_ok,
    Env.not_assertFails_requireAuth, Env.requireAuth_eq_ok, not_assertFails_requireLedgerOrEngine,
    requireLedgerOrEngine_eq_ok, not_assertFails_require, require_eq_ok, not_assertFails_i128,
    i128_eq_ok, vaultOf_locked, assertFails_save, not_assertFails_pure, exists_const, and_assoc,
    exists_and_left, exists_eq_left', false_or, or_false, and_false, exists_false,
    position_collateralBalance, position_lockedAmount]
  rintro ⟨-, -, -, hpos, hheld, -, hsave⟩
  have hle := h.locked_le g
  exact hsave ⟨h.balance_nonneg g, by omega, by omega⟩

/-- What is forfeited comes out of what is locked. -/
theorem forfeitCollateral_not_assertFails (h : w.vault.Sound) :
    ¬ AssertFails (forfeitCollateral tokens env caller g amount w) := by
  simp only [forfeitCollateral, assertFails_bind, not_assertFails_enter, enter_eq_ok,
    Env.not_assertFails_requireAuth, Env.requireAuth_eq_ok, not_assertFails_requireEngine,
    requireEngine_eq_ok, not_assertFails_require, require_eq_ok, not_assertFails_orPanic,
    not_assertFails_usdcClient, not_assertFails_callee, not_assertFails_i128, i128_eq_ok,
    vaultOf_locked, assertFails_save, not_assertFails_pure, exists_const, and_assoc,
    exists_and_left, exists_eq_left', false_or, or_false, and_false, exists_false,
    position_collateralBalance, position_lockedAmount]
  rintro ⟨-, -, -, hpos, hheld, -, -, hsave⟩
  have hle := h.locked_le g
  exact hsave ⟨by omega, by omega, by omega⟩

/-- **No call fails an assertion.** The checks every operation makes first imply what `save`
asserts. -/
theorem exec_not_assertFails (h : w.vault.Sound) (huses : w.vault.Uses tokens tok) (call : Call) :
    ¬ AssertFails (exec tokens env call w) := by
  cases call with
  | deposit g amount => exact deposit_not_assertFails h huses
  | withdraw g amount => exact withdraw_not_assertFails h
  | lockCollateral caller g amount =>
      exact assertFails_onVault.not.mpr (lockCollateral_not_assertFails h)
  | releaseCollateral caller g amount =>
      exact assertFails_onVault.not.mpr (releaseCollateral_not_assertFails h)
  | forfeitCollateral caller g amount => exact forfeitCollateral_not_assertFails h
  | executeAction admin =>
      -- whichever action runs, it only stores
      simp only [exec, assertFails_onVault, executeAction, assertFails_bind]
      rintro (hfail | ⟨⟨action, governance⟩, -, hfail⟩)
      · simp [Governance.executeAction] at hfail
      · cases action <;> simp at hfail
  | getVault g | getBalance g | getLocked g => simp [exec]
  | getAvailable g => simp [exec, getAvailable]
  | setLoanLedger admin ledger => simp [exec, setLoanLedger, -extendInstance_loanLedger]
  | setLiquidationEngine admin engine =>
      simp [exec, setLiquidationEngine, -extendInstance_liquidationEngine]
  | scheduleAction admin action => simp [exec, scheduleAction, Governance.scheduleAction]
  | cancelAction admin => simp [exec, cancelAction, Governance.cancelAction]
  | proposeAdmin admin newAdmin => simp [exec, proposeAdmin, Governance.proposeAdmin]
  | acceptAdmin newAdmin => simp [exec, acceptAdmin, Governance.acceptAdmin]

end Assertions

/-! ## The vault pays what it owes -/

variable {T : Type} {tokens : Address → TokenClient T} {tok : StandardToken T} {here : Address}

/-- **Solvency.** In every reachable state each guarantor's locked part is between zero and its
balance, no call of anyone fails an assertion of `save`, the vault's tokens cover the balances of
all guarantors together, and every withdrawal and forfeiture the vault's own checks admit is paid
out of tokens it holds. -/
theorem vault_solvent {s : Timed (World T)} (h : (machine tokens tok here).Reachable s) :
    (∀ g, 0 ≤ s.state.vault.lockedAmount g ∧
      s.state.vault.lockedAmount g ≤ s.state.vault.collateralBalance g) ∧
    (∀ origin call, ¬ AssertFails (exec tokens (Origin.env origin s.clock here) call s.state)) ∧
    ((Function.support s.state.vault.collateralBalance).Finite ∧
      ∑ᶠ g, s.state.vault.collateralBalance g ≤ tok.balance s.state.token here) ∧
    (∀ origin g amount, (Origin.env origin s.clock here).authorized g → 0 < amount →
      amount ≤ s.state.vault.collateralBalance g - s.state.vault.lockedAmount g →
      amount ≤ tok.balance s.state.token here ∧
        ∃ w', withdraw tokens (Origin.env origin s.clock here) g amount s.state = .ok w') ∧
    (∀ origin caller g amount, (Origin.env origin s.clock here).authorized caller →
      s.state.vault.liquidationEngine = some caller → 0 < amount →
      amount ≤ s.state.vault.lockedAmount g →
      amount ≤ tok.balance s.state.token here ∧
        ∃ w', forfeitCollateral tokens (Origin.env origin s.clock here) caller g amount s.state =
          .ok w') := by
  have hsolvent := Solvent.of_reachable h
  have h0 := hsolvent.sound.locked_nonneg
  have hle := hsolvent.sound.locked_le
  have hheld := hsolvent.balance_le
  refine ⟨fun g => ⟨h0 g, hle g⟩,
    fun origin call => exec_not_assertFails hsolvent.sound hsolvent.uses call,
    ⟨hsolvent.finite, hsolvent.backed.finsum_le hsolvent.finite⟩,
    fun origin g amount hauth hpos hfree => ⟨?_, hsolvent.withdraw_succeeds rfl hauth hpos hfree⟩,
    fun origin caller g amount hauth hengine hpos hlocked =>
      ⟨?_, hsolvent.forfeit_succeeds rfl hauth hengine hpos hlocked⟩⟩
  · have := h0 g
    have := hheld g
    omega
  · have := hle g
    have := hheld g
    omega

/-! ## Playing a run -/

/-- Act on a world whose token keeps a table of balances. -/
def next (here : Address) (clock : Clock) (w : World (Address → ℕ)) :
    Input (Address → ℕ) → Option (World (Address → ℕ))
  | .call origin call =>
      if w.vault.wasm = none then
        outcome (exec (fun _ => tableToken.client) (origin.env clock here) call w)
      else none
  | .moveTokens token => if w.token here ≤ token here then some { w with token } else none

/-- Deploy a vault over a table of balances and act on it, each time at its own clock. -/
def play (here : Address) (origin : Origin) (admin settlement : Address) (token : Address → ℕ)
    (inputs : List (Clock × Input (Address → ℕ))) :
    Option (List (Transition (World (Address → ℕ)) (Input (Address → ℕ))) ×
      Timed (World (Address → ℕ))) :=
  Machine.replay (next here) inputs
    ([], ⟨⟨0, 0⟩, construct (origin.env ⟨0, 0⟩ here) admin ⟨9⟩ settlement 0, token⟩)

/-- What was played is a run. -/
theorem play_run {here : Address} {origin : Origin} {admin settlement : Address}
    {token : Address → ℕ} {inputs : List (Clock × Input (Address → ℕ))}
    {run : List (Transition (World (Address → ℕ)) (Input (Address → ℕ))) ×
      Timed (World (Address → ℕ))}
    (h : play here origin admin settlement token inputs = some run) :
    (machine (fun _ => tableToken.client) tableToken here).Run run.1 run.2 := by
  have hstart : (machine (fun _ => tableToken.client) tableToken here).Run []
      ⟨⟨0, 0⟩, construct (origin.env ⟨0, 0⟩ here) admin ⟨9⟩ settlement 0, token⟩ :=
    .start ⟨origin, admin, ⟨9⟩, settlement, 0, rfl, rfl⟩
  refine hstart.replay (fun c w input w' hnext => ?_) h
  cases input with
  | call origin call =>
      obtain ⟨hwasm, hok⟩ := Option.ite_none_right_eq_some.mp hnext
      exact ⟨hwasm, outcome_eq_some.mp hok⟩
  | moveTokens token =>
      obtain ⟨hle, hw'⟩ := Option.ite_none_right_eq_some.mp hnext
      exact ⟨Int.ofNat_le.mpr hle, Option.some.inj hw'⟩

/-- A vault that is its own settlement address: a guarantor deposits 60, the ledger locks 40 of it,
the engine forfeits 30, and the 20 left available can be withdrawn from the 60 tokens still held.
Addresses: 0 vault, 1 admin, 2 ledger, 3 engine, 4 guarantor. -/
theorem vault_solvent_ownSettlement : ∃ s,
    (machine (fun _ => tableToken.client) tableToken ⟨0⟩).Reachable s ∧
      s.state.vault.collateralBalance ⟨4⟩ = 30 ∧ s.state.vault.lockedAmount ⟨4⟩ = 10 ∧
      tableToken.balance s.state.token ⟨0⟩ = 60 ∧
      ∃ w', withdraw (fun _ => tableToken.client) (Origin.env ⟨some ⟨4⟩, [], 0⟩ s.clock ⟨0⟩) ⟨4⟩ 20
        s.state = .ok w' := by
  let origin : Origin := ⟨none, [⟨1⟩, ⟨2⟩, ⟨3⟩, ⟨4⟩], 0⟩
  let calls : List Call :=
    [.setLoanLedger ⟨1⟩ ⟨2⟩, .setLiquidationEngine ⟨1⟩ ⟨3⟩, .deposit ⟨4⟩ 60,
      .lockCollateral ⟨2⟩ ⟨4⟩ 40, .forfeitCollateral ⟨3⟩ ⟨4⟩ 30]
  have hplayed : (play ⟨0⟩ origin ⟨1⟩ ⟨0⟩ (fun a => if a = ⟨4⟩ then 100 else 0)
      (calls.map fun call => (⟨0, 0⟩, .call origin call))).any (fun run =>
        run.2.state.vault.collateralBalance ⟨4⟩ = 30 ∧ run.2.state.vault.lockedAmount ⟨4⟩ = 10 ∧
          tableToken.balance run.2.state.token ⟨0⟩ = 60) = true := by decide +kernel
  obtain ⟨run, hrun, hchecked⟩ := Option.any_eq_true _ _ |>.mp hplayed
  obtain ⟨hbalance, hlocked, htoken⟩ := of_decide_eq_true hchecked
  have hreach := (play_run hrun).reachable
  exact ⟨run.2, hreach, hbalance, hlocked, htoken,
    ((vault_solvent hreach).2.2.2.1 _ ⟨4⟩ 20 (.inl rfl) (by decide) (by omega)).2⟩

end RemitCollateral.GuarantorVault
