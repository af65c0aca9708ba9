import RemitCollateral.GuarantorVault.Solvency
import RemitCollateral.Host.Reentrancy

/-! # Tokens that call back

The vault against a token contract of which nothing is known: while it is asked for a balance or a
transfer it may call the five operations that move collateral, as often as it likes, with any
signatures, and go on when they fail. Each of the five is a session, cut at its calls of the token.
The lock is taken at every cut, so nothing called back gets in, and an operation that succeeds does
to the records exactly what it does when the token only answers. -/

namespace RemitCollateral.GuarantorVault

open Soroban

/-- The operations that move collateral, each under the reentrancy lock. -/
inductive Operation
  | deposit (guarantor : Address) (amount : ℤ)
  | withdraw (guarantor : Address) (amount : ℤ)
  | lockCollateral (caller guarantor : Address) (amount : ℤ)
  | releaseCollateral (caller guarantor : Address) (amount : ℤ)
  | forfeitCollateral (caller guarantor : Address) (amount : ℤ)
  deriving DecidableEq, Repr

namespace Operation

/-- The entry point an operation is called at. -/
def call : Operation → Call
  | deposit guarantor amount => .deposit guarantor amount
  | withdraw guarantor amount => .withdraw guarantor amount
  | lockCollateral caller guarantor amount => .lockCollateral caller guarantor amount
  | releaseCollateral caller guarantor amount => .releaseCollateral caller guarantor amount
  | forfeitCollateral caller guarantor amount => .forfeitCollateral caller guarantor amount

/-- The guarantor whose record an operation replaces. -/
def guarantor : Operation → Address
  | deposit guarantor _ | withdraw guarantor _ => guarantor
  | lockCollateral _ guarantor _ | releaseCollateral _ guarantor _ => guarantor
  | forfeitCollateral _ guarantor _ => guarantor

/-- The amount an operation moves. -/
def amount : Operation → ℤ
  | deposit _ amount | withdraw _ amount => amount
  | lockCollateral _ _ amount | releaseCollateral _ _ amount => amount
  | forfeitCollateral _ _ amount => amount

/-- The second topic of the event an operation publishes. -/
def topic : Operation → Topic
  | deposit .. => .deposit
  | withdraw .. => .withdraw
  | lockCollateral .. => .lock
  | releaseCollateral .. => .release
  | forfeitCollateral .. => .forfeit

/-- What an operation adds to its guarantor's collateral. -/
def collateralChange : Operation → ℤ
  | deposit _ amount => amount
  | withdraw _ amount | forfeitCollateral _ _ amount => -amount
  | lockCollateral .. | releaseCollateral .. => 0

/-- What an operation adds to the locked part of it. -/
def lockedChange : Operation → ℤ
  | deposit .. | withdraw .. => 0
  | lockCollateral _ _ amount => amount
  | releaseCollateral _ _ amount | forfeitCollateral _ _ amount => -amount

end Operation

/-! ## Sessions -/

/-- What the vault, running in `env`, asks of the token contract at `usdc`. -/
inductive TokenCall
  | balance (env : Env) (usdc holder : Address)
  | transfer (env : Env) (usdc src dst : Address) (amount : ℤ)
  deriving DecidableEq, Repr

/-- What the token answers: an amount, or that the transfer was made. -/
abbrev TokenCall.Reply : TokenCall → Type
  | balance .. => ℤ
  | transfer .. => Unit

section Sessions

variable (env : Env)

/-- `deposit`, cut at its calls of the token. -/
def depositSession (guarantor : Address) (amount : ℤ) (s : State) :
    Session State Error TokenCall.Reply State := do
  let s ← .step (enter s)
  let s := extendInstance env s
  .step (env.requireAuth guarantor)
  .step (require (0 < amount) .invalidAmount)
  let usdc ← .step (orPanic s.usdcToken .notInitialized)
  let (balanceBefore, s) ← Session.ask (.balance env usdc env.currentContract) s
  let (_, s) ← Session.ask (.transfer env usdc guarantor env.currentContract amount) s
  let (balanceAfter, s) ← Session.ask (.balance env usdc env.currentContract) s
  let received ← .step (i128 (balanceAfter - balanceBefore))
  .step (require (received = amount) .invalidAmount)
  let (vault, s) := vaultOf env guarantor s
  let collateralBalance ← .step (i128 (vault.collateralBalance + amount))
  let vault := { vault with collateralBalance }
  let s ← .step (save env vault s)
  pure (drop (publish .deposit guarantor amount vault s))

/-- `withdraw`, cut at its call of the token. -/
def withdrawSession (guarantor : Address) (amount : ℤ) (s : State) :
    Session State Error TokenCall.Reply State := do
  let s ← .step (enter s)
  let s := extendInstance env s
  .step (env.requireAuth guarantor)
  .step (require (0 < amount) .invalidAmount)
  let (vault, s) := vaultOf env guarantor s
  let available ← .step (i128 (vault.collateralBalance - vault.lockedAmount))
  .step (require (amount ≤ available) .insufficientAvailable)
  let collateralBalance ← .step (i128 (vault.collateralBalance - amount))
  let vault := { vault with collateralBalance }
  let s ← .step (save env vault s)
  let usdc ← .step (orPanic s.usdcToken .notInitialized)
  let (_, s) ← Session.ask (.transfer env usdc env.currentContract guarantor amount) s
  pure (drop (publish .withdraw guarantor amount vault s))

/-- `forfeit_collateral`, cut at its call of the token. -/
def forfeitCollateralSession (caller guarantor : Address) (amount : ℤ) (s : State) :
    Session State Error TokenCall.Reply State := do
  let s ← .step (enter s)
  let s := extendInstance env s
  .step (env.requireAuth caller)
  .step (requireEngine caller s)
  .step (require (0 < amount) .invalidAmount)
  let (vault, s) := vaultOf env guarantor s
  .step (require (amount ≤ vault.lockedAmount) .insufficientLocked)
  let lockedAmount ← .step (i128 (vault.lockedAmount - amount))
  let collateralBalance ← .step (i128 (vault.collateralBalance - amount))
  let vault := { vault with lockedAmount, collateralBalance }
  let s ← .step (save env vault s)
  let settlement ← .step (orPanic s.settlementAddress .notInitialized)
  let usdc ← .step (orPanic s.usdcToken .notInitialized)
  let (_, s) ← Session.ask (.transfer env usdc env.currentContract settlement amount) s
  pure (drop (publish .forfeit guarantor amount vault s))

/-- An operation, cut at its calls of the token. -/
def Operation.session : Operation → State → Session State Error TokenCall.Reply State
  | deposit guarantor amount => depositSession env guarantor amount
  | withdraw guarantor amount => withdrawSession env guarantor amount
  | lockCollateral caller guarantor amount =>
      fun s => .step (GuarantorVault.lockCollateral env caller guarantor amount s)
  | releaseCollateral caller guarantor amount =>
      fun s => .step (GuarantorVault.releaseCollateral env caller guarantor amount s)
  | forfeitCollateral caller guarantor amount =>
      forfeitCollateralSession env caller guarantor amount

end Sessions

/-! ## Token contracts -/

variable {T : Type}

/-- The code of a token contract that sees `T` of the world outside the vault: what it does in its
environment before it answers. -/
structure TokenContract (T : Type) where
  balance : Env → Address → T → Program T (Origin × Operation) Error ℤ
  transfer : Env → Address → Address → ℤ → T → Program T (Origin × Operation) Error Unit

section Invocations

variable (contracts : Address → TokenContract T) (clock : Clock) (here : Address) (depth : ℕ)

/-- What the token contract does that the vault asks. -/
def respond : (request : TokenCall) → T → Program T (Origin × Operation) Error request.Reply
  | .balance env usdc holder => (contracts usdc).balance (env.call usdc) holder
  | .transfer env usdc src dst amount => (contracts usdc).transfer (env.call usdc) src dst amount

/-- The vault at `here` in the ledger of `clock`, as the operations called on it. -/
def operations (input : Origin × Operation) : State → Session State Error TokenCall.Reply State :=
  input.2.session (input.1.env clock here)

/-- Run an operation of the vault, with at most `depth` of its calls inside one another. -/
def invokeVault :
    Origin × Operation → State → T →
      Transcript State (Origin × Operation) Error TokenCall.Reply (State × T) :=
  invoke (respond contracts) (operations clock here) depth

/-- The client of a token contract that may call the vault back, `depth` calls deep. -/
def client (env : Env) (usdc : Address) : TokenClient T where
  balance holder w :=
    let program := respond contracts (.balance env usdc holder) w.token
    (program.run (invokeVault contracts clock here depth) w.vault).2.map fun p =>
      (p.1, ⟨p.2.1, p.2.2⟩)
  transfer src dst amount w :=
    let program := respond contracts (.transfer env usdc src dst amount) w.token
    (program.run (invokeVault contracts clock here depth) w.vault).2.map fun p => ⟨p.2.1, p.2.2⟩

end Invocations

/-! ## Sessions are the operations -/

/-- What token clients answer. -/
def answer (tokens : Env → Address → TokenClient T) :
    (request : TokenCall) → State → T → Option (request.Reply × State × T)
  | .balance env usdc holder, s, t =>
      ((tokens env usdc).balance holder ⟨s, t⟩).map fun p => (p.1, p.2.vault, p.2.token)
  | .transfer env usdc src dst amount, s, t =>
      ((tokens env usdc).transfer src dst amount ⟨s, t⟩).map fun w => ((), w.vault, w.token)

theorem eval_onVault
    (answer : (request : TokenCall) → State → T → Option (request.Reply × State × T))
    (operation : State → Result Error State) (w : World T) :
    (Session.step (operation w.vault)).eval answer w.token =
      (fun w => (w.vault, w.token)) <$> onVault operation w := by
  unfold onVault
  cases operation w.vault with
  | error fault => rfl
  | ok s => rfl

/-- An operation cut at its calls of the token is the operation, whatever the clients are. -/
theorem eval_session (tokens : Env → Address → TokenClient T) (env : Env) (operation : Operation)
    (w : World T) :
    (operation.session env w.vault).eval (answer tokens) w.token =
      (fun w => (w.vault, w.token)) <$> exec (tokens env) env operation.call w := by
  cases operation with
  | lockCollateral caller g amount => exact eval_onVault _ _ w
  | releaseCollateral caller g amount => exact eval_onVault _ _ w
  | _ =>
      simp only [Operation.session, depositSession, withdrawSession, forfeitCollateralSession,
        Operation.call, exec, deposit, withdraw, forfeitCollateral, usdcClient, answer,
        Session.eval_step_bind, Session.eval_ask_bind, Session.pure_eq, Session.eval_step,
        callee_map_bind, bind_assoc, pure_bind, map_bind, map_pure]
      rfl

section Clients

variable (contracts : Address → TokenContract T) (clock : Clock) (here : Address) (depth : ℕ)

/-- The clients answer what the token contracts do. -/
theorem answer_client : answer (client contracts clock here depth) = fun request s t =>
    ((respond contracts request t).run (invokeVault contracts clock here depth) s).2 := by
  funext request s t
  cases request with
  | balance env usdc holder =>
      show Option.map _ (Option.map _ _) = _
      rw [Option.map_map]
      exact Option.map_id'
  | transfer env usdc src dst amount =>
      show Option.map _ (Option.map _ _) = _
      rw [Option.map_map]
      exact Option.map_id'

/-- **Nothing is added to the code.** An operation run against token contracts leaves what the
vault's code leaves that calls their clients. -/
theorem invokeVault_result (origin : Origin) (operation : Operation) (w : World T) :
    (invokeVault contracts clock here (depth + 1) (origin, operation) w.vault w.token).result =
      (fun w => (w.vault, w.token)) <$>
        exec (client contracts clock here depth (origin.env clock here)) (origin.env clock here)
          operation.call w := by
  rw [← eval_session, answer_client]
  exact Session.run_result _ _ _ _

end Clients

/-! ## The guard -/

section Guard

variable {env : Env} {g caller : Address} {amount : ℤ} {s : State}

theorem enter_taken (h : s.reentrancyLock = true) :
    enter s = .error (.contract .reentrancyGuard) := by
  simp [enter, require, h, bind, Except.bind]

/-- Every operation begins by taking the lock. -/
theorem session_taken {operation : Operation} (h : s.reentrancyLock = true) :
    operation.session env s = .step (.error (.contract .reentrancyGuard)) := by
  cases operation with
  | deposit g amount =>
      show depositSession env g amount s = _
      rw [depositSession, enter_taken h, Session.step_error_bind]
  | withdraw g amount =>
      show withdrawSession env g amount s = _
      rw [withdrawSession, enter_taken h, Session.step_error_bind]
  | lockCollateral caller g amount =>
      show Session.step (lockCollateral env caller g amount s) = _
      rw [lockCollateral, enter_taken h]
      rfl
  | releaseCollateral caller g amount =>
      show Session.step (releaseCollateral env caller g amount s) = _
      rw [releaseCollateral, enter_taken h]
      rfl
  | forfeitCollateral caller g amount =>
      show forfeitCollateralSession env caller g amount s = _
      rw [forfeitCollateralSession, enter_taken h, Session.step_error_bind]

theorem enter_lock {s' : State} (h : enter s = .ok s') :
    (extendInstance env s').reentrancyLock = true := by
  obtain ⟨-, rfl⟩ := enter_eq_ok.mp h
  rfl

/-- Reading a record and replacing it leaves the lock alone. -/
theorem save_lock {vault : Vault} {s' : State} (h : s.reentrancyLock = true)
    (hs : save env vault (vaultOf env g s).2 = .ok s') : s'.reentrancyLock = true := by
  obtain ⟨-, -, -, rfl⟩ := save_eq_ok.mp hs
  exact (vaultOf_quiet g s).lock.trans h

theorem depositSession_asksIn :
    (depositSession env g amount s).AsksIn (·.reentrancyLock = true) := by
  unfold depositSession
  simp only [Session.asksIn_step_bind, Session.asksIn_ask_bind, Session.pure_eq,
    Session.asksIn_step, implies_true, and_true]
  intro s₁ henter _ _ _ _ usdc _
  have hlock : (extendInstance env s₁).reentrancyLock = true := enter_lock henter
  exact ⟨hlock, fun _ => ⟨hlock, fun _ => hlock⟩⟩

theorem withdrawSession_asksIn :
    (withdrawSession env g amount s).AsksIn (·.reentrancyLock = true) := by
  unfold withdrawSession
  simp only [Session.asksIn_step_bind, Session.asksIn_ask_bind, Session.pure_eq,
    Session.asksIn_step, implies_true, and_true]
  intro s₁ henter _ _ _ _ available _ _ _ balance _ s₂ hsave usdc _
  exact save_lock (enter_lock henter) hsave

theorem forfeitCollateralSession_asksIn :
    (forfeitCollateralSession env caller g amount s).AsksIn (·.reentrancyLock = true) := by
  unfold forfeitCollateralSession
  simp only [Session.asksIn_step_bind, Session.asksIn_ask_bind, Session.pure_eq,
    Session.asksIn_step, implies_true, and_true]
  intro s₁ henter _ _ _ _ _ _ _ _ locked _ balance _ s₂ hsave settlement _ usdc _
  exact save_lock (enter_lock henter) hsave

/-- The token is only asked with the lock taken. -/
theorem session_asksIn (operation : Operation) :
    (operation.session env s).AsksIn (·.reentrancyLock = true) := by
  cases operation with
  | deposit g amount => exact depositSession_asksIn
  | withdraw g amount => exact withdrawSession_asksIn
  | lockCollateral caller g amount => exact Session.asksIn_step
  | releaseCollateral caller g amount => exact Session.asksIn_step
  | forfeitCollateral caller g amount => exact forfeitCollateralSession_asksIn

/-- The reentrancy lock guards the operations of the vault. -/
def reentrancyGuard (clock : Clock) (here : Address) : Guard (operations clock here) where
  Taken s := s.reentrancyLock = true
  fault := .contract .reentrancyGuard
  refuses := session_taken
  asksIn input _ := session_asksIn input.2

end Guard

/-! ## What an operation does behind its guard -/

section Answered

variable {env : Env} {g caller : Address} {amount : ℤ} {s s' : State}
  {answers : List ((request : TokenCall) × request.Reply)}

/-- **Deposit.** The amount is what the vault's balance rose by across the transfer. -/
theorem depositSession_answered (h : s.Sound) :
    (depositSession env g amount s).Answered answers (.ok s') ↔
      s.reentrancyLock = false ∧ env.authorized g ∧ 0 < amount ∧
      ∃ usdc, s.usdcToken = some usdc ∧ ∃ balanceBefore balanceAfter : ℤ,
        answers = [⟨.balance env usdc env.currentContract, balanceBefore⟩,
          ⟨.transfer env usdc g env.currentContract amount, ()⟩,
          ⟨.balance env usdc env.currentContract, balanceAfter⟩] ∧
        balanceAfter - balanceBefore = amount ∧ InI128 (s.collateralBalance g + amount) ∧
        s.adjust env .deposit g amount (s.collateralBalance g + amount) (s.lockedAmount g) =
          s' := by
  have h0 := h.locked_nonneg g
  have hle := h.locked_le g
  unfold depositSession
  simp only [vaultOf_locked, h.position_guarantor, Session.answered_step_bind,
    Session.answered_ask_bind, Session.pure_eq, Session.answered_step, enter_eq_ok,
    Env.requireAuth_eq_ok, require_eq_ok, i128_eq_ok, save_eq_ok, orPanic_eq_ok, Except.ok.injEq,
    exists_const, and_assoc, exists_and_left, exists_eq_left', exists_eq_left,
    position_collateralBalance, position_lockedAmount]
  constructor
  · rintro ⟨hlock, hauth, hpos, usdc, husdc, balanceBefore, -,
      ⟨⟨⟩, -, ⟨balanceAfter, -, hgain, hnew, -, -, -, hs', rfl⟩, rfl⟩, rfl⟩
    exact ⟨hlock, hauth, hpos, usdc, husdc, balanceBefore, balanceAfter, rfl, hgain, hnew, hs'⟩
  · rintro ⟨hlock, hauth, hpos, usdc, husdc, balanceBefore, balanceAfter, rfl, hgain, hnew, hs'⟩
    have hamount : InI128 amount := hnew.of_nonneg_of_le (by omega) (by omega)
    exact ⟨hlock, hauth, hpos, usdc, husdc, balanceBefore, _,
      ⟨(), _, ⟨balanceAfter, hgain ▸ hamount, hgain, hnew, by omega, h0, by omega, hs', rfl⟩, rfl⟩,
      rfl⟩

/-- **Withdraw.** -/
theorem withdrawSession_answered (h : s.Sound) :
    (withdrawSession env g amount s).Answered answers (.ok s') ↔
      s.reentrancyLock = false ∧ env.authorized g ∧ 0 < amount ∧
      amount ≤ s.collateralBalance g - s.lockedAmount g ∧
      ∃ usdc, s.usdcToken = some usdc ∧
        answers = [⟨.transfer env usdc env.currentContract g amount, ()⟩] ∧
        s.adjust env .withdraw g amount (s.collateralBalance g - amount) (s.lockedAmount g) =
          s' := by
  have h0 := h.locked_nonneg g
  have hle := h.locked_le g
  unfold withdrawSession
  simp only [vaultOf_locked, h.position_guarantor, Session.answered_step_bind,
    Session.answered_ask_bind, Session.pure_eq, Session.answered_step, enter_eq_ok,
    Env.requireAuth_eq_ok, require_eq_ok, i128_eq_ok, save_eq_ok, orPanic_eq_ok, Except.ok.injEq,
    exists_const, and_assoc, exists_and_left, exists_eq_left', exists_eq_left,
    position_collateralBalance, position_lockedAmount]
  constructor
  · rintro ⟨hlock, hauth, hpos, -, havail, -, -, -, -, usdc, husdc, hs', ⟨⟩, rfl⟩
    exact ⟨hlock, hauth, hpos, havail, usdc, husdc, rfl, hs'⟩
  · rintro ⟨hlock, hauth, hpos, havail, usdc, husdc, rfl, hs'⟩
    have hfree := h.i128_of_le g (x := s.collateralBalance g - s.lockedAmount g)
      (by omega) (by omega)
    have hbalance : InI128 (s.collateralBalance g - amount) :=
      h.i128_of_le g (by omega) (by omega)
    exact ⟨hlock, hauth, hpos, hfree, havail, hbalance, by omega, h0, by omega, usdc, husdc, hs',
      (), rfl⟩

/-- **Forfeit.** -/
theorem forfeitCollateralSession_answered (h : s.Sound) :
    (forfeitCollateralSession env caller g amount s).Answered answers (.ok s') ↔
      s.reentrancyLock = false ∧ env.authorized caller ∧ s.liquidationEngine = some caller ∧
      0 < amount ∧ amount ≤ s.lockedAmount g ∧
      ∃ settlement, s.settlementAddress = some settlement ∧ ∃ usdc, s.usdcToken = some usdc ∧
        answers = [⟨.transfer env usdc env.currentContract settlement amount, ()⟩] ∧
        s.adjust env .forfeit g amount (s.collateralBalance g - amount)
          (s.lockedAmount g - amount) = s' := by
  have h0 := h.locked_nonneg g
  have hle := h.locked_le g
  unfold forfeitCollateralSession
  simp only [vaultOf_locked, h.position_guarantor, Session.answered_step_bind,
    Session.answered_ask_bind, Session.pure_eq, Session.answered_step, enter_eq_ok,
    Env.requireAuth_eq_ok, requireEngine_eq_ok, require_eq_ok, i128_eq_ok, save_eq_ok,
    orPanic_eq_ok, Except.ok.injEq, extendInstance_liquidationEngine, exists_const, and_assoc,
    exists_and_left, exists_eq_left', exists_eq_left, position_collateralBalance,
    position_lockedAmount]
  constructor
  · rintro ⟨hlock, hauth, hcaller, hpos, hheld, -, -, -, -, -, settlement, hset, usdc, husdc, hs',
      ⟨⟩, rfl⟩
    exact ⟨hlock, hauth, hcaller, hpos, hheld, settlement, hset, usdc, husdc, rfl, hs'⟩
  · rintro ⟨hlock, hauth, hcaller, hpos, hheld, settlement, hset, usdc, husdc, rfl, hs'⟩
    have hlocked := h.i128_of_le g (x := s.lockedAmount g - amount) (by omega) (by omega)
    have hbalance : InI128 (s.collateralBalance g - amount) :=
      h.i128_of_le g (by omega) (by omega)
    exact ⟨hlock, hauth, hcaller, hpos, hheld, hlocked, hbalance, by omega, by omega, by omega,
      settlement, hset, usdc, husdc, hs', (), rfl⟩

end Answered

/-- What an operation leaves that succeeds: its guarantor's record moved by its own amount, which is
sound again, and the lock clear. -/
structure Operation.Moves (operation : Operation) (env : Env) (s s' : State) : Prop where
  locked_nonneg : 0 ≤ s.lockedAmount operation.guarantor + operation.lockedChange
  locked_le : s.lockedAmount operation.guarantor + operation.lockedChange ≤
    s.collateralBalance operation.guarantor + operation.collateralChange
  fits : InI128 (s.collateralBalance operation.guarantor + operation.collateralChange)
  adjusted : s.adjust env operation.topic operation.guarantor operation.amount
    (s.collateralBalance operation.guarantor + operation.collateralChange)
    (s.lockedAmount operation.guarantor + operation.lockedChange) = s'

theorem Operation.Moves.of_eq {operation : Operation} {env : Env} {s s' : State}
    {balance locked : ℤ}
    (hbalance : s.collateralBalance operation.guarantor + operation.collateralChange = balance)
    (hlocked : s.lockedAmount operation.guarantor + operation.lockedChange = locked)
    (h0 : 0 ≤ locked) (hle : locked ≤ balance) (hfits : InI128 balance)
    (hs' : s.adjust env operation.topic operation.guarantor operation.amount balance locked = s') :
    operation.Moves env s s' := by
  subst hbalance hlocked
  exact ⟨h0, hle, hfits, hs'⟩

/-- Behind its guard every operation moves its own record only. -/
theorem Operation.moves {operation : Operation} {env : Env} {s s' : State}
    {answers : List ((request : TokenCall) × request.Reply)} (h : s.Sound)
    (hok : (operation.session env s).Answered answers (.ok s')) : operation.Moves env s s' := by
  cases operation with
  | deposit g amount =>
      obtain ⟨-, -, hpos, -, -, -, -, -, -, hfits, hs'⟩ := (depositSession_answered h).mp hok
      have hle : s.lockedAmount g ≤ s.collateralBalance g + amount :=
        (h.locked_le g).trans (by omega)
      exact .of_eq rfl (add_zero _) (h.locked_nonneg g) hle hfits hs'
  | withdraw g amount =>
      obtain ⟨-, -, hpos, havail, -, -, -, hs'⟩ := (withdrawSession_answered h).mp hok
      have h0 := h.locked_nonneg g
      have hle : s.lockedAmount g ≤ s.collateralBalance g - amount := by omega
      have hfits : InI128 (s.collateralBalance g - amount) :=
        h.i128_of_le g (by omega) (by omega)
      exact .of_eq (sub_eq_add_neg _ _).symm (add_zero _) h0 hle hfits hs'
  | lockCollateral caller g amount =>
      obtain ⟨-, hs⟩ := Session.answered_step.mp hok
      obtain ⟨-, -, -, hpos, havail, hs'⟩ := (lockCollateral_eq_ok h).mp hs
      have h0 : 0 ≤ s.lockedAmount g + amount := by
        have := h.locked_nonneg g
        omega
      have hle : s.lockedAmount g + amount ≤ s.collateralBalance g := by omega
      exact .of_eq (add_zero _) rfl h0 hle (h.balance_i128 g) hs'
  | releaseCollateral caller g amount =>
      obtain ⟨-, hs⟩ := Session.answered_step.mp hok
      obtain ⟨-, -, -, hpos, hheld, hs'⟩ := (releaseCollateral_eq_ok h).mp hs
      have h0 : 0 ≤ s.lockedAmount g - amount := by omega
      have hle : s.lockedAmount g - amount ≤ s.collateralBalance g := by
        have := h.locked_le g
        omega
      exact .of_eq (add_zero _) (sub_eq_add_neg _ _).symm h0 hle (h.balance_i128 g) hs'
  | forfeitCollateral caller g amount =>
      obtain ⟨-, -, -, hpos, hheld, -, -, -, -, -, hs'⟩ :=
        (forfeitCollateralSession_answered h).mp hok
      have hle := h.locked_le g
      have h0 : 0 ≤ s.lockedAmount g - amount := by omega
      have hle' : s.lockedAmount g - amount ≤ s.collateralBalance g - amount := by omega
      have hfits : InI128 (s.collateralBalance g - amount) :=
        h.i128_of_le g (by omega) (by omega)
      exact .of_eq (sub_eq_add_neg _ _).symm (sub_eq_add_neg _ _).symm h0 hle' hfits hs'

namespace Operation.Moves

variable {operation : Operation} {env : Env} {s s' : State} (h : operation.Moves env s s')
include h

/-- An operation replaces the record of its guarantor. -/
theorem vaults : s'.vaults = Function.update s.vaults operation.guarantor
    (some { guarantor := operation.guarantor
            collateralBalance :=
              s.collateralBalance operation.guarantor + operation.collateralChange
            lockedAmount := s.lockedAmount operation.guarantor + operation.lockedChange }) := by
  rw [← h.adjusted]
  rfl

theorem unlocked : s'.reentrancyLock = false := by
  rw [← h.adjusted]
  rfl

theorem sound (hs : s.Sound) : s'.Sound := by
  rw [← h.adjusted]
  exact hs.adjust env _ _ _ h.locked_nonneg h.locked_le h.fits

theorem collateralBalance : s'.collateralBalance operation.guarantor =
    s.collateralBalance operation.guarantor + operation.collateralChange := by
  rw [← h.adjusted, collateralBalance_adjust, if_pos rfl]

end Operation.Moves

/-! ## Runs -/

section Invoked

variable {contracts : Address → TokenContract T} {clock : Clock} {here : Address} {depth : ℕ}
  {origin : Origin} {operation : Operation} {s s' : State} {t t' : T}

/-- Whatever token contracts call back, an operation goes as if they only answered. -/
theorem invokeVault_answered {result : Result Error (State × T)}
    (hresult : (invokeVault contracts clock here (depth + 1) (origin, operation) s t).result =
      result) :
    (operation.session (origin.env clock here) s).Answered
      (invokeVault contracts clock here (depth + 1) (origin, operation) s t).answers
      (result.map Prod.fst) := by
  subst hresult
  exact (reentrancyGuard clock here).answered _ depth (session_asksIn operation) t

theorem invokeVault_moves (h : s.Sound)
    (hok : (invokeVault contracts clock here (depth + 1) (origin, operation) s t).result =
      .ok (s', t')) : operation.Moves (origin.env clock here) s s' :=
  operation.moves h (invokeVault_answered hok)

/-- Every call made meanwhile was refused. -/
theorem refused_of_mem_invokeVault :
    ∀ attempt ∈
      (invokeVault contracts clock here (depth + 1) (origin, operation) s t).attempts,
      (reentrancyGuard clock here).Refused depth attempt :=
  (reentrancyGuard clock here).refused_of_mem _ depth (session_asksIn operation) t

end Invoked

/-- Runs of the vault contract at `here` against token contracts that may call it back, up to the
first upgrade. Between two calls what the tokens see may change in any way. -/
def reentrantMachine (contracts : Address → TokenContract T) (here : Address) :
    Machine (World T) (Input T) where
  initial s := ∃ (origin : Origin) (admin usdc settlement : Address) (timelockSecs : ℕ),
    s.state.vault = construct (origin.env s.clock here) admin usdc settlement timelockSecs
  act clock w input w' :=
    match input with
    | .call origin call => w.vault.wasm = none ∧ ∃ depth,
        exec (client contracts clock here depth (origin.env clock here)) (origin.env clock here)
          call w = .ok w'
    | .moveTokens token => { w with token } = w'

section Runs

variable {contracts : Address → TokenContract T} {clock : Clock} {here : Address} {depth : ℕ}
  {origin : Origin} {call : Call} {w w' : World T}

/-- A call that moves collateral is one of the operations. -/
theorem operation_of_guarantor (h : call.guarantor ≠ none) :
    ∃ operation : Operation, operation.call = call := by
  cases call with
  | deposit g amount => exact ⟨.deposit g amount, rfl⟩
  | withdraw g amount => exact ⟨.withdraw g amount, rfl⟩
  | lockCollateral caller g amount => exact ⟨.lockCollateral caller g amount, rfl⟩
  | releaseCollateral caller g amount => exact ⟨.releaseCollateral caller g amount, rfl⟩
  | forfeitCollateral caller g amount => exact ⟨.forfeitCollateral caller g amount, rfl⟩
  | _ => exact absurd rfl h

/-- Every call leaves sound records and a clear lock. -/
theorem exec_client_safe (hsound : w.vault.Sound) (hlock : w.vault.reentrancyLock = false)
    (hok : exec (client contracts clock here depth (origin.env clock here)) (origin.env clock here)
      call w = .ok w') : w'.vault.Sound ∧ w'.vault.reentrancyLock = false := by
  by_cases hcall : call.guarantor = none
  · obtain ⟨hquiet, -⟩ := exec_quiet hcall hok
    exact ⟨hsound.quiet hquiet, hquiet.lock.trans hlock⟩
  · obtain ⟨operation, rfl⟩ := operation_of_guarantor hcall
    have hresult := invokeVault_result contracts clock here depth origin operation w
    rw [hok] at hresult
    have hmoves := invokeVault_moves hsound hresult
    exact ⟨hmoves.sound hsound, hmoves.unlocked⟩

/-- In every state a run reaches the records are sound and the lock is clear. -/
theorem safe_of_reachable {s : Timed (World T)}
    (h : (reentrantMachine contracts here).Reachable s) :
    s.state.vault.Sound ∧ s.state.vault.reentrancyLock = false := by
  refine h.invariant (I := fun s => s.state.vault.Sound ∧ s.state.vault.reentrancyLock = false)
    ?_ ?_ ?_
  · rintro s ⟨origin, admin, usdc, settlement, timelockSecs, hvault⟩
    rw [hvault]
    exact ⟨.construct _ admin usdc settlement timelockSecs, rfl⟩
  · intro c c' w _ hw
    exact hw
  · intro c w input w' hact hw
    cases input with
    | call origin call =>
        obtain ⟨-, depth, hok⟩ := hact
        exact exec_client_safe hw.1 hw.2 hok
    | moveTokens token =>
        obtain rfl := hact
        exact hw

end Runs

/-! ## A token that calls back -/

/-- Call the vault back with one operation after another, whatever comes of each, then go on. -/
def callBack {α : Type} (inputs : List (Origin × Operation))
    (next : T → Program T (Origin × Operation) Error α) :
    T → Program T (Origin × Operation) Error α :=
  inputs.foldr (fun input next t => .call t input fun _ t => next t) next

/-- All five operations, for one guarantor and signed by everybody the token knows. -/
def grabs (env : Env) (guarantor : Address) : List (Origin × Operation) :=
  let origin : Origin := ⟨env.invoker, [⟨2⟩, ⟨3⟩, guarantor], env.minPersistentTtl⟩
  [(origin, .deposit guarantor 10), (origin, .withdraw guarantor 10),
    (origin, .lockCollateral ⟨2⟩ guarantor 10), (origin, .releaseCollateral ⟨2⟩ guarantor 10),
    (origin, .forfeitCollateral ⟨3⟩ guarantor 10)]

/-- A table of balances that calls all five operations back before it answers. -/
def thief : TokenContract (Address → ℕ) where
  balance env holder := callBack (grabs env holder) fun t => .answer (t holder) t
  transfer env src dst amount := callBack (grabs env src ++ grabs env dst) fun t =>
    match tableToken.transfer t src dst amount with
    | some t' => .answer () t'
    | none => .trap

/-- Act on a vault whose token is the thief. -/
def nextThief (here : Address) (clock : Clock) (w : World (Address → ℕ)) :
    Input (Address → ℕ) → Option (World (Address → ℕ))
  | .call origin call =>
      if w.vault.wasm = none then
        outcome (exec (client (fun _ => thief) clock here 1 (origin.env clock here))
          (origin.env clock here) call w)
      else none
  | .moveTokens token => some { w with token }

theorem nextThief_acts {here : Address} {clock : Clock} {w w' : World (Address → ℕ)}
    {input : Input (Address → ℕ)} (h : nextThief here clock w input = some w') :
    (reentrantMachine (fun _ => thief) here).act clock w input w' := by
  cases input with
  | call origin call =>
      obtain ⟨hwasm, hok⟩ := Option.ite_none_right_eq_some.mp h
      exact ⟨hwasm, 1, outcome_eq_some.mp hok⟩
  | moveTokens token => exact Option.some.inj h

/-! ## Reentrancy safety -/

/-- A deposit that succeeds was answered two balances, and credits what they differ by. -/
theorem deposit_credits {contracts : Address → TokenContract T} {clock : Clock} {here g : Address}
    {depth : ℕ} {origin : Origin} {amount : ℤ} {s s' : State} {t t' : T} (h : s.Sound)
    (hok : (invokeVault contracts clock here (depth + 1) (origin, .deposit g amount) s t).result =
      .ok (s', t')) :
    ∃ usdc, s.usdcToken = some usdc ∧ ∃ balanceBefore balanceAfter : ℤ,
      (invokeVault contracts clock here (depth + 1) (origin, .deposit g amount) s t).answers =
        [⟨.balance (origin.env clock here) usdc here, balanceBefore⟩,
          ⟨.transfer (origin.env clock here) usdc g here amount, ()⟩,
          ⟨.balance (origin.env clock here) usdc here, balanceAfter⟩] ∧
      s'.collateralBalance g = s.collateralBalance g + (balanceAfter - balanceBefore) := by
  obtain ⟨-, -, -, usdc, husdc, balanceBefore, balanceAfter, hanswers, hgain, -, -⟩ :=
    (depositSession_answered h).mp (invokeVault_answered hok)
  have hbalance := (invokeVault_moves h hok).collateralBalance
  exact ⟨usdc, husdc, balanceBefore, balanceAfter, hanswers, hgain ▸ hbalance⟩

/-- **Reentrancy safety.** Let the token contracts be any, and let one of the five operations be
called in any state the vault reaches. Every call of the five made meanwhile fails on the lock (or
for its depth, if the host stops it first) and leaves the records as they were and the lock taken.
If the call succeeds, the record of its own guarantor has moved by its own amount and no other has
moved; a deposit credits exactly what the vault's balance rose by, as the token answered it before
and after the transfer. Whether the call succeeds or fails, the lock is clear after it. -/
theorem reentrancy_safe {contracts : Address → TokenContract T} {here : Address}
    {s : Timed (World T)} (h : (reentrantMachine contracts here).Reachable s) (depth : ℕ)
    (origin : Origin) (operation : Operation) :
    let vault := s.state.vault
    let transcript := invokeVault contracts s.clock here (depth + 1) (origin, operation) vault
      s.state.token
    (∀ attempt ∈ transcript.attempts,
      attempt.outcome = .error ((reentrancyGuard s.clock here).refusal depth) ∧
        attempt.after.vaults = attempt.before.vaults ∧
        attempt.before.reentrancyLock = true ∧ attempt.after.reentrancyLock = true) ∧
    (∀ vault' token', transcript.result = .ok (vault', token') →
      vault'.vaults = Function.update vault.vaults operation.guarantor
        (some { guarantor := operation.guarantor
                collateralBalance :=
                  vault.collateralBalance operation.guarantor + operation.collateralChange
                lockedAmount := vault.lockedAmount operation.guarantor + operation.lockedChange }) ∧
      ∀ g amount, operation = .deposit g amount → ∃ usdc, vault.usdcToken = some usdc ∧
        ∃ balanceBefore balanceAfter : ℤ,
          transcript.answers = [⟨.balance (origin.env s.clock here) usdc here, balanceBefore⟩,
            ⟨.transfer (origin.env s.clock here) usdc g here amount, ()⟩,
            ⟨.balance (origin.env s.clock here) usdc here, balanceAfter⟩] ∧
          vault'.collateralBalance g =
            vault.collateralBalance g + (balanceAfter - balanceBefore)) ∧
    (kept transcript.result (vault, s.state.token)).1.reentrancyLock = false := by
  intro vault transcript
  obtain ⟨hsound, hlock⟩ := safe_of_reachable h
  refine ⟨?_, ?_, ?_⟩
  · intro attempt hmem
    have hrefused := refused_of_mem_invokeVault attempt hmem
    have hunchanged := hrefused.unchanged
    exact ⟨hrefused.failed, congrArg State.vaults hunchanged, hrefused.taken,
      (congrArg State.reentrancyLock hunchanged).trans hrefused.taken⟩
  · intro vault' token' hok
    refine ⟨(invokeVault_moves hsound hok).vaults, ?_⟩
    rintro g amount rfl
    exact deposit_credits hsound hok
  · cases hresult : transcript.result with
    | error fault => exact hlock
    | ok left => exact (invokeVault_moves hsound hresult).unlocked

/-- Guarantor 4 holds 60, of which 40 are locked, and deposits 30 more. The thief calls back twenty
times, for the guarantor and for the vault itself, and is kept out each time; the guarantor then
holds 90. Addresses: 0 vault, 1 admin, 2 ledger, 3 engine, 8 settlement address, 9 token. -/
theorem reentrancy_safe_thief : ∃ s, (reentrantMachine (fun _ => thief) ⟨0⟩).Reachable s ∧
    let transcript := invokeVault (fun _ => thief) s.clock ⟨0⟩ 2
      (⟨none, [⟨4⟩], 0⟩, .deposit ⟨4⟩ 30) s.state.vault s.state.token
    transcript.attempts.length = 20 ∧
    (∀ attempt ∈ transcript.attempts, attempt.outcome = .error (.contract .reentrancyGuard)) ∧
    ∃ vault' token', transcript.result = .ok (vault', token') ∧
      vault'.vaults ⟨4⟩ = some ⟨⟨4⟩, 90, 40⟩ ∧ vault'.reentrancyLock = false := by
  let origin : Origin := ⟨none, [⟨1⟩, ⟨2⟩, ⟨4⟩], 0⟩
  let calls : List Call :=
    [.setLoanLedger ⟨1⟩ ⟨2⟩, .setLiquidationEngine ⟨1⟩ ⟨3⟩, .deposit ⟨4⟩ 60,
      .lockCollateral ⟨2⟩ ⟨4⟩ 40]
  let start : Timed (World (Address → ℕ)) :=
    ⟨⟨0, 0⟩, construct (origin.env ⟨0, 0⟩ ⟨0⟩) ⟨1⟩ ⟨9⟩ ⟨8⟩ 0, fun a => if a = ⟨4⟩ then 100 else 0⟩
  have hplayed : (Machine.replay (nextThief ⟨0⟩)
      (calls.map fun call => (⟨0, 0⟩, .call origin call)) ([], start)).any (fun run =>
        let transcript := invokeVault (fun _ => thief) run.2.clock ⟨0⟩ 2
          (⟨none, [⟨4⟩], 0⟩, .deposit ⟨4⟩ 30) run.2.state.vault run.2.state.token
        run.2.state.vault.collateralBalance ⟨4⟩ = 60 ∧ run.2.state.vault.lockedAmount ⟨4⟩ = 40 ∧
          transcript.attempts.length = 20 ∧ (outcome transcript.result).isSome) = true := by
    decide +kernel
  obtain ⟨run, hrun, hchecked⟩ := Option.any_eq_true _ _ |>.mp hplayed
  obtain ⟨hbalance, hlocked, hattempts, hreturns⟩ := of_decide_eq_true hchecked
  have hstart : (reentrantMachine (fun _ => thief) ⟨0⟩).Run [] start :=
    .start ⟨origin, ⟨1⟩, ⟨9⟩, ⟨8⟩, 0, rfl⟩
  have hreach := (hstart.replay (fun _ _ _ _ => nextThief_acts) hrun).reachable
  obtain ⟨hrefused, hmoves, hclear⟩ := reentrancy_safe hreach 1 ⟨none, [⟨4⟩], 0⟩ (.deposit ⟨4⟩ 30)
  obtain ⟨⟨vault', token'⟩, hok⟩ := Option.isSome_iff_exists.mp hreturns
  have hresult := outcome_eq_some.mp hok
  obtain ⟨hvaults, -⟩ := hmoves vault' token' hresult
  rw [hresult] at hclear
  refine ⟨run.2, hreach, hattempts, fun attempt hmem => (hrefused attempt hmem).1, vault', token',
    hresult, ?_, hclear⟩
  rw [hvaults]
  show some (Vault.mk ⟨4⟩ (run.2.state.vault.collateralBalance ⟨4⟩ + 30)
    (run.2.state.vault.lockedAmount ⟨4⟩ + 0)) = _
  rw [hbalance, hlocked]
  rfl

end RemitCollateral.GuarantorVault
