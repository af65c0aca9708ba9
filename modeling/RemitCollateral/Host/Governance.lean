import RemitCollateral.Host.Env

/-! # Timelocked governance

The administration pattern a contract can embed: one admin, a two-step handover of that role, and
one pending sensitive action that runs only after a delay fixed at deployment. The operations are
parametric in the type of actions and in the error codes the embedding contract raises; carrying an
executed action out is left to that contract. -/

namespace Soroban

/-- A sensitive change that waits out the timelock before it runs. -/
structure ScheduledAction (α : Type) where
  /-- The change. -/
  action : α
  /-- Earliest ledger time at which the action may execute. -/
  eta : ℕ
  deriving DecidableEq, Repr

/-- The error codes the pattern raises. -/
structure GovernanceErrors (ε : Type) where
  notInitialized : ε
  notAuthorized : ε
  noPendingAction : ε
  actionPending : ε
  timelockNotExpired : ε

/-- The storage entries of the pattern. -/
structure Governance (α : Type) where
  admin : Option Address
  pendingAdmin : Option Address
  timelockSecs : Option ℕ
  scheduled : Option (ScheduledAction α)
  deriving DecidableEq, Repr

namespace Governance

variable {α ε : Type} (errors : GovernanceErrors ε) (env : Env)

/-- The entries the constructor writes. -/
def construct (admin : Address) (timelockSecs : ℕ) : Governance α where
  admin := some admin
  pendingAdmin := none
  timelockSecs := some timelockSecs
  scheduled := none

/-- `admin` is the admin, and no other address is to become it. -/
def HeldBy (g : Governance α) (admin : Address) : Prop :=
  g.admin = some admin ∧ g.pendingAdmin = none

/-- `admin` authorized the call and is the stored admin. -/
def requireAdmin (admin : Address) (g : Governance α) : Result ε Unit := do
  env.requireAuth admin
  let stored ← orPanic g.admin errors.notInitialized
  require (admin = stored) errors.notAuthorized

/-- Schedule `action` to execute no earlier than the timelock from now. -/
def scheduleAction (admin : Address) (action : α) (g : Governance α) :
    Result ε (Governance α) := do
  requireAdmin errors env admin g
  require (g.scheduled = none) errors.actionPending
  let delay ← orPanic g.timelockSecs errors.notInitialized
  let eta ← u64 (env.timestamp + delay)
  pure { g with scheduled := some { action, eta } }

/-- Take the scheduled action, once its timelock has elapsed, for the contract to carry out. -/
def executeAction (admin : Address) (g : Governance α) : Result ε (α × Governance α) := do
  requireAdmin errors env admin g
  let scheduled ← orPanic g.scheduled errors.noPendingAction
  require (scheduled.eta ≤ env.timestamp) errors.timelockNotExpired
  pure (scheduled.action, { g with scheduled := none })

/-- Withdraw the scheduled action. -/
def cancelAction (admin : Address) (g : Governance α) : Result ε (Governance α) := do
  requireAdmin errors env admin g
  require (g.scheduled ≠ none) errors.noPendingAction
  pure { g with scheduled := none }

/-- Begin handing the admin role to `newAdmin`. -/
def proposeAdmin (admin newAdmin : Address) (g : Governance α) : Result ε (Governance α) := do
  requireAdmin errors env admin g
  pure { g with pendingAdmin := some newAdmin }

/-- Complete a handover the current admin proposed. -/
def acceptAdmin (newAdmin : Address) (g : Governance α) : Result ε (Governance α) := do
  env.requireAuth newAdmin
  let pending ← orPanic g.pendingAdmin errors.notAuthorized
  require (newAdmin = pending) errors.notAuthorized
  pure { g with admin := some newAdmin, pendingAdmin := none }

variable {errors env}

@[simp] theorem requireAdmin_eq_ok {admin : Address} {g : Governance α} {u : Unit} :
    requireAdmin errors env admin g = .ok u ↔ env.authorized admin ∧ g.admin = some admin := by
  simp only [requireAdmin, bind_eq_ok, Env.requireAuth_eq_ok, exists_const, orPanic_eq_ok,
    require_eq_ok, exists_eq_right']

@[simp] theorem not_assertFails_requireAdmin {admin : Address} {g : Governance α} :
    ¬ AssertFails (requireAdmin errors env admin g) := by
  simp [requireAdmin]

/-! ## What each operation does -/

section Specs

variable {g g' : Governance α} {admin newAdmin : Address} {action : α}

theorem scheduleAction_eq_ok : scheduleAction errors env admin action g = .ok g' ↔
    (env.authorized admin ∧ g.admin = some admin) ∧ g.scheduled = none ∧
      ∃ delay, g.timelockSecs = some delay ∧ InU64 (env.timestamp + delay) ∧
        { g with scheduled := some { action, eta := env.timestamp + delay } } = g' := by
  simp only [scheduleAction, bind_eq_ok, requireAdmin_eq_ok, require_eq_ok, orPanic_eq_ok,
    u64_eq_ok, pure_eq_ok, exists_const, and_assoc, exists_and_left, exists_eq_left']

theorem executeAction_eq_ok : executeAction errors env admin g = .ok (action, g') ↔
    (env.authorized admin ∧ g.admin = some admin) ∧
      ∃ eta, g.scheduled = some { action, eta } ∧ eta ≤ env.timestamp ∧
        { g with scheduled := none } = g' := by
  simp only [executeAction, bind_eq_ok, requireAdmin_eq_ok, require_eq_ok, orPanic_eq_ok,
    pure_eq_ok, exists_const, Prod.mk.injEq]
  constructor
  · rintro ⟨hadmin, ⟨_, eta⟩, hscheduled, hdue, rfl, hg⟩
    exact ⟨hadmin, eta, hscheduled, hdue, hg⟩
  · rintro ⟨hadmin, eta, hscheduled, hdue, hg⟩
    exact ⟨hadmin, ⟨action, eta⟩, hscheduled, hdue, rfl, hg⟩

theorem cancelAction_eq_ok : cancelAction errors env admin g = .ok g' ↔
    (env.authorized admin ∧ g.admin = some admin) ∧ g.scheduled ≠ none ∧
      { g with scheduled := none } = g' := by
  simp only [cancelAction, bind_eq_ok, requireAdmin_eq_ok, require_eq_ok, pure_eq_ok, exists_const]

theorem proposeAdmin_eq_ok : proposeAdmin errors env admin newAdmin g = .ok g' ↔
    (env.authorized admin ∧ g.admin = some admin) ∧
      { g with pendingAdmin := some newAdmin } = g' := by
  simp only [proposeAdmin, bind_eq_ok, requireAdmin_eq_ok, pure_eq_ok, exists_const]

theorem acceptAdmin_eq_ok : acceptAdmin errors env newAdmin g = .ok g' ↔
    env.authorized newAdmin ∧ g.pendingAdmin = some newAdmin ∧
      { g with admin := some newAdmin, pendingAdmin := none } = g' := by
  simp only [acceptAdmin, bind_eq_ok, Env.requireAuth_eq_ok, orPanic_eq_ok, require_eq_ok,
    pure_eq_ok, exists_const]
  constructor
  · rintro ⟨hauth, _, hpending, rfl, hg⟩
    exact ⟨hauth, hpending, hg⟩
  · rintro ⟨hauth, hpending, hg⟩
    exact ⟨hauth, _, hpending, rfl, hg⟩

end Specs

end Governance

end Soroban
