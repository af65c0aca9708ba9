import RemitCollateral.Host.Provenance
import RemitCollateral.LiquidationEngine.Spec

/-! # Who administers the engine

The engine embeds the governance pattern as the other two contracts do, with upgrades as its only
actions. The cranks and the pause switch touch nothing of it, whatever ledger and vault they are run
against. -/

namespace RemitCollateral.LiquidationEngine

open Soroban

/-! ## What a call does to the code -/

/-- The call of the governance pattern that an entry point makes. -/
def Call.governance : Call → Option (GovernanceCall Action)
  | .scheduleAction admin action => some (.schedule admin action)
  | .executeAction admin => some (.execute admin)
  | .cancelAction admin => some (.cancel admin)
  | .proposeAdmin admin newAdmin => some (.propose admin newAdmin)
  | .acceptAdmin newAdmin => some (.accept newAdmin)
  | _ => none

/-- The ways a call treats the entries of the pattern and the code. -/
inductive Administers (env : Env) (s s' : State) : Call → Prop
  /-- It does not touch them. -/
  | leaves {call : Call} (ungoverned : call.governance = none)
      (governance : s'.governance = s.governance) (wasm : s'.wasm = s.wasm) :
      Administers env s s' call
  /-- It is a call of the pattern that carries nothing out. -/
  | governs {call : Call} {request : GovernanceCall Action}
      (governed : call.governance = some request)
      (performed : request.perform governanceErrors env s.governance = .ok s'.governance)
      (wasm : s'.wasm = s.wasm) : Administers env s s' call
  /-- It carries the pending upgrade out. -/
  | upgrades {admin : Address} {wasmHash : BytesN32}
      (taken : s.governance.executeAction governanceErrors env admin =
        .ok (.upgrade wasmHash, s'.governance))
      (wasm : s'.wasm = some wasmHash) : Administers env s s' (.executeAction admin)

section Administers

variable {X : Type} {ledgers : Address → LedgerClient X} {vaults : Address → VaultClient X}
  {env : Env} {s s' : State} {x x' : X} {call : Call} {action : Action}

/-- A call that only renews the instance. -/
theorem Administers.renews (hcall : call.governance = none) (hs : s' = extendInstance env s) :
    Administers env s s' call := by
  subst hs
  exact .leaves hcall rfl rfl

/-- Every call treats the entries and the code in one of these ways. -/
theorem exec_administers (h : exec ledgers vaults env call s x = .ok (s', x')) :
    Administers env s s' call := by
  cases call with
  | scheduleAction | cancelAction | proposeAdmin | acceptAdmin =>
      obtain ⟨hok, -⟩ := onEngine_eq_ok.mp h
      obtain ⟨governance, hperformed, hok⟩ := bind_eq_ok.mp hok
      obtain rfl := pure_eq_ok.mp hok
      exact .governs rfl hperformed rfl
  | executeAction =>
      obtain ⟨hok, -⟩ := onEngine_eq_ok.mp h
      obtain ⟨⟨⟨wasmHash⟩, governance⟩, htaken, hok⟩ := bind_eq_ok.mp hok
      obtain rfl := pure_eq_ok.mp hok
      exact .upgrades htaken rfl
  | pause =>
      obtain ⟨-, rfl⟩ := pause_eq_ok.mp (onEngine_eq_ok.mp h).1
      exact .leaves rfl rfl rfl
  | unpause =>
      obtain ⟨-, rfl⟩ := unpause_eq_ok.mp (onEngine_eq_ok.mp h).1
      exact .leaves rfl rfl rfl
  | flagOverdue =>
      exact .renews rfl (flagOverdue_extendInstance h)
  | liquidate =>
      obtain ⟨⟨r, s₁, x₁⟩, hliquidate, heq⟩ := map_eq_ok.mp h
      obtain ⟨rfl, rfl⟩ := Prod.mk.inj heq
      exact .renews rfl (liquidate_extendInstance hliquidate)
  | poke =>
      obtain ⟨⟨done, s₁, x₁⟩, hpoke, heq⟩ := map_eq_ok.mp h
      obtain ⟨rfl, rfl⟩ := Prod.mk.inj heq
      exact .renews rfl (poke_extendInstance hpoke)

/-- The engine changes as an action says: it gets other code. -/
def Becomes : Action → State → State → Prop
  | .upgrade wasmHash, s, s' => s.wasm ≠ some wasmHash ∧ s'.wasm = some wasmHash

/-- A call that is not one of the pattern leaves its entries alone. -/
theorem Administers.quiet (h : Administers env s s' call) (hcall : call.governance = none) :
    s'.governance = s.governance := by
  cases h with
  | leaves _ governance => exact governance
  | governs governed =>
      rw [hcall] at governed
      cases governed
  | upgrades => cases hcall

/-- A call of the pattern is performed on its entries. -/
theorem Administers.perform (h : Administers env s s' call) {request : GovernanceCall Action}
    (hcall : call.governance = some request) :
    request.perform governanceErrors env s.governance = .ok s'.governance := by
  cases h with
  | leaves ungoverned =>
      rw [ungoverned] at hcall
      cases hcall
  | governs governed performed =>
      obtain rfl := Option.some.inj (governed.symm.trans hcall)
      exact performed
  | upgrades taken =>
      obtain rfl := Option.some.inj hcall
      exact map_eq_ok.mpr ⟨_, taken, rfl⟩

/-- Only an execution changes the code. -/
theorem Administers.becomes (h : Administers env s s' call) (hbecomes : Becomes action s s') :
    ∃ admin, call = .executeAction admin ∧
      s.governance.executeAction governanceErrors env admin = .ok (action, s'.governance) := by
  obtain ⟨wasmHash⟩ := action
  cases h with
  | leaves _ _ wasm => exact absurd (wasm.symm.trans hbecomes.2) hbecomes.1
  | governs _ _ wasm => exact absurd (wasm.symm.trans hbecomes.2) hbecomes.1
  | @upgrades admin wasmHash' taken wasm =>
      obtain rfl : wasmHash' = wasmHash := Option.some.inj (wasm.symm.trans hbecomes.2)
      exact ⟨admin, rfl, taken⟩

/-- What the admin has not signed leaves the entries and the pause switch alone. -/
theorem settings_of_outsider {admin : Address} (hheld : s.governance.HeldBy admin)
    (hout : ¬ env.authorized admin) (h : exec ledgers vaults env call s x = .ok (s', x')) :
    s'.governance = s.governance ∧ s'.isPaused = s.isPaused := by
  have hstored : ∀ caller, s.governance.admin = some caller → ¬ env.authorized caller := by
    intro caller hcaller hsigned
    rw [Option.some.inj (hcaller.symm.trans hheld.1)] at hsigned
    exact hout hsigned
  have hadministers := exec_administers h
  have hgoverned : ∀ request, call.governance = some request → False := by
    intro request hrequest
    exact hout (GovernanceCall.authorized_of_heldBy hheld (hadministers.perform hrequest))
  cases call with
  | scheduleAction | executeAction | cancelAction | proposeAdmin | acceptAdmin =>
      exact (hgoverned _ rfl).elim
  | pause =>
      obtain ⟨⟨hsigned, hadmin⟩, -⟩ := pause_eq_ok.mp (onEngine_eq_ok.mp h).1
      exact absurd hsigned (hstored _ hadmin)
  | unpause =>
      obtain ⟨⟨hsigned, hadmin⟩, -⟩ := unpause_eq_ok.mp (onEngine_eq_ok.mp h).1
      exact absurd hsigned (hstored _ hadmin)
  | flagOverdue =>
      rw [flagOverdue_extendInstance h]
      exact ⟨rfl, rfl⟩
  | liquidate =>
      obtain ⟨⟨r, s₁, x₁⟩, hliquidate, heq⟩ := map_eq_ok.mp h
      obtain ⟨rfl, rfl⟩ := Prod.mk.inj heq
      rw [liquidate_extendInstance hliquidate]
      exact ⟨rfl, rfl⟩
  | poke =>
      obtain ⟨⟨done, s₁, x₁⟩, hpoke, heq⟩ := map_eq_ok.mp h
      obtain ⟨rfl, rfl⟩ := Prod.mk.inj heq
      rw [poke_extendInstance hpoke]
      exact ⟨rfl, rfl⟩

end Administers

/-! ## Runs over any ledgers and vaults -/

/-- A call and where it comes from. -/
structure Input where
  origin : Origin
  call : Call

/-- Runs of an engine contract at `here`, up to the first upgrade, against any ledger and vault and
in any state they may be in. -/
def openMachine (here : Address) : Machine State Input where
  initial s := ∃ (origin : Origin) (admin vault loanLedger : Address) (timelockSecs : ℕ),
    s.state = construct (origin.env s.clock here) admin vault loanLedger timelockSecs
  act clock s input s' := s.wasm = none ∧
    ∃ (X : Type) (ledgers : Address → LedgerClient X) (vaults : Address → VaultClient X) (x x' : X),
      exec ledgers vaults (input.origin.env clock here) input.call s x = .ok (s', x')

/-- The engine embeds the governance pattern. -/
def governed (here : Address) : Governed (openMachine here) governanceErrors Action where
  here
  governance := State.governance
  call input := input.call.governance.map (input.origin, ·)
  Becomes
  initial := by
    rintro s ⟨origin, admin, vault, loanLedger, timelockSecs, hfresh⟩
    exact ⟨admin, timelockSecs, by rw [hfresh]; rfl⟩
  quiet := by
    rintro c s input s' ⟨-, X, ledgers, vaults, x, x', hok⟩ hcall
    exact (exec_administers hok).quiet (Option.map_eq_none_iff.mp hcall)
  perform := by
    rintro c s input s' origin request ⟨-, X, ledgers, vaults, x, x', hok⟩ hcall
    obtain ⟨request, hrequest, heq⟩ := Option.map_eq_some_iff.mp hcall
    obtain ⟨rfl, rfl⟩ := Prod.mk.inj heq
    exact (exec_administers hok).perform hrequest
  becomes_irrefl := by
    rintro ⟨wasmHash⟩ s ⟨hne, heq⟩
    exact hne heq
  executes := by
    rintro c s input s' action ⟨-, X, ledgers, vaults, x, x', hok⟩ hbecomes
    obtain ⟨admin, hcall, htaken⟩ := (exec_administers hok).becomes hbecomes
    exact ⟨input.origin, admin, by rw [hcall]; rfl, htaken⟩

end RemitCollateral.LiquidationEngine
