import RemitCollateral.GuarantorVault.Postings
import RemitCollateral.GuarantorVault.Reentrancy
import RemitCollateral.Host.Journal

/-! # Auditing the vault by its events

Every collateral operation publishes one event, with the amount it moved and the record it left.
Whatever token contracts the vault is run against, and whatever they call back, somebody who only
reads the events can check each against the one before it, and knows every record. -/

namespace RemitCollateral.GuarantorVault

open Soroban

/-! ## The journal -/

/-- What is held for a guarantor, and how much of it is locked. -/
structure Holding where
  collateralBalance : ℤ
  lockedAmount : ℤ
  deriving DecidableEq, Repr

/-- What an event under a topic says was added to the collateral. -/
def Topic.collateralChange (amount : ℤ) : Topic → ℤ
  | deposit => amount
  | withdraw | forfeit => -amount
  | lock | release => 0

/-- What it says was added to the locked part of it. -/
def Topic.lockedChange (amount : ℤ) : Topic → ℤ
  | deposit | withdraw => 0
  | lock => amount
  | release | forfeit => -amount

/-- What an event says became of a holding. -/
def CollateralEvent.change (event : CollateralEvent) (holding : Holding) : Holding where
  collateralBalance := holding.collateralBalance + event.topic.collateralChange event.amount
  lockedAmount := holding.lockedAmount + event.topic.lockedChange event.amount

/-- The events as a journal of holdings. -/
def audit : Journal CollateralEvent Address Holding where
  key := CollateralEvent.guarantor
  states event := ⟨event.collateralBalance, event.lockedAmount⟩
  opening := ⟨0, 0⟩
  apply event holding :=
    let after := event.change holding
    if 0 < event.amount ∧ 0 ≤ after.lockedAmount ∧ after.lockedAmount ≤ after.collateralBalance
    then some after else none

/-- What an event can be made of. -/
theorem audit_apply_eq_some {event : CollateralEvent} {holding after : Holding} :
    audit.apply event holding = some after ↔ (0 < event.amount ∧
      0 ≤ (event.change holding).lockedAmount ∧
      (event.change holding).lockedAmount ≤ (event.change holding).collateralBalance) ∧
      event.change holding = after := by
  rw [audit, Option.ite_none_right_eq_some, Option.some.injEq]

/-- An event changes the holding it is about. -/
theorem change_ne (event : CollateralEvent) (hpos : 0 < event.amount) (holding : Holding) :
    event.change holding ≠ holding := by
  intro hsame
  have hbalance : holding.collateralBalance + event.topic.collateralChange event.amount =
      holding.collateralBalance := congrArg Holding.collateralBalance hsame
  have hlocked : holding.lockedAmount + event.topic.lockedChange event.amount =
      holding.lockedAmount := congrArg Holding.lockedAmount hsame
  cases htopic : event.topic <;>
    simp only [htopic, Topic.collateralChange, Topic.lockedChange] at hbalance hlocked <;> omega

/-- One can tell what it was before. -/
theorem change_injective (event : CollateralEvent) : Function.Injective event.change := by
  intro holding holding' hsame
  have hbalance : holding.collateralBalance + event.topic.collateralChange event.amount =
      holding'.collateralBalance + event.topic.collateralChange event.amount :=
    congrArg Holding.collateralBalance hsame
  have hlocked : holding.lockedAmount + event.topic.lockedChange event.amount =
      holding'.lockedAmount + event.topic.lockedChange event.amount :=
    congrArg Holding.lockedAmount hsame
  cases holding
  cases holding'
  rw [Holding.mk.injEq]
  exact ⟨add_right_cancel hbalance, add_right_cancel hlocked⟩

/-- The events tell. -/
theorem audit_telling : audit.Telling where
  moves happlies := by
    obtain ⟨⟨hpos, -⟩, hsame⟩ := audit_apply_eq_some.mp happlies
    exact change_ne _ hpos _ hsame
  injective happlies happlies' := by
    obtain ⟨-, hafter⟩ := audit_apply_eq_some.mp happlies
    obtain ⟨-, hafter'⟩ := audit_apply_eq_some.mp happlies'
    exact change_injective _ (hafter.trans hafter'.symm)

/-! ## The vault keeps it -/

/-- What the vault holds for a guarantor. -/
def State.holding (s : State) (g : Address) : Holding := ⟨s.collateralBalance g, s.lockedAmount g⟩

/-- The operation that an entry point is. -/
def Call.operation : Call → Option Operation
  | .deposit guarantor amount => some (.deposit guarantor amount)
  | .withdraw guarantor amount => some (.withdraw guarantor amount)
  | .lockCollateral caller guarantor amount => some (.lockCollateral caller guarantor amount)
  | .releaseCollateral caller guarantor amount => some (.releaseCollateral caller guarantor amount)
  | .forfeitCollateral caller guarantor amount => some (.forfeitCollateral caller guarantor amount)
  | _ => none

/-- What an operation says it moved. -/
def Operation.posting (operation : Operation) : Posting :=
  ⟨operation.topic, operation.guarantor, operation.amount⟩

/-- The event of an operation that finds the vault in state `s`. -/
def Operation.event (operation : Operation) (s : State) : CollateralEvent where
  topic := operation.topic
  guarantor := operation.guarantor
  amount := operation.amount
  collateralBalance := s.collateralBalance operation.guarantor + operation.collateralChange
  lockedAmount := s.lockedAmount operation.guarantor + operation.lockedChange

variable {T : Type}

/-- What an input of a run posts. -/
def Input.posting : Input T → Option Posting
  | .call _ made => made.operation.map Operation.posting
  | .moveTokens _ => none

/-- The event of an input. -/
def Input.event (_ : Clock) (w : World T) : Input T → Option CollateralEvent
  | .call _ made => made.operation.map fun operation => operation.event w.vault
  | .moveTokens _ => none

theorem call_of_operation {call : Call} {operation : Operation}
    (h : call.operation = some operation) : operation.call = call := by
  cases call with
  | deposit | withdraw | lockCollateral | releaseCollateral | forfeitCollateral =>
      obtain rfl := Option.some.inj h
      rfl
  | _ => cases h

theorem guarantor_of_operation {call : Call} (h : call.operation = none) :
    call.guarantor = none := by
  cases call with
  | deposit | withdraw | lockCollateral | releaseCollateral | forfeitCollateral => cases h
  | _ => rfl

/-- The event of an operation says what the operation does. -/
theorem change_event (operation : Operation) (s : State) :
    (operation.event s).change (s.holding operation.guarantor) =
      audit.states (operation.event s) := by
  cases operation <;> rfl

/-- What an operation moves is positive. -/
theorem amount_pos {operation : Operation} {env : Env} {s s' : State}
    {answers : List ((request : TokenCall) × request.Reply)} (h : s.Sound)
    (hok : (operation.session env s).Answered answers (.ok s')) : 0 < operation.amount := by
  cases operation with
  | deposit g amount =>
      obtain ⟨-, -, hpos, -⟩ := (depositSession_answered h).mp hok
      exact hpos
  | withdraw g amount =>
      obtain ⟨-, -, hpos, -⟩ := (withdrawSession_answered h).mp hok
      exact hpos
  | lockCollateral caller g amount =>
      obtain ⟨-, hs⟩ := Session.answered_step.mp hok
      obtain ⟨-, -, -, hpos, -⟩ := (lockCollateral_eq_ok h).mp hs
      exact hpos
  | releaseCollateral caller g amount =>
      obtain ⟨-, hs⟩ := Session.answered_step.mp hok
      obtain ⟨-, -, -, hpos, -⟩ := (releaseCollateral_eq_ok h).mp hs
      exact hpos
  | forfeitCollateral caller g amount =>
      obtain ⟨-, -, -, hpos, -⟩ := (forfeitCollateralSession_answered h).mp hok
      exact hpos

section Moves

variable {operation : Operation} {env : Env} {s s' : State}

/-- An operation publishes its event. -/
theorem Operation.Moves.events (h : operation.Moves env s s') :
    s'.events = operation.event s :: s.events := by
  rw [← h.adjusted]
  rfl

/-- It changes the holding the event is about, as the event states. -/
theorem Operation.Moves.holding (h : operation.Moves env s s') :
    s'.holding = Function.update s.holding operation.guarantor
      (audit.states (operation.event s)) := by
  funext g
  rw [State.holding, ← h.adjusted, collateralBalance_adjust, lockedAmount_adjust]
  by_cases hg : g = operation.guarantor
  · subst hg
    rw [if_pos rfl, if_pos rfl, Function.update_self]
    rfl
  · rw [if_neg hg, if_neg hg, Function.update_of_ne hg]
    rfl

/-- It could happen. -/
theorem Operation.Moves.applies (h : operation.Moves env s s') (hpos : 0 < operation.amount) :
    audit.apply (operation.event s) (s.holding operation.guarantor) =
      some (audit.states (operation.event s)) := by
  rw [audit_apply_eq_some, change_event]
  exact ⟨⟨hpos, h.locked_nonneg, h.locked_le⟩, rfl⟩

end Moves

/-- The vault keeps the journal of its holdings, whatever its token contracts do. -/
theorem keeps_audit (contracts : Address → TokenContract T) (here : Address) :
    (reentrantMachine contracts here).Keeps audit (fun w => w.vault.events)
      (fun w => w.vault.holding) Input.event where
  initial := by
    intro s hinitial
    obtain ⟨origin, admin, usdc, settlement, timelockSecs, hvault⟩ := hinitial
    rw [hvault]
    exact ⟨rfl, fun _ => rfl⟩
  skips := by
    intro clock w input w' hreach hact hnone
    cases input with
    | moveTokens token =>
        obtain rfl : { w with token } = w' := hact
        exact ⟨rfl, rfl⟩
    | call origin call =>
        obtain ⟨-, depth, hok⟩ := hact
        obtain ⟨hquiet, -⟩ := exec_quiet (guarantor_of_operation (Option.map_eq_none_iff.mp hnone))
          hok
        refine ⟨hquiet.events, ?_⟩
        funext g
        rw [State.holding, hquiet.collateralBalance, hquiet.lockedAmount]
        rfl
  writes := by
    intro clock w input w' event hreach hact hsome
    obtain ⟨hsound, -⟩ := safe_of_reachable hreach
    cases input with
    | moveTokens token => cases hsome
    | call origin call =>
        obtain ⟨-, depth, hok⟩ := hact
        obtain ⟨operation, hoperation, rfl⟩ := Option.map_eq_some_iff.mp hsome
        obtain rfl := call_of_operation hoperation
        have hresult := invokeVault_result contracts clock here depth origin operation w
        rw [hok] at hresult
        have hmoves := invokeVault_moves hsound hresult
        have hpos : 0 < operation.amount := amount_pos hsound (invokeVault_answered hresult)
        exact ⟨hmoves.events, hmoves.applies hpos, hmoves.holding⟩

/-- What an input posts is what its event reports. -/
theorem map_posting_event (clock : Clock) (w : World T) (input : Input T) :
    (input.event clock w).map CollateralEvent.posting = input.posting := by
  cases input with
  | moveTokens token => rfl
  | call origin call =>
      rw [Input.event, Input.posting]
      cases call.operation with
      | none => rfl
      | some operation => rfl

/-- **Audit.** In every run of the vault, against token contracts that may do and call back what
they like, there is one event for each operation that succeeded, in their order and with its topic,
guarantor and amount, and no other. Each event follows from the one before it about the same
guarantor by its own amount; the latest states the guarantor's record, and the amounts add up to it.
Whoever missed exactly one event cannot reconcile the events once there is a later one about the
same guarantor. -/
theorem events_audit {contracts : Address → TokenContract T} {here : Address}
    {history : List (Transition (World T) (Input T))} {s : Timed (World T)}
    (hrun : (reentrantMachine contracts here).Run history s) :
    let vault := s.state.vault
    vault.postings = history.filterMap (fun t => t.call.bind Input.posting) ∧
    audit.Sound vault.events ∧
    (∀ g, audit.account g vault.events = vault.holding g ∧
      audit.replay g vault.events = some (vault.holding g)) ∧
    ∀ newer event older, newer ++ event :: older = vault.events →
      (∃ later ∈ newer, later.guarantor = event.guarantor) → ¬ audit.Sound (newer ++ older) := by
  intro vault
  obtain ⟨hevents, hsound, hholding⟩ := (keeps_audit contracts here).run hrun
  refine ⟨?_, hsound, ?_, ?_⟩
  · show vault.events.map CollateralEvent.posting = _
    rw [show vault.events = history.filterMap (Machine.standsFor Input.event) from hevents,
      List.map_filterMap]
    congr 1
    funext t
    show (t.call.bind fun input => input.event t.pre.clock t.pre.state).map _ = _
    rw [Option.map_bind]
    congr 1
    funext input
    exact map_posting_event _ _ input
  · intro g
    have hstated : audit.account g vault.events = vault.holding g := (hholding g).symm
    rw [hsound.replay_eq g]
    exact ⟨hstated, congrArg some hstated⟩
  · intro newer event older hsplit hlater
    have hwhole : audit.Sound (newer ++ event :: older) := hsplit ▸ hsound
    exact hwhole.not_without audit_telling hlater

/-- Guarantor 4 deposits 60 with a token that calls back all it can, and 40 of it are locked and 10
released. Who missed the lock alone cannot reconcile the release. -/
theorem events_audit_thief : ∃ s, (reentrantMachine (fun _ => thief) ⟨0⟩).Reachable s ∧
    s.state.vault.events = [⟨.release, ⟨4⟩, 10, 60, 30⟩, ⟨.lock, ⟨4⟩, 40, 60, 40⟩,
      ⟨.deposit, ⟨4⟩, 60, 60, 0⟩] ∧
    s.state.vault.holding ⟨4⟩ = ⟨60, 30⟩ ∧
    ¬ audit.Sound [⟨.release, ⟨4⟩, 10, 60, 30⟩, ⟨.deposit, ⟨4⟩, 60, 60, 0⟩] := by
  let origin : Origin := ⟨none, [⟨1⟩, ⟨2⟩, ⟨4⟩], 0⟩
  let calls : List Call :=
    [.setLoanLedger ⟨1⟩ ⟨2⟩, .deposit ⟨4⟩ 60, .lockCollateral ⟨2⟩ ⟨4⟩ 40,
      .releaseCollateral ⟨2⟩ ⟨4⟩ 10]
  let start : Timed (World (Address → ℕ)) :=
    ⟨⟨0, 0⟩, construct (origin.env ⟨0, 0⟩ ⟨0⟩) ⟨1⟩ ⟨9⟩ ⟨8⟩ 0, fun a => if a = ⟨4⟩ then 100 else 0⟩
  have hplayed : (Machine.replay (nextThief ⟨0⟩)
      (calls.map fun call => (⟨0, 0⟩, .call origin call)) ([], start)).any (fun run =>
        run.2.state.vault.events = [⟨.release, ⟨4⟩, 10, 60, 30⟩, ⟨.lock, ⟨4⟩, 40, 60, 40⟩,
          ⟨.deposit, ⟨4⟩, 60, 60, 0⟩]) = true := by
    decide +kernel
  obtain ⟨⟨history, s⟩, hrun, hchecked⟩ := Option.any_eq_true _ _ |>.mp hplayed
  have hevents := of_decide_eq_true hchecked
  have hstart : (reentrantMachine (fun _ => thief) ⟨0⟩).Run [] start :=
    .start ⟨origin, ⟨1⟩, ⟨9⟩, ⟨8⟩, 0, rfl⟩
  have hruns := hstart.replay (fun _ _ _ _ => nextThief_acts) hrun
  obtain ⟨-, -, hholding, hgaps⟩ := events_audit hruns
  have hstated := (hholding ⟨4⟩).1
  rw [hevents] at hstated
  exact ⟨s, hruns.reachable, hevents, hstated.symm,
    hgaps [⟨.release, ⟨4⟩, 10, 60, 30⟩] ⟨.lock, ⟨4⟩, 40, 60, 40⟩ [⟨.deposit, ⟨4⟩, 60, 60, 0⟩]
      hevents.symm ⟨_, List.mem_singleton_self _, rfl⟩⟩

end RemitCollateral.GuarantorVault
