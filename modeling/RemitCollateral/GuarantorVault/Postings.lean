import RemitCollateral.GuarantorVault.Calls

/-! # The vault as a register of postings

Every collateral operation publishes one event, and the event says all that moved: five kinds of
postings determine both columns of every record. What a call does to the records is then the list of
postings it publishes. -/

namespace RemitCollateral.GuarantorVault

open Soroban

/-- What an event says was moved, and for whom. -/
structure Posting where
  topic : Topic
  guarantor : Address
  amount : ℤ
  deriving DecidableEq, Repr

/-- The posting an event reports. -/
def CollateralEvent.posting (event : CollateralEvent) : Posting :=
  ⟨event.topic, event.guarantor, event.amount⟩

/-- The postings of a vault, latest first. -/
def State.postings (s : State) : List Posting := s.events.map CollateralEvent.posting

/-- The amount a list of postings moves under one topic for one guarantor. -/
def moved (topic : Topic) (guarantor : Address) (postings : List Posting) : ℤ :=
  (postings.map fun p => if p.topic = topic ∧ p.guarantor = guarantor then p.amount else 0).sum

section Moved

variable (topic : Topic) (g : Address)

@[simp] theorem moved_nil : moved topic g [] = 0 := rfl

@[simp] theorem moved_cons (p : Posting) (postings : List Posting) :
    moved topic g (p :: postings) =
      (if p.topic = topic ∧ p.guarantor = g then p.amount else 0) + moved topic g postings := by
  simp [moved]

@[simp] theorem moved_append (postings postings' : List Posting) :
    moved topic g (postings ++ postings') = moved topic g postings + moved topic g postings' := by
  simp [moved]

end Moved

/-- The vault publishes `new` (latest first), and its records change by what `new` says. -/
structure Posts (new : List Posting) (s s' : State) : Prop where
  postings : s'.postings = new ++ s.postings
  balance : ∀ g, s'.collateralBalance g =
    s.collateralBalance g + moved .deposit g new - moved .withdraw g new - moved .forfeit g new
  locked : ∀ g, s'.lockedAmount g =
    s.lockedAmount g + moved .lock g new - moved .release g new - moved .forfeit g new

/-- What a vault has published since it was in state `s`, latest first. -/
def State.postingsSince (s' s : State) : List Posting :=
  s'.postings.take (s'.postings.length - s.postings.length)

namespace Posts

variable {s s' s'' : State} {new later : List Posting}

/-- What was published is read off the two registers. -/
theorem postingsSince (h : Posts new s s') : s'.postingsSince s = new := by
  rw [State.postingsSince, h.postings, List.length_append, Nat.add_sub_cancel, List.take_left]

/-- Publishing nothing. -/
theorem quiet (h : Quiet s s') : Posts [] s s' where
  postings := by rw [State.postings, h.events, State.postings, List.nil_append]
  balance g := by simpa using h.collateralBalance g
  locked g := by simpa using h.lockedAmount g

/-- Nothing published, nothing changed. -/
theorem refl (s : State) : Posts [] s s :=
  .quiet ⟨rfl, rfl, rfl, rfl, id, fun _ => id, fun _ => id⟩

/-- Publishing twice. -/
theorem trans (h : Posts new s s') (h' : Posts later s' s'') : Posts (later ++ new) s s'' where
  postings := by rw [h'.postings, h.postings, List.append_assoc]
  balance g := by
    rw [h'.balance, h.balance]
    simp only [moved_append]
    omega
  locked g := by
    rw [h'.locked, h.locked]
    simp only [moved_append]
    omega

/-- An operation that replaces a record publishes what it replaced. -/
theorem adjust (s : State) (env : Env) (topic : Topic) (g : Address) (amount : ℤ)
    {balance locked : ℤ}
    (hbalance : balance = s.collateralBalance g + moved .deposit g [⟨topic, g, amount⟩] -
      moved .withdraw g [⟨topic, g, amount⟩] - moved .forfeit g [⟨topic, g, amount⟩])
    (hlocked : locked = s.lockedAmount g + moved .lock g [⟨topic, g, amount⟩] -
      moved .release g [⟨topic, g, amount⟩] - moved .forfeit g [⟨topic, g, amount⟩]) :
    Posts [⟨topic, g, amount⟩] s (s.adjust env topic g amount balance locked) where
  postings := rfl
  balance g' := by
    rw [collateralBalance_adjust]
    by_cases heq : g' = g
    · subst heq
      rw [if_pos rfl, hbalance]
    · simp [heq, Ne.symm heq]
  locked g' := by
    rw [lockedAmount_adjust]
    by_cases heq : g' = g
    · subst heq
      rw [if_pos rfl, hlocked]
    · simp [heq, Ne.symm heq]

end Posts

/-- What a call publishes. -/
def Call.postings : Call → List Posting
  | .deposit g amount => [⟨.deposit, g, amount⟩]
  | .withdraw g amount => [⟨.withdraw, g, amount⟩]
  | .lockCollateral _ g amount => [⟨.lock, g, amount⟩]
  | .releaseCollateral _ g amount => [⟨.release, g, amount⟩]
  | .forfeitCollateral _ g amount => [⟨.forfeit, g, amount⟩]
  | _ => []

/-- Every call publishes its postings and changes the records by them. -/
theorem Effect.posts {T : Type} {tok : StandardToken T} {env : Env} {w w' : World T} {call : Call}
    (h : Effect env tok w w' call) : Posts call.postings w.vault w'.vault := by
  cases call with
  | deposit g amount =>
      obtain ⟨-, -, t', -, -, -, rfl⟩ := h
      exact .adjust w.vault env .deposit g amount (by simp) (by simp)
  | withdraw g amount =>
      obtain ⟨-, -, -, t', -, rfl⟩ := h
      exact .adjust w.vault env .withdraw g amount (by simp) (by simp)
  | lockCollateral caller g amount =>
      obtain ⟨-, -, -, -, rfl⟩ := h
      exact .adjust w.vault env .lock g amount (by simp) (by simp)
  | releaseCollateral caller g amount =>
      obtain ⟨-, -, -, -, rfl⟩ := h
      exact .adjust w.vault env .release g amount (by simp) (by simp)
  | forfeitCollateral caller g amount =>
      obtain ⟨-, -, -, -, settlement, -, t', -, rfl⟩ := h
      exact .adjust w.vault env .forfeit g amount (by simp) (by simp)
  | _ => exact .quiet h.1

end RemitCollateral.GuarantorVault
