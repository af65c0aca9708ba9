import RemitCollateral.Host.Governance
import RemitCollateral.Host.Machine

/-! # Where a governed change comes from

The governance pattern over whole runs. A contract that embeds the pattern is a machine whose states
hold the pattern's entries and whose calls either make one call of the pattern or leave the entries
alone. In every such machine the entries are explained by the past: a pending action by the admin
who scheduled it, a pending handover by the admin who proposed it, a change by both. -/

namespace Soroban

/-! ## The past of a run -/

section Since

variable {τ : Type} {P P' Q : τ → Prop} {t : τ} {history : List τ}

/-- Some event of the history met `P`, and none after it met `Q`. The latest event comes first. -/
def Since (P Q : τ → Prop) (history : List τ) : Prop :=
  ∃ newer t older, history = newer ++ t :: older ∧ P t ∧ ∀ t' ∈ newer, ¬ Q t'

/-- The event that just happened is its own witness. -/
theorem Since.now (hP : P t) : Since P Q (t :: history) :=
  ⟨[], t, history, rfl, hP, by simp⟩

/-- An event that does not meet `Q` ends nothing. -/
theorem Since.later (h : Since P Q history) (hQ : ¬ Q t) : Since P Q (t :: history) := by
  obtain ⟨newer, p, older, rfl, hP, hnewer⟩ := h
  refine ⟨t :: newer, p, older, rfl, hP, ?_⟩
  intro t' ht'
  rcases List.mem_cons.mp ht' with rfl | ht'
  · exact hQ
  · exact hnewer t' ht'

end Since

/-! ## Calls of the pattern -/

/-- A call of the pattern. -/
inductive GovernanceCall (α : Type)
  | schedule (admin : Address) (action : α)
  | execute (admin : Address)
  | cancel (admin : Address)
  | propose (admin newAdmin : Address)
  | accept (newAdmin : Address)
  deriving DecidableEq, Repr

namespace GovernanceCall

variable {α ε : Type}

/-- The entries a call leaves. -/
def perform (errors : GovernanceErrors ε) (env : Env) (g : Governance α) :
    GovernanceCall α → Result ε (Governance α)
  | .schedule admin action => g.scheduleAction errors env admin action
  | .execute admin => (·.2) <$> g.executeAction errors env admin
  | .cancel admin => g.cancelAction errors env admin
  | .propose admin newAdmin => g.proposeAdmin errors env admin newAdmin
  | .accept newAdmin => g.acceptAdmin errors env newAdmin

/-- The address a call acts for. -/
def signer : GovernanceCall α → Address
  | .schedule admin _ | .execute admin | .cancel admin | .propose admin _ => admin
  | .accept newAdmin => newAdmin

/-- Whether a call is about the pending action; the other calls are about the admin role. -/
def onAction : GovernanceCall α → Bool
  | .schedule _ _ | .execute _ | .cancel _ => true
  | .propose _ _ | .accept _ => false

variable {errors : GovernanceErrors ε} {env : Env} {g g' : Governance α} {call : GovernanceCall α}

/-- Every call is authorized by the address it acts for. -/
theorem authorized_of_perform (h : call.perform errors env g = .ok g') :
    env.authorized call.signer := by
  cases call with
  | schedule admin action => exact (Governance.scheduleAction_eq_ok.mp h).1.1
  | execute admin =>
      obtain ⟨⟨action, g₁⟩, hok, -⟩ := map_eq_ok.mp h
      exact (Governance.executeAction_eq_ok.mp hok).1.1
  | cancel admin => exact (Governance.cancelAction_eq_ok.mp h).1.1
  | propose admin newAdmin => exact (Governance.proposeAdmin_eq_ok.mp h).1.1
  | accept newAdmin => exact (Governance.acceptAdmin_eq_ok.mp h).1

/-- No call changes the timelock. -/
theorem perform_timelockSecs (h : call.perform errors env g = .ok g') :
    g'.timelockSecs = g.timelockSecs := by
  cases call with
  | schedule admin action =>
      obtain ⟨-, -, delay, -, -, rfl⟩ := Governance.scheduleAction_eq_ok.mp h
      rfl
  | execute admin =>
      obtain ⟨⟨action, g₁⟩, hok, rfl⟩ := map_eq_ok.mp h
      obtain ⟨-, eta, -, -, rfl⟩ := Governance.executeAction_eq_ok.mp hok
      rfl
  | cancel admin =>
      obtain ⟨-, -, rfl⟩ := Governance.cancelAction_eq_ok.mp h
      rfl
  | propose admin newAdmin =>
      obtain ⟨-, rfl⟩ := Governance.proposeAdmin_eq_ok.mp h
      rfl
  | accept newAdmin =>
      obtain ⟨-, -, rfl⟩ := Governance.acceptAdmin_eq_ok.mp h
      rfl

/-- A call about the action leaves the admin role alone. -/
theorem perform_admin (h : call.perform errors env g = .ok g') (hcall : call.onAction = true) :
    g'.admin = g.admin ∧ g'.pendingAdmin = g.pendingAdmin := by
  cases call with
  | schedule admin action =>
      obtain ⟨-, -, delay, -, -, rfl⟩ := Governance.scheduleAction_eq_ok.mp h
      exact ⟨rfl, rfl⟩
  | execute admin =>
      obtain ⟨⟨action, g₁⟩, hok, rfl⟩ := map_eq_ok.mp h
      obtain ⟨-, eta, -, -, rfl⟩ := Governance.executeAction_eq_ok.mp hok
      exact ⟨rfl, rfl⟩
  | cancel admin =>
      obtain ⟨-, -, rfl⟩ := Governance.cancelAction_eq_ok.mp h
      exact ⟨rfl, rfl⟩
  | propose | accept => cases hcall

/-- A call about the admin role leaves the pending action alone. -/
theorem perform_scheduled (h : call.perform errors env g = .ok g') (hcall : call.onAction = false) :
    g'.scheduled = g.scheduled := by
  cases call with
  | propose admin newAdmin =>
      obtain ⟨-, rfl⟩ := Governance.proposeAdmin_eq_ok.mp h
      rfl
  | accept newAdmin =>
      obtain ⟨-, -, rfl⟩ := Governance.acceptAdmin_eq_ok.mp h
      rfl
  | schedule | execute | cancel => cases hcall

/-- While one address is admin and no other is to become it, every call is authorized by it. -/
theorem authorized_of_heldBy {admin : Address} (hheld : g.HeldBy admin)
    (h : call.perform errors env g = .ok g') : env.authorized admin := by
  obtain ⟨hadmin, hpending⟩ := hheld
  have hauth := authorized_of_perform h
  -- every caller but an accepting one has shown to be the stored admin
  have hstored : ∀ caller, g.admin = some caller → env.authorized caller →
      env.authorized admin := by
    intro caller hcaller hsigned
    rw [Option.some.inj (hadmin.symm.trans hcaller)]
    exact hsigned
  cases call with
  | schedule caller action =>
      exact hstored caller (Governance.scheduleAction_eq_ok.mp h).1.2 hauth
  | execute caller =>
      obtain ⟨⟨action, g₁⟩, hok, -⟩ := map_eq_ok.mp h
      exact hstored caller (Governance.executeAction_eq_ok.mp hok).1.2 hauth
  | cancel caller => exact hstored caller (Governance.cancelAction_eq_ok.mp h).1.2 hauth
  | propose caller newAdmin => exact hstored caller (Governance.proposeAdmin_eq_ok.mp h).1.2 hauth
  | accept newAdmin =>
      have hproposed := (Governance.acceptAdmin_eq_ok.mp h).2.1
      rw [hpending] at hproposed
      cases hproposed

end GovernanceCall

/-! ## Contracts that embed the pattern -/

/-- A machine that embeds the pattern, as the contract at `here`. -/
structure Governed {σ ι ε : Type} (M : Machine σ ι) (errors : GovernanceErrors ε) (α : Type) where
  here : Address
  governance : σ → Governance α
  /-- The call of the pattern that an input makes, and where it comes from. -/
  call : ι → Option (Origin × GovernanceCall α)
  /-- The contract changes as `action` says. -/
  Becomes : α → σ → σ → Prop
  initial : ∀ {s}, M.initial s → ∃ admin secs, governance s.state = .construct admin secs
  quiet : ∀ {c s input s'}, M.act c s input s' → call input = none → governance s' = governance s
  perform : ∀ {c s input s' origin request}, M.act c s input s' →
    call input = some (origin, request) →
    request.perform errors (origin.env c here) (governance s) = .ok (governance s')
  becomes_irrefl : ∀ {action s}, ¬ Becomes action s s
  /-- Only an execution changes the contract, and only as the action it takes says. -/
  executes : ∀ {c s input s' action}, M.act c s input s' → Becomes action s s' →
    ∃ origin admin, call input = some (origin, .execute admin) ∧
      (governance s).executeAction errors (origin.env c here) admin = .ok (action, governance s')

namespace Governed

variable {σ ι ε α : Type} {M : Machine σ ι} {errors : GovernanceErrors ε}

section Statements

variable (G : Governed M errors α) (secs : ℕ) (history older : List (Transition σ ι)) (s : Timed σ)
  (t : Transition σ ι)

/-- A transition makes a call of the pattern. -/
def Makes (origin : Origin) (request : GovernanceCall α) : Prop :=
  ∃ input, t.call = some input ∧ G.call input = some (origin, request)

/-- A transition makes a call of the pattern that the address it acts for has authorized. -/
def Signs (request : GovernanceCall α) : Prop :=
  ∃ origin, G.Makes t origin request ∧
    (origin.env t.pre.clock G.here).authorized request.signer

/-- The admin schedules an action that may execute `secs` later. -/
def Schedules (scheduled : ScheduledAction α) : Prop :=
  scheduled.eta = t.pre.now + secs ∧ ∃ admin, G.Signs t (.schedule admin scheduled.action) ∧
    (G.governance t.pre.state).admin = some admin

/-- The admin proposes its successor. -/
def Proposes (admin newAdmin : Address) : Prop :=
  G.Signs t (.propose admin newAdmin) ∧ (G.governance t.pre.state).admin = some admin

/-- A transition schedules, executes or cancels an action. -/
def ActsOnAction : Prop := ∃ origin request, G.Makes t origin request ∧ request.onAction = true

/-- A transition proposes or accepts an admin. -/
def ActsOnAdmin : Prop := ∃ origin request, G.Makes t origin request ∧ request.onAction = false

/-- A past that explains the entries `g` it has led to. -/
structure Explains (g : Governance α) : Prop where
  timelockSecs : g.timelockSecs = some secs
  /-- The pending action was scheduled by the admin of its time, and no call about it was made
  since. -/
  scheduled : ∀ action, g.scheduled = some action →
    Since (G.Schedules secs · action) G.ActsOnAction history
  /-- The pending admin was proposed by the address that is the admin still, and no call about the
  role was made since. -/
  pendingAdmin : ∀ newAdmin, g.pendingAdmin = some newAdmin → ∃ admin, g.admin = some admin ∧
    Since (G.Proposes · admin newAdmin) G.ActsOnAdmin history

/-- The admin executes the pending action, which its admin scheduled at least `secs` ago, with no
call about it since, and which is pending no more. -/
structure Executes (action : α) : Prop where
  signed : ∃ admin, G.Signs t (.execute admin) ∧ (G.governance t.pre.state).admin = some admin
  scheduled : ∃ eta ≤ t.pre.now, (G.governance t.pre.state).scheduled = some { action, eta } ∧
    Since (G.Schedules secs · { action, eta }) G.ActsOnAction older
  consumed : (G.governance t.post.state).scheduled = none

/-- The successor that the admin proposed last takes the role over, once. -/
structure HandsOver (newAdmin : Address) : Prop where
  signed : G.Signs t (.accept newAdmin)
  proposed : ∃ admin, (G.governance t.pre.state).admin = some admin ∧
    Since (G.Proposes · admin newAdmin) G.ActsOnAdmin older
  admin : (G.governance t.post.state).admin = some newAdmin
  consumed : (G.governance t.post.state).pendingAdmin = none

/-- What a run of a contract deployed with timelock `secs` guarantees of its governance. -/
structure Provenance : Prop where
  timelock : ∀ t ∈ history, (G.governance t.pre.state).timelockSecs = some secs ∧
    (G.governance t.post.state).timelockSecs = some secs
  /-- The contract changes only by executions. -/
  changes : ∀ newer t older action, history = newer ++ t :: older →
    G.Becomes action t.pre.state t.post.state → G.Executes secs older t action
  /-- An action is scheduled only when none is pending. -/
  single : ∀ t ∈ history, ∀ origin admin action, G.Makes t origin (.schedule admin action) →
    (G.governance t.pre.state).scheduled = none
  /-- The admin changes only when a successor accepts. -/
  admin : ∀ t ∈ history, (G.governance t.post.state).admin ≠ (G.governance t.pre.state).admin →
    ∃ origin newAdmin, G.Makes t origin (.accept newAdmin)
  accepts : ∀ newer t older origin newAdmin, history = newer ++ t :: older →
    G.Makes t origin (.accept newAdmin) → G.HandsOver older t newAdmin
  pending : ∀ newAdmin, (G.governance s.state).pendingAdmin = some newAdmin →
    ∃ admin, (G.governance s.state).admin = some admin ∧
      Since (G.Proposes · admin newAdmin) G.ActsOnAdmin history

end Statements

variable {G : Governed M errors α} {secs : ℕ} {history : List (Transition σ ι)} {s : Timed σ}
  {t : Transition σ ι} {g g' : Governance α} {request request' : GovernanceCall α}
  {origin origin' : Origin}

/-- A transition makes at most one call. -/
theorem Makes.unique (h : G.Makes t origin request) (h' : G.Makes t origin' request') :
    request = request' := by
  obtain ⟨input, hinput, hcall⟩ := h
  obtain ⟨input', hinput', hcall'⟩ := h'
  obtain rfl : input = input' := Option.some.inj (hinput.symm.trans hinput')
  exact (Prod.mk.inj (Option.some.inj (hcall.symm.trans hcall'))).2

/-- A call about the action is not one about the role. -/
theorem Makes.not_actsOnAdmin (h : G.Makes t origin request) (hon : request.onAction = true) :
    ¬ G.ActsOnAdmin t := by
  rintro ⟨origin', request', h', hoff⟩
  rw [← h.unique h', hon] at hoff
  cases hoff

/-- A call about the role is not one about the action. -/
theorem Makes.not_actsOnAction (h : G.Makes t origin request) (hoff : request.onAction = false) :
    ¬ G.ActsOnAction t := by
  rintro ⟨origin', request', h', hon⟩
  rw [← h.unique h', hoff] at hon
  cases hon

/-! ## Every run explains its entries -/

namespace Explains

/-- A transition that makes no call of the pattern leaves its entries explained. -/
theorem later (h : G.Explains secs history g)
    (hnone : ∀ origin request, ¬ G.Makes t origin request) : G.Explains secs (t :: history) g where
  timelockSecs := h.timelockSecs
  scheduled action hscheduled := by
    refine (h.scheduled action hscheduled).later ?_
    rintro ⟨origin, request, hmakes, -⟩
    exact hnone origin request hmakes
  pendingAdmin newAdmin hpending := by
    obtain ⟨admin, hadmin, hsince⟩ := h.pendingAdmin newAdmin hpending
    refine ⟨admin, hadmin, hsince.later ?_⟩
    rintro ⟨origin, request, hmakes, -⟩
    exact hnone origin request hmakes

/-- A call about the action needs no new explanation of the role. -/
theorem pendingAdmin_later (h : G.Explains secs history g)
    (hmakes : G.Makes t origin request) (hon : request.onAction = true) {env : Env}
    (hperform : request.perform errors env g = .ok g') (newAdmin : Address)
    (hpending : g'.pendingAdmin = some newAdmin) : ∃ admin, g'.admin = some admin ∧
      Since (G.Proposes · admin newAdmin) G.ActsOnAdmin (t :: history) := by
  obtain ⟨hadmin', hpending'⟩ := GovernanceCall.perform_admin hperform hon
  rw [hpending'] at hpending
  obtain ⟨admin, hadmin, hsince⟩ := h.pendingAdmin newAdmin hpending
  exact ⟨admin, hadmin'.trans hadmin, hsince.later (hmakes.not_actsOnAdmin hon)⟩

/-- A call about the role needs no new explanation of the action. -/
theorem scheduled_later (h : G.Explains secs history g)
    (hmakes : G.Makes t origin request) (hoff : request.onAction = false) {env : Env}
    (hperform : request.perform errors env g = .ok g') (action : ScheduledAction α)
    (hscheduled : g'.scheduled = some action) :
    Since (G.Schedules secs · action) G.ActsOnAction (t :: history) := by
  rw [GovernanceCall.perform_scheduled hperform hoff] at hscheduled
  exact (h.scheduled action hscheduled).later (hmakes.not_actsOnAction hoff)

/-- The entries stay explained when a call acts. -/
theorem act {c : Clock} {x x' : σ} {input : ι} (h : G.Explains secs history (G.governance x))
    (hact : M.act c x input x') :
    G.Explains secs (⟨⟨c, x⟩, some input, ⟨c, x'⟩⟩ :: history) (G.governance x') := by
  cases hcall : G.call input with
  | none =>
      rw [G.quiet hact hcall]
      refine h.later ?_
      rintro origin request ⟨input', hinput, hmakes⟩
      obtain rfl : input = input' := Option.some.inj hinput
      rw [hcall] at hmakes
      cases hmakes
  | some made =>
      obtain ⟨origin, request⟩ := made
      have hperform := G.perform hact hcall
      have hmakes : G.Makes ⟨⟨c, x⟩, some input, ⟨c, x'⟩⟩ origin request := ⟨input, rfl, hcall⟩
      have hsigns : G.Signs ⟨⟨c, x⟩, some input, ⟨c, x'⟩⟩ request :=
        ⟨origin, hmakes, GovernanceCall.authorized_of_perform hperform⟩
      have htimelock : (G.governance x').timelockSecs = some secs :=
        (GovernanceCall.perform_timelockSecs hperform).trans h.timelockSecs
      -- each call either makes the entry it is about, or clears it
      cases request with
      | schedule admin action =>
          refine ⟨htimelock, fun scheduled hscheduled => ?_,
            h.pendingAdmin_later hmakes rfl hperform⟩
          obtain ⟨⟨-, hadmin⟩, -, delay, hdelay, -, hafter⟩ :=
            Governance.scheduleAction_eq_ok.mp hperform
          obtain rfl : secs = delay := Option.some.inj (h.timelockSecs.symm.trans hdelay)
          rw [← hafter] at hscheduled
          obtain rfl := Option.some.inj hscheduled
          exact .now ⟨rfl, admin, hsigns, hadmin⟩
      | execute admin =>
          refine ⟨htimelock, fun scheduled hscheduled => ?_,
            h.pendingAdmin_later hmakes rfl hperform⟩
          obtain ⟨⟨action, g⟩, hok, hg⟩ := map_eq_ok.mp hperform
          obtain ⟨-, eta, -, -, rfl⟩ := Governance.executeAction_eq_ok.mp hok
          rw [← hg] at hscheduled
          cases hscheduled
      | cancel admin =>
          refine ⟨htimelock, fun scheduled hscheduled => ?_,
            h.pendingAdmin_later hmakes rfl hperform⟩
          obtain ⟨-, -, hafter⟩ := Governance.cancelAction_eq_ok.mp hperform
          rw [← hafter] at hscheduled
          cases hscheduled
      | propose admin newAdmin =>
          refine ⟨htimelock, h.scheduled_later hmakes rfl hperform, fun pending hpending => ?_⟩
          obtain ⟨⟨-, hadmin⟩, hafter⟩ := Governance.proposeAdmin_eq_ok.mp hperform
          rw [← hafter] at hpending ⊢
          obtain rfl := Option.some.inj hpending
          exact ⟨admin, hadmin, .now ⟨hsigns, hadmin⟩⟩
      | accept newAdmin =>
          refine ⟨htimelock, h.scheduled_later hmakes rfl hperform, fun pending hpending => ?_⟩
          obtain ⟨-, -, hafter⟩ := Governance.acceptAdmin_eq_ok.mp hperform
          rw [← hafter] at hpending
          cases hpending

/-- A step of a run leaves the entries explained. -/
theorem step {s s' : Timed σ} {input : Option ι}
    (h : G.Explains secs history (G.governance s.state)) (hstep : M.Step s input s') :
    G.Explains secs (⟨s, input, s'⟩ :: history) (G.governance s'.state) := by
  cases hstep with
  | tick =>
      refine h.later ?_
      rintro origin request ⟨input, hinput, -⟩
      cases hinput
  | call acts => exact h.act acts

end Explains

variable (G) in
/-- Every run, and every part of it, explains the entries it leads to. -/
theorem explains_of_run (hrun : M.Run history s) : ∃ secs,
    G.Explains secs history (G.governance s.state) ∧
      ∀ newer t older, history = newer ++ t :: older →
        G.Explains secs older (G.governance t.pre.state) ∧
          G.Explains secs (t :: older) (G.governance t.post.state) := by
  induction hrun with
  | start initial =>
      obtain ⟨admin, secs, hfresh⟩ := G.initial initial
      rw [hfresh]
      refine ⟨secs, ⟨rfl, fun action h => ?_, fun newAdmin h => ?_⟩, fun newer t older h => ?_⟩
      · cases h
      · cases h
      · exact absurd h.symm (by simp)
  | @step history s s' input run step ih =>
      obtain ⟨secs, hnow, hpast⟩ := ih
      refine ⟨secs, hnow.step step, fun newer t older h => ?_⟩
      -- the transition asked about is the one just made, or one of the run before it
      cases newer with
      | nil =>
          obtain ⟨rfl, rfl⟩ := List.cons.inj h
          exact ⟨hnow, hnow.step step⟩
      | cons last newer =>
          obtain ⟨-, rfl⟩ := List.cons.inj h
          exact hpast newer t older rfl

/-! ## What the past guarantees -/

section Transitions

variable {older : List (Transition σ ι)} (hstep : M.Step t.pre t.call t.post)
  (h : G.Explains secs older (G.governance t.pre.state))
include hstep

/-- A call a transition makes has been performed. -/
theorem Makes.perform (hmakes : G.Makes t origin request) :
    request.perform errors (origin.env t.pre.clock G.here) (G.governance t.pre.state) =
      .ok (G.governance t.post.state) := by
  obtain ⟨pre, call, post⟩ := t
  obtain ⟨input, hinput, hcall⟩ := hmakes
  cases hstep with
  | tick => cases hinput
  | call acts =>
      obtain rfl := Option.some.inj hinput
      exact G.perform acts hcall

/-- A change of the contract is an execution of the pending action. -/
theorem makes_of_becomes {action : α} (hbecomes : G.Becomes action t.pre.state t.post.state) :
    ∃ origin admin, G.Makes t origin (.execute admin) ∧
      (G.governance t.pre.state).executeAction errors (origin.env t.pre.clock G.here) admin =
        .ok (action, G.governance t.post.state) := by
  obtain ⟨pre, call, post⟩ := t
  cases hstep with
  | tick => exact absurd hbecomes G.becomes_irrefl
  | @call _ _ _ input acts =>
      obtain ⟨origin, admin, hcall, hexecute⟩ := G.executes acts hbecomes
      exact ⟨origin, admin, ⟨input, rfl, hcall⟩, hexecute⟩

include h

/-- The action that changes the contract was scheduled in time, by the right address, and is
consumed. -/
theorem executes_of_becomes {action : α} (hbecomes : G.Becomes action t.pre.state t.post.state) :
    G.Executes secs older t action := by
  obtain ⟨origin, admin, hmakes, hexecute⟩ := makes_of_becomes hstep hbecomes
  obtain ⟨⟨hauth, hadmin⟩, eta, hscheduled, hdue, hafter⟩ :=
    Governance.executeAction_eq_ok.mp hexecute
  exact { signed := ⟨admin, ⟨origin, hmakes, hauth⟩, hadmin⟩
          scheduled := ⟨eta, hdue, hscheduled, h.scheduled _ hscheduled⟩
          consumed := by rw [← hafter] }

/-- Who accepts the role was proposed by the admin, last, and not accepted before. -/
theorem handsOver_of_accept {newAdmin : Address} (hmakes : G.Makes t origin (.accept newAdmin)) :
    G.HandsOver older t newAdmin := by
  obtain ⟨hauth, hpending, hafter⟩ :=
    Governance.acceptAdmin_eq_ok.mp (show _ = _ from hmakes.perform hstep)
  exact { signed := ⟨origin, hmakes, hauth⟩
          proposed := h.pendingAdmin newAdmin hpending
          admin := by rw [← hafter]
          consumed := by rw [← hafter] }

omit h in
/-- The admin changes by an acceptance only. -/
theorem accepts_of_admin_ne
    (hne : (G.governance t.post.state).admin ≠ (G.governance t.pre.state).admin) :
    ∃ origin newAdmin, G.Makes t origin (.accept newAdmin) := by
  by_contra hnone
  refine hne ?_
  have hmakes : ∀ {origin request}, G.Makes t origin request →
      (G.governance t.post.state).admin = (G.governance t.pre.state).admin := by
    intro origin request hmakes
    have hperform := hmakes.perform hstep
    cases request with
    | schedule | execute | cancel => exact (GovernanceCall.perform_admin hperform rfl).1
    | propose admin newAdmin =>
        obtain ⟨-, hafter⟩ := Governance.proposeAdmin_eq_ok.mp (show _ = _ from hperform)
        rw [← hafter]
    | accept newAdmin => exact absurd ⟨origin, newAdmin, hmakes⟩ hnone
  obtain ⟨pre, call, post⟩ := t
  cases hstep with
  | tick => rfl
  | @call _ _ _ input acts =>
      cases hcall : G.call input with
      | none => exact congrArg Governance.admin (G.quiet acts hcall)
      | some made => exact hmakes ⟨input, rfl, hcall⟩

end Transitions

variable (G) in
/-- **Provenance.** In every run of a contract that embeds the pattern, what governance does has its
reasons in the past. -/
theorem provenance (hrun : M.Run history s) : ∃ secs, G.Provenance secs history s := by
  obtain ⟨secs, hnow, hpast⟩ := G.explains_of_run hrun
  have hstep : ∀ t ∈ history, M.Step t.pre t.call t.post := fun t ht => (hrun.step_of_mem ht).2
  refine ⟨secs, ?_⟩
  constructor
  case timelock =>
    intro t ht
    obtain ⟨newer, older, hsplit⟩ := List.append_of_mem ht
    obtain ⟨hpre, hpost⟩ := hpast newer t older hsplit
    exact ⟨hpre.timelockSecs, hpost.timelockSecs⟩
  case changes =>
    intro newer t older action hsplit hbecomes
    exact executes_of_becomes (hstep t (hsplit ▸ List.mem_append_cons_self))
      (hpast newer t older hsplit).1 hbecomes
  case single =>
    intro t ht origin admin action hmakes
    exact (Governance.scheduleAction_eq_ok.mp (show _ = _ from hmakes.perform (hstep t ht))).2.1
  case admin =>
    intro t ht hne
    exact accepts_of_admin_ne (hstep t ht) hne
  case accepts =>
    intro newer t older origin newAdmin hsplit hmakes
    exact handsOver_of_accept (hstep t (hsplit ▸ List.mem_append_cons_self))
      (hpast newer t older hsplit).1 hmakes
  case pending => exact hnow.pendingAdmin

end Governed

end Soroban
