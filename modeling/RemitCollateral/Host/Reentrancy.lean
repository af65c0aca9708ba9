import RemitCollateral.Host.Env

/-! # Calls that come back

A contract that calls another one does not know what runs before the answer comes: the other one may
call back, as often as it likes, and catch what fails. A `Session` is one call of a contract, cut
where it calls out; a `Program` is what the other contract does before it answers, cut where it
calls back. The host runs the one against the other, keeps nothing of a call that fails, and stops
calls nested too deep. If a contract takes a lock before it calls out, and lets no call in while the
lock is taken, its calls go as if the other contract did nothing but answer. -/

namespace Soroban

/-- One call of a contract with storage `σ`. -/
inductive Session (σ ε : Type) {Ask : Type} (Reply : Ask → Type) (α : Type)
  /-- Steps that ask nobody, up to the end of the call. -/
  | step (result : Result ε α)
  /-- The call asks another contract, leaving the storage `s`, and goes on from the reply and from
  the storage it then finds. -/
  | suspend (request : Ask) (s : σ) (resume : Reply request → σ → Session σ ε Reply α)

/-- What a contract with storage `τ` does before it answers a request. -/
inductive Program (τ ι ε α : Type)
  /-- It answers. -/
  | answer (reply : α) (t : τ)
  | trap
  /-- It calls back, and goes on from the outcome and from the storage it then finds. -/
  | call (t : τ) (input : ι) (resume : Result ε Unit → τ → Program τ ι ε α)

/-- A call made while another one was waiting, and the storage around it. -/
structure Attempt (σ ι ε : Type) where
  input : ι
  before : σ
  after : σ
  outcome : Result ε Unit

/-- What there is to see of a call, whether it succeeds or fails. -/
structure Transcript (σ ι ε : Type) {Ask : Type} (Reply : Ask → Type) (β : Type) where
  /-- What the call asked and was answered. -/
  answers : List ((request : Ask) × Reply request)
  /-- The calls made meanwhile, at any depth. -/
  attempts : List (Attempt σ ι ε)
  result : Result ε β

/-- What the host keeps of a call: what it left, or everything as it was before. -/
def kept {ε β : Type} (result : Result ε β) (before : β) : β :=
  match result with
  | .ok after => after
  | .error _ => before

variable {σ τ ι ε Ask α β : Type} {Reply : Ask → Type}

namespace Session

/-- Go on from the value of a call. -/
def bind (session : Session σ ε Reply α) (next : α → Session σ ε Reply β) :
    Session σ ε Reply β :=
  match session with
  | .step (.ok value) => next value
  | .step (.error fault) => .step (.error fault)
  | .suspend request s resume => .suspend request s fun reply s' => (resume reply s').bind next

instance : Monad (Session σ ε Reply) where
  pure value := .step (.ok value)
  bind := Session.bind

/-- Ask another contract. -/
def ask (request : Ask) (s : σ) : Session σ ε Reply (Reply request × σ) :=
  .suspend request s fun reply s' => .step (.ok (reply, s'))

@[simp] theorem pure_eq (value : α) :
    (pure value : Session σ ε Reply α) = .step (.ok value) := rfl

@[simp] theorem step_ok_bind (value : α) (next : α → Session σ ε Reply β) :
    (.step (.ok value) >>= next) = next value := rfl

@[simp] theorem step_error_bind (fault : Fault ε) (next : α → Session σ ε Reply β) :
    (.step (.error fault) >>= next) = .step (.error fault) := rfl

end Session

/-! ## Running one contract against another -/

section Run

variable (respond : (request : Ask) → τ → Program τ ι ε (Reply request))
  (nested : ι → σ → τ → Transcript σ ι ε Reply (σ × τ))

/-- Run the other contract, answering its calls by `nested`. -/
def Program.run : Program τ ι ε α → σ → List (Attempt σ ι ε) × Option (α × σ × τ)
  | .answer reply t, s => ([], some (reply, s, t))
  | .trap, _ => ([], none)
  | .call t input resume, s =>
      let inner := nested input s t
      let left := kept inner.result (s, t)
      let outcome := inner.result.map fun _ => ()
      let rest := (resume outcome left.2).run left.1
      (inner.attempts ++ ⟨input, s, left.1, outcome⟩ :: rest.1, rest.2)

/-- Run a call, with the programs of `respond` behind its requests. -/
def Session.run : Session σ ε Reply α → τ → Transcript σ ι ε Reply (α × τ)
  | .step result, t => { answers := [], attempts := [], result := result.map (·, t) }
  | .suspend request s resume, t =>
      match (respond request t).run nested s with
      | (attempts, none) => { answers := [], attempts, result := .error .callee }
      | (attempts, some (reply, s', t')) =>
          let rest := (resume reply s').run t'
          { answers := ⟨request, reply⟩ :: rest.answers
            attempts := attempts ++ rest.attempts
            result := rest.result }

/-- Run a call of the contract `code`, with at most `depth` of its calls inside one another. -/
def invoke (code : ι → σ → Session σ ε Reply σ) :
    ℕ → ι → σ → τ → Transcript σ ι ε Reply (σ × τ)
  | 0, _, _, _ => { answers := [], attempts := [], result := .error .callee }
  | depth + 1, input, s, t => (code input s).run respond (invoke code depth) t

end Run

/-! ## Results alone -/

namespace Session

/-- The result of a call, with the function `answer` behind its requests. -/
def eval (answer : (request : Ask) → σ → τ → Option (Reply request × σ × τ)) :
    Session σ ε Reply α → τ → Result ε (α × τ)
  | .step result, t => result.map (·, t)
  | .suspend request s resume, t => do
      let (reply, s', t') ← callee (answer request s t)
      (resume reply s').eval answer t'

section Eval

variable {answer : (request : Ask) → σ → τ → Option (Reply request × σ × τ)} {t : τ}

@[simp] theorem eval_step (result : Result ε α) :
    (step result : Session σ ε Reply α).eval answer t = result.map (·, t) := rfl

/-- Steps that ask nobody are evaluated as they are. -/
theorem eval_step_bind (result : Result ε α) (next : α → Session σ ε Reply β) :
    (step result >>= next).eval answer t = result >>= fun a => (next a).eval answer t := by
  cases result with
  | error fault => rfl
  | ok value => rfl

/-- A request is evaluated to its answer, and traps if it gets none. -/
theorem eval_ask_bind (request : Ask) (s : σ) (next : Reply request × σ → Session σ ε Reply β) :
    (ask request s >>= next).eval answer t =
      callee (answer request s t) >>= fun p => (next (p.1, p.2.1)).eval answer p.2.2 := rfl

/-- What a run leaves is what its programs' answers leave. -/
theorem run_result (respond : (request : Ask) → τ → Program τ ι ε (Reply request))
    (nested : ι → σ → τ → Transcript σ ι ε Reply (σ × τ)) (session : Session σ ε Reply α) (t : τ) :
    (session.run respond nested t).result =
      session.eval (fun request s t => ((respond request t).run nested s).2) t := by
  induction session generalizing t with
  | step result => rfl
  | suspend request s resume ih =>
      simp only [run, eval]
      rcases (respond request t).run nested s with ⟨attempts, _ | ⟨reply, s', t'⟩⟩
      · rfl
      · exact ih reply s' t'

end Eval

end Session

/-! ## A call that is only answered -/

namespace Session

/-- A call whose requests got these replies, and which found its storage as it had left it. -/
inductive Answered :
    Session σ ε Reply α → List ((request : Ask) × Reply request) → Result ε α → Prop
  | step (result : Result ε α) : Answered (.step result) [] result
  /-- The other contract traps. -/
  | trap (request : Ask) (s : σ) (resume : Reply request → σ → Session σ ε Reply α) :
      Answered (.suspend request s resume) [] (.error .callee)
  | reply {request : Ask} {s : σ} {resume : Reply request → σ → Session σ ε Reply α}
      {answers : List ((request : Ask) × Reply request)} {result : Result ε α}
      (reply : Reply request) (rest : Answered (resume reply s) answers result) :
      Answered (.suspend request s resume) (⟨request, reply⟩ :: answers) result

/-- Every request is made in storage that meets `P`, as long as the storage is only written by the
call itself. -/
def AsksIn (P : σ → Prop) : Session σ ε Reply α → Prop
  | .step _ => True
  | .suspend _ s resume => P s ∧ ∀ reply, (resume reply s).AsksIn P

section Answered

variable {answers : List ((request : Ask) × Reply request)} {P : σ → Prop}

@[simp] theorem answered_step {result result' : Result ε α} :
    (step result : Session σ ε Reply α).Answered answers result' ↔
      answers = [] ∧ result = result' := by
  constructor
  · intro h
    cases h with
    | step => exact ⟨rfl, rfl⟩
  · rintro ⟨rfl, rfl⟩
    exact .step result

/-- Steps that ask nobody get no replies. -/
theorem answered_step_bind {result : Result ε α} {next : α → Session σ ε Reply β} {value : β} :
    (step result >>= next).Answered answers (.ok value) ↔
      ∃ a, result = .ok a ∧ (next a).Answered answers (.ok value) := by
  cases result with
  | error fault => simp
  | ok a => simp

/-- A request that does not trap gets its reply, and the rest of the call gets the rest. -/
theorem answered_ask_bind {request : Ask} {s : σ} {next : Reply request × σ → Session σ ε Reply β}
    {value : β} :
    (ask request s >>= next).Answered answers (.ok value) ↔
      ∃ reply later, (next (reply, s)).Answered later (.ok value) ∧
        ⟨request, reply⟩ :: later = answers := by
  constructor
  · intro h
    cases h with
    | reply reply rest => exact ⟨reply, _, rest, rfl⟩
  · rintro ⟨reply, later, rest, rfl⟩
    exact .reply reply rest

@[simp] theorem asksIn_step {result : Result ε α} :
    (step result : Session σ ε Reply α).AsksIn P := trivial

theorem asksIn_step_bind {result : Result ε α} {next : α → Session σ ε Reply β} :
    (step result >>= next).AsksIn P ↔ ∀ a, result = .ok a → (next a).AsksIn P := by
  cases result with
  | error fault => simp
  | ok a => simp

theorem asksIn_ask_bind {request : Ask} {s : σ} {next : Reply request × σ → Session σ ε Reply β} :
    (ask request s >>= next).AsksIn P ↔ P s ∧ ∀ reply, (next (reply, s)).AsksIn P := Iff.rfl

end Answered

end Session

/-! ## Behind a lock -/

/-- A lock on the storage of the contract `code`: it is taken whenever the contract asks another
one, and while it is taken every call fails before it has done anything. -/
structure Guard (code : ι → σ → Session σ ε Reply σ) where
  Taken : σ → Prop
  fault : Fault ε
  refuses : ∀ {input s}, Taken s → code input s = .step (.error fault)
  asksIn : ∀ input s, (code input s).AsksIn Taken

namespace Guard

variable {code : ι → σ → Session σ ε Reply σ} (guard : Guard code)

/-- How a call fails that comes while the lock is taken: on the lock, unless the host has already
stopped it for its depth. -/
def refusal : ℕ → Fault ε
  | 0 => .callee
  | _ + 1 => guard.fault

/-- A call that came while the lock was taken, failed, and left the storage as it was. -/
structure Refused (depth : ℕ) (attempt : Attempt σ ι ε) : Prop where
  taken : guard.Taken attempt.before
  unchanged : attempt.after = attempt.before
  failed : attempt.outcome = .error (guard.refusal depth)

variable {guard} (respond : (request : Ask) → τ → Program τ ι ε (Reply request)) (depth : ℕ) {s : σ}

theorem invoke_taken (hs : guard.Taken s) (input : ι) (t : τ) :
    invoke respond code depth input s t =
      { answers := [], attempts := [], result := .error (guard.refusal depth) } := by
  cases depth with
  | zero => rfl
  | succ depth =>
      rw [invoke, guard.refuses hs]
      rfl

/-- Nothing that another contract calls back succeeds while the lock is taken. -/
theorem refused_of_mem_program (hs : guard.Taken s) (program : Program τ ι ε α) :
    ∀ attempt ∈ (program.run (invoke respond code depth) s).1, guard.Refused depth attempt := by
  induction program with
  | answer reply t => simp [Program.run]
  | trap => simp [Program.run]
  | call t input resume ih =>
      intro attempt hmem
      simp only [Program.run, invoke_taken respond depth hs, kept, List.nil_append, List.mem_cons]
        at hmem
      rcases hmem with rfl | hmem
      · exact ⟨hs, rfl, rfl⟩
      · exact ih _ t attempt hmem

/-- Whatever another contract does while the lock is taken, the storage stays as it is. -/
theorem storage_of_program (hs : guard.Taken s) {program : Program τ ι ε α} {reply : α} {s' : σ}
    {t' : τ} (h : (program.run (invoke respond code depth) s).2 = some (reply, s', t')) :
    s' = s := by
  induction program with
  | answer reply t =>
      simp only [Program.run, Option.some.injEq, Prod.mk.injEq] at h
      exact h.2.1.symm
  | trap => cases h
  | call t input resume ih =>
      simp only [Program.run, invoke_taken respond depth hs, kept] at h
      exact ih _ t h

/-- A request made while the lock is taken traps, or it is answered in the same storage; all that
was called meanwhile was refused. -/
theorem run_suspend (hs : guard.Taken s) (request : Ask)
    (resume : Reply request → σ → Session σ ε Reply α) (t : τ) :
    ∃ attempts : List (Attempt σ ι ε), (∀ attempt ∈ attempts, guard.Refused depth attempt) ∧
      ((Session.suspend request s resume).run respond (invoke respond code depth) t =
          { answers := [], attempts, result := .error .callee } ∨
        ∃ reply t', (Session.suspend request s resume).run respond (invoke respond code depth) t =
          let rest := (resume reply s).run respond (invoke respond code depth) t'
          { answers := ⟨request, reply⟩ :: rest.answers
            attempts := attempts ++ rest.attempts
            result := rest.result }) := by
  refine ⟨_, refused_of_mem_program respond depth hs (respond request t), ?_⟩
  rw [Session.run]
  cases hrun : (respond request t).run (invoke respond code depth) s with
  | mk attempts outcome =>
      cases outcome with
      | none => exact .inl rfl
      | some outcome =>
          obtain ⟨reply, s', t'⟩ := outcome
          obtain rfl : s' = s := storage_of_program respond depth hs (congrArg Prod.snd hrun)
          exact .inr ⟨reply, t', rfl⟩

/-- Every call made while a guarded one was waiting was refused. -/
theorem refused_of_mem {session : Session σ ε Reply α} (h : session.AsksIn guard.Taken) (t : τ) :
    ∀ attempt ∈ (session.run respond (invoke respond code depth) t).attempts,
      guard.Refused depth attempt := by
  induction session generalizing t with
  | step result => simp [Session.run]
  | suspend request s resume ih =>
      obtain ⟨hs, hrest⟩ := h
      obtain ⟨attempts, hrefused, hrun | ⟨reply, t', hrun⟩⟩ :=
        run_suspend respond depth hs request resume t
      · rw [hrun]
        exact hrefused
      · rw [hrun]
        intro attempt hmem
        rcases List.mem_append.mp hmem with hmem | hmem
        · exact hrefused attempt hmem
        · exact ih reply s (hrest reply) t' attempt hmem

/-- **A guarded call is only answered.** Whatever the other contract calls back, the call goes as if
it did nothing but answer. -/
theorem answered {session : Session σ ε Reply α} (h : session.AsksIn guard.Taken) (t : τ) :
    session.Answered (session.run respond (invoke respond code depth) t).answers
      ((session.run respond (invoke respond code depth) t).result.map Prod.fst) := by
  induction session generalizing t with
  | step result =>
      refine Session.answered_step.mpr ⟨rfl, ?_⟩
      cases result with
      | error fault => rfl
      | ok value => rfl
  | suspend request s resume ih =>
      obtain ⟨hs, hrest⟩ := h
      obtain ⟨attempts, -, hrun | ⟨reply, t', hrun⟩⟩ :=
        run_suspend respond depth hs request resume t
      · rw [hrun]
        exact .trap request s resume
      · rw [hrun]
        exact .reply reply (ih reply s (hrest reply) t')

end Guard

end Soroban
