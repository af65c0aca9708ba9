import Mathlib

/-! # Contract calls that may trap

A contract function either returns or traps, and a trap rolls the whole call back. `Result ε α` is
that outcome, with `Fault ε` the reasons a call traps: an error code of the contract's own
enumeration `ε`, a missing authorization, a checked machine operation out of range, a failed
assertion, or a callee that trapped. The rules below turn "this block returned `b`" into the list of
conditions its steps checked, so that a specification is read off the code by `simp`. -/

namespace Soroban

/-- Why a call trapped. -/
inductive Fault (ε : Type) where
  /-- The contract raised one of its own error codes. -/
  | contract (error : ε)
  /-- `require_auth` on an address that did not authorize the call. -/
  | unauthorized
  /-- A checked machine-integer operation left its range. -/
  | overflow
  /-- Division by zero. -/
  | divideByZero
  /-- An assertion failed. -/
  | assertion (message : String)
  /-- A contract called by this one trapped. -/
  | callee
  deriving DecidableEq, Repr

/-- The outcome of a call: a value, or the fault that rolled it back. -/
abbrev Result (ε α : Type) := Except (Fault ε) α

variable {ε α β : Type}

/-! ## Steps of a call -/

/-- Trap with `error` unless `condition` holds. -/
def require (condition : Prop) [Decidable condition] (error : ε) : Result ε Unit :=
  if condition then .ok () else .error (.contract error)

/-- A host assertion. -/
def assertThat (condition : Prop) [Decidable condition] (message : String) : Result ε Unit :=
  if condition then .ok () else .error (.assertion message)

/-- The value of a storage entry, or a trap with `error` when it is absent. -/
def orPanic (entry : Option α) (error : ε) : Result ε α :=
  match entry with
  | some value => .ok value
  | none => .error (.contract error)

/-- The result of calling another contract, whose trap (`none`) traps the caller. -/
def callee (outcome : Option α) : Result ε α :=
  match outcome with
  | some value => .ok value
  | none => .error .callee

/-- What a caller sees of this call: its value, or that it trapped. -/
def outcome (result : Result ε α) : Option α := result.toOption

/-! ## Checked machine integers -/

/-- The range of `i128`. -/
def InI128 (x : ℤ) : Prop := -2 ^ 127 ≤ x ∧ x ≤ 2 ^ 127 - 1

instance (x : ℤ) : Decidable (InI128 x) := inferInstanceAs (Decidable (_ ∧ _))

/-- The range of `u64`. -/
def InU64 (x : ℕ) : Prop := x < 2 ^ 64

instance (x : ℕ) : Decidable (InU64 x) := inferInstanceAs (Decidable (_ < _))

/-- The result of an `i128` operation, trapping on overflow. -/
def i128 (x : ℤ) : Result ε ℤ := if InI128 x then .ok x else .error .overflow

/-- The result of a `u64` operation, trapping on overflow. -/
def u64 (x : ℕ) : Result ε ℕ := if InU64 x then .ok x else .error .overflow

/-- `u32` subtraction, trapping below zero. -/
def u32Sub (x y : ℕ) : Result ε ℕ := if y ≤ x then .ok (x - y) else .error .overflow

/-- `i128` division, which truncates toward zero. -/
def i128Div (x y : ℤ) : Result ε ℤ :=
  if y = 0 then .error .divideByZero else i128 (x.tdiv y)

/-- The cast `x as u32` of an `i128`, which keeps the low 32 bits. -/
def castU32 (x : ℤ) : ℕ := (x % 2 ^ 32).toNat

/-- A value already inside `u32` survives the cast. -/
theorem castU32_of_lt {x : ℤ} (h0 : 0 ≤ x) (h : x < 2 ^ 32) : (castU32 x : ℤ) = x := by
  unfold castU32
  rw [Int.emod_eq_of_lt h0 h]
  exact Int.toNat_of_nonneg h0

/-- Every value between two values of `i128` is one too. -/
theorem InI128.of_le_of_le {x y z : ℤ} (hx : InI128 x) (hz : InI128 z) (hxy : x ≤ y)
    (hyz : y ≤ z) : InI128 y :=
  ⟨le_trans hx.1 hxy, le_trans hyz hz.2⟩

/-- Every value between zero and a value of `i128` is one too. -/
theorem InI128.of_nonneg_of_le {y z : ℤ} (hz : InI128 z) (hy : 0 ≤ y) (hyz : y ≤ z) :
    InI128 y :=
  InI128.of_le_of_le (by decide : InI128 0) hz hy hyz

/-! ## When a block returns -/

/-- A sequence returns iff its first step does and the rest does from there. -/
@[simp] theorem bind_eq_ok {step : Result ε α} {rest : α → Result ε β} {value : β} :
    (step >>= rest) = .ok value ↔ ∃ a, step = .ok a ∧ rest a = .ok value := by
  cases step with
  | error fault => simp [bind, Except.bind]
  | ok a => simp [bind, Except.bind]

/-- A step whose result is only reshaped returns iff the step does. -/
@[simp] theorem map_eq_ok {step : Result ε α} {shape : α → β} {value : β} :
    (shape <$> step) = .ok value ↔ ∃ a, step = .ok a ∧ shape a = value := by
  cases step with
  | error fault => simp [Functor.map, Except.map]
  | ok a => simp [Functor.map, Except.map]

@[simp] theorem pure_eq_ok {a b : α} : (pure a : Result ε α) = .ok b ↔ a = b := by
  simp [pure, Except.pure]

@[simp] theorem require_eq_ok {condition : Prop} [Decidable condition] {error : ε} {u : Unit} :
    require condition error = .ok u ↔ condition := by
  unfold require; split <;> simp_all

@[simp] theorem assertThat_eq_ok {condition : Prop} [Decidable condition] {message : String}
    {u : Unit} : (assertThat condition message : Result ε Unit) = .ok u ↔ condition := by
  unfold assertThat; split <;> simp_all

@[simp] theorem orPanic_eq_ok {entry : Option α} {error : ε} {a : α} :
    orPanic entry error = .ok a ↔ entry = some a := by
  cases entry <;> simp [orPanic]

@[simp] theorem callee_eq_ok {o : Option α} {a : α} :
    (callee o : Result ε α) = .ok a ↔ o = some a := by
  cases o <;> simp [callee]

/-- Reshaping what a callee returned is left to the rest of the block. -/
theorem callee_map_bind {γ : Type} (o : Option α) (shape : α → β) (rest : β → Result ε γ) :
    (callee (o.map shape) >>= rest) = callee o >>= fun a => rest (shape a) := by
  cases o with
  | none => rfl
  | some a => rfl

@[simp] theorem outcome_eq_some {result : Result ε α} {a : α} :
    outcome result = some a ↔ result = .ok a := by
  cases result <;> simp [outcome, Except.toOption]

@[simp] theorem i128_eq_ok {x y : ℤ} : (i128 x : Result ε ℤ) = .ok y ↔ InI128 x ∧ x = y := by
  unfold i128; split <;> simp_all

@[simp] theorem u64_eq_ok {x y : ℕ} : (u64 x : Result ε ℕ) = .ok y ↔ InU64 x ∧ x = y := by
  unfold u64; split <;> simp_all

@[simp] theorem u32Sub_eq_ok {x y z : ℕ} :
    (u32Sub x y : Result ε ℕ) = .ok z ↔ y ≤ x ∧ x - y = z := by
  unfold u32Sub
  split
  · simp [*]
  · simp; omega

@[simp] theorem i128Div_eq_ok {x y z : ℤ} :
    (i128Div x y : Result ε ℤ) = .ok z ↔ y ≠ 0 ∧ InI128 (x.tdiv y) ∧ x.tdiv y = z := by
  unfold i128Div; split <;> simp_all

/-! ## When a block fails an assertion -/

/-- The call trapped on an assertion. -/
def AssertFails (result : Result ε α) : Prop := ∃ message, result = .error (.assertion message)

/-- A sequence fails an assertion in its first step or in the rest. -/
@[simp] theorem assertFails_bind {step : Result ε α} {rest : α → Result ε β} :
    AssertFails (step >>= rest) ↔
      AssertFails step ∨ ∃ a, step = .ok a ∧ AssertFails (rest a) := by
  cases step with
  | error fault => simp [AssertFails, bind, Except.bind]
  | ok a => simp [AssertFails, bind, Except.bind]

@[simp] theorem assertFails_map {step : Result ε α} {shape : α → β} :
    AssertFails (shape <$> step) ↔ AssertFails step := by
  cases step <;> simp [AssertFails, Functor.map, Except.map]

@[simp] theorem assertFails_assertThat {condition : Prop} [Decidable condition] {message : String} :
    AssertFails (assertThat condition message : Result ε Unit) ↔ ¬ condition := by
  unfold AssertFails assertThat; split <;> simp [*]

@[simp] theorem not_assertFails_pure {a : α} : ¬ AssertFails (pure a : Result ε α) := by
  simp [AssertFails, pure, Except.pure]

@[simp] theorem not_assertFails_require {condition : Prop} [Decidable condition] {error : ε} :
    ¬ AssertFails (require condition error) := by
  unfold AssertFails require; split <;> simp

@[simp] theorem not_assertFails_orPanic {entry : Option α} {error : ε} :
    ¬ AssertFails (orPanic entry error) := by
  cases entry <;> simp [AssertFails, orPanic]

@[simp] theorem not_assertFails_callee {o : Option α} :
    ¬ AssertFails (callee o : Result ε α) := by
  cases o <;> simp [AssertFails, callee]

@[simp] theorem not_assertFails_i128 {x : ℤ} : ¬ AssertFails (i128 x : Result ε ℤ) := by
  unfold AssertFails i128; split <;> simp

@[simp] theorem not_assertFails_u64 {x : ℕ} : ¬ AssertFails (u64 x : Result ε ℕ) := by
  unfold AssertFails u64; split <;> simp

/-! ## When a block raises an error code -/

/-- The call trapped with the contract's own error code `error`. -/
def Raises (result : Result ε α) (error : ε) : Prop := result = .error (.contract error)

section Raises

variable {error error' : ε}

/-- A sequence raises an error in its first step or in the rest. -/
@[simp] theorem raises_bind {step : Result ε α} {rest : α → Result ε β} :
    Raises (step >>= rest) error ↔
      Raises step error ∨ ∃ a, step = .ok a ∧ Raises (rest a) error := by
  cases step with
  | error fault => simp [Raises, bind, Except.bind]
  | ok a => simp [Raises, bind, Except.bind]

@[simp] theorem raises_map {step : Result ε α} {shape : α → β} :
    Raises (shape <$> step) error ↔ Raises step error := by
  cases step <;> simp [Raises, Functor.map, Except.map]

@[simp] theorem not_raises_pure {a : α} : ¬ Raises (pure a : Result ε α) error := by
  simp [Raises, pure, Except.pure]

@[simp] theorem raises_require {condition : Prop} [Decidable condition] :
    Raises (require condition error') error ↔ ¬ condition ∧ error' = error := by
  unfold Raises require; split <;> simp [*]

@[simp] theorem raises_orPanic {entry : Option α} :
    Raises (orPanic entry error') error ↔ entry = none ∧ error' = error := by
  cases entry <;> simp [Raises, orPanic]

@[simp] theorem not_raises_callee {o : Option α} : ¬ Raises (callee o : Result ε α) error := by
  cases o <;> simp [Raises, callee]

@[simp] theorem not_raises_i128 {x : ℤ} : ¬ Raises (i128 x : Result ε ℤ) error := by
  unfold Raises i128; split <;> simp

@[simp] theorem not_raises_u64 {x : ℕ} : ¬ Raises (u64 x : Result ε ℕ) error := by
  unfold Raises u64; split <;> simp

@[simp] theorem not_raises_u32Sub {x y : ℕ} : ¬ Raises (u32Sub x y : Result ε ℕ) error := by
  unfold Raises u32Sub; split <;> simp

@[simp] theorem not_raises_i128Div {x y : ℤ} : ¬ Raises (i128Div x y : Result ε ℤ) error := by
  unfold i128Div
  split
  · simp [Raises]
  · exact not_raises_i128

end Raises

end Soroban
