import RemitCollateral.Host.Machine

/-! # What a run adds up to

A quantity read off the states of a run, and what each call books for it. When every call changes
the quantity by what it books, the quantity at the end is the one the run began with and all that
was booked. -/

namespace Soroban.Machine

variable {σ ι : Type} {M : Machine σ ι} {history : List (Transition σ ι)} {s : Timed σ}

/-- The state a run began in. -/
def opening (history : List (Transition σ ι)) (s : Timed σ) : Timed σ :=
  history.getLast?.elim s Transition.pre

@[simp] theorem opening_nil (s : Timed σ) : opening ([] : List (Transition σ ι)) s = s := rfl

/-- A transition made does not change where the run began. -/
@[simp] theorem opening_cons (t : Transition σ ι) (history : List (Transition σ ι)) (s : Timed σ) :
    opening (t :: history) s = opening history t.pre := by
  cases history with
  | nil => rfl
  | cons last history => rw [opening, List.getLast?_cons_cons, opening, List.getLast?_cons,
      Option.elim_some, Option.elim_some]

/-- A run began in an initial state. -/
theorem Run.initial_opening (h : M.Run history s) : M.initial (opening history s) := by
  induction h with
  | start initial => exact initial
  | step run step ih =>
      rw [opening_cons]
      exact ih

/-- What a transition books, from what a call books in the state it finds. -/
def booked {A : Type*} [Zero A] (books : σ → ι → A) (t : Transition σ ι) : A :=
  t.call.elim 0 (books t.pre.state)

/-- A quantity that every call changes by what it books is what it began with and all that was
booked. -/
theorem Run.eq_opening_add_sum {A : Type*} [AddCommMonoid A] {quantity : σ → A} {books : σ → ι → A}
    (hcall : ∀ {c s input s'}, M.Reachable ⟨c, s⟩ → M.act c s input s' →
      quantity s' = quantity s + books s input) (h : M.Run history s) :
    quantity s.state = quantity (opening history s).state + (history.map (booked books)).sum := by
  induction h with
  | start initial =>
      rw [opening_nil, List.map_nil, List.sum_nil, add_zero]
  | @step history s s' input run step ih =>
      have hstep : quantity s'.state = quantity s.state + booked books ⟨s, input, s'⟩ := by
        cases step with
        | tick => exact (add_zero _).symm
        | call acts => exact hcall run.reachable acts
      rw [hstep, ih, opening_cons, List.map_cons, List.sum_cons, add_assoc,
        add_comm (booked books _)]

end Soroban.Machine
