import Mathlib

/-! # Noninterference

A system attempts inputs one after the other, and says of each whether it succeeded. One observer
sees some of the inputs, whether they succeeded, and a view of the state after each of them; while
such an input runs, the world outside the system may answer it. If hidden inputs do not disturb what
the observer sees, then two runs with the same visible inputs and the same answers look the same,
however many hidden inputs each of them has and wherever they stand. -/

namespace Soroban

/-- A system and what one observer sees of it. -/
structure Observed (σ ι ν α : Type) where
  /-- Attempt an input: whether it succeeds, and the state it leaves. -/
  attempt : σ → ι → Bool × σ
  /-- Whether the observer sees an input. -/
  visible : ι → Bool
  /-- What the observer sees of a state. -/
  view : σ → ν
  /-- What the world outside answers while an input is attempted. -/
  answer : σ → ι → α

namespace Observed

variable {σ ι ν α : Type} (O : Observed σ ι ν α)

/-- The state after a list of inputs. -/
def after (s : σ) (inputs : List ι) : σ := inputs.foldl (fun s input => (O.attempt s input).2) s

/-- What the observer sees of a run: after each visible input, whether it succeeded, and its
view. -/
def trace : σ → List ι → List (Bool × ν)
  | _, [] => []
  | s, input :: rest =>
      if O.visible input then
        ((O.attempt s input).1, O.view (O.attempt s input).2) :: trace (O.attempt s input).2 rest
      else trace (O.attempt s input).2 rest

/-- What the world outside answers to the visible inputs of a run. -/
def answers : σ → List ι → List α
  | _, [] => []
  | s, input :: rest =>
      if O.visible input then O.answer s input :: answers (O.attempt s input).2 rest
      else answers (O.attempt s input).2 rest

/-- The unwinding conditions: a relation between states that hidden inputs on either side keep, that
visible inputs with the same answer keep while succeeding on both sides or on neither, and that
relates only states of one view. -/
structure Unwinds (R : σ → σ → Prop) : Prop where
  view : ∀ {s s'}, R s s' → O.view s = O.view s'
  hidden_left : ∀ {s s' input}, O.visible input = false → R s s' → R (O.attempt s input).2 s'
  hidden_right : ∀ {s s' input}, O.visible input = false → R s s' → R s (O.attempt s' input).2
  visible : ∀ {s s' input}, O.visible input = true → R s s' →
    O.answer s input = O.answer s' input →
      (O.attempt s input).1 = (O.attempt s' input).1 ∧
        R (O.attempt s input).2 (O.attempt s' input).2

variable {O} {R : σ → σ → Prop} {s s' : σ} {input : ι} {inputs inputs' hidden : List ι}

theorem trace_cons_of_visible (h : O.visible input = true) : O.trace s (input :: inputs) =
    ((O.attempt s input).1, O.view (O.attempt s input).2) :: O.trace (O.attempt s input).2 inputs :=
  if_pos h

theorem trace_cons_of_hidden (h : O.visible input = false) :
    O.trace s (input :: inputs) = O.trace (O.attempt s input).2 inputs := by
  rw [trace, h]
  rfl

theorem answers_cons_of_visible (h : O.visible input = true) : O.answers s (input :: inputs) =
    O.answer s input :: O.answers (O.attempt s input).2 inputs := if_pos h

theorem answers_cons_of_hidden (h : O.visible input = false) :
    O.answers s (input :: inputs) = O.answers (O.attempt s input).2 inputs := by
  rw [answers, h]
  rfl

/-- Hidden inputs add nothing to what is seen or answered. -/
theorem trace_hidden (h : ∀ input ∈ hidden, O.visible input = false) (s : σ) (inputs : List ι) :
    O.trace s (hidden ++ inputs) = O.trace (O.after s hidden) inputs ∧
      O.answers s (hidden ++ inputs) = O.answers (O.after s hidden) inputs := by
  induction hidden generalizing s with
  | nil => exact ⟨rfl, rfl⟩
  | cons input hidden ih =>
      obtain ⟨hinput, hrest⟩ := List.forall_mem_cons.mp h
      rw [List.cons_append, trace_cons_of_hidden hinput, answers_cons_of_hidden hinput]
      exact ih hrest (O.attempt s input).2

/-- A related state stays related through hidden inputs. -/
theorem Unwinds.after (hO : O.Unwinds R) (h : ∀ input ∈ hidden, O.visible input = false)
    (hR : R s s') : R s (O.after s' hidden) := by
  induction hidden generalizing s' with
  | nil => exact hR
  | cons input hidden ih =>
      obtain ⟨hinput, hrest⟩ := List.forall_mem_cons.mp h
      exact ih hrest (hO.hidden_right hinput hR)

/-- **Unwinding.** Related states show the same trace under runs with the same visible inputs and
answers. -/
theorem Unwinds.trace_eq (hO : O.Unwinds R) (hR : R s s')
    (hinputs : inputs.filter O.visible = inputs'.filter O.visible)
    (hanswers : O.answers s inputs = O.answers s' inputs') :
    O.trace s inputs = O.trace s' inputs' := by
  induction inputs generalizing s s' inputs' with
  | nil =>
      -- nothing visible is left on the other side either
      have hhidden : ∀ input ∈ inputs', O.visible input = false := by
        intro input hinput
        have hnone := List.filter_eq_nil_iff.mp hinputs.symm input hinput
        exact Bool.eq_false_iff.mpr hnone
      have htrace := (trace_hidden hhidden s' []).1
      rw [List.append_nil] at htrace
      exact htrace.symm
  | cons input inputs ih =>
      cases hinput : O.visible input with
      | false =>
          rw [List.filter_cons_of_neg (by simp [hinput])] at hinputs
          rw [answers_cons_of_hidden hinput] at hanswers
          rw [trace_cons_of_hidden hinput]
          exact ih (hO.hidden_left hinput hR) hinputs hanswers
      | true =>
          -- the other run comes to the same input after hidden ones
          rw [List.filter_cons_of_pos hinput] at hinputs
          obtain ⟨hidden, rest, rfl, hhidden, -, hrest⟩ := List.filter_eq_cons_iff.mp hinputs.symm
          have hnone : ∀ input ∈ hidden, O.visible input = false := by
            intro input hmem
            exact Bool.eq_false_iff.mpr (hhidden input hmem)
          obtain ⟨htrace, hothers⟩ := trace_hidden hnone s' (input :: rest)
          rw [hothers, answers_cons_of_visible hinput, answers_cons_of_visible hinput] at hanswers
          obtain ⟨hanswer, hanswers⟩ := List.cons.inj hanswers
          obtain ⟨hsame, hafter⟩ := hO.visible hinput (hO.after hnone hR) hanswer
          rw [htrace, trace_cons_of_visible hinput, trace_cons_of_visible hinput, hsame,
            hO.view hafter, ih hafter hrest.symm hanswers]

end Observed

end Soroban
