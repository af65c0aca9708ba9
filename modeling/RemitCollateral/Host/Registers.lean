import RemitCollateral.Host.Refinement

/-! # Registers of last words

A register keeps one value for each key, and its calls announce new values. Over a whole run the
value of a key is the last one announced for it, so what a call reads there is what the latest
announcement before it said. -/

namespace Soroban.Machine

variable {σ ι κ β : Type} [DecidableEq κ]

/-- The part of an announcement that is about `k`. -/
def about (k : κ) (word : Option (κ × β)) : Option β :=
  word.bind fun word => if word.1 = k then some word.2 else none

/-- The last word on `k` in a history. -/
def lastWord (tells : Clock → σ → ι → Option (κ × β)) (k : κ)
    (history : List (Transition σ ι)) : Option β :=
  history.findSome? fun t => about k (standsFor tells t)

/-- `entry` is a register of what calls say: it starts empty and keeps every value until another is
announced for its key. -/
structure Registers (M : Machine σ ι) (tells : Clock → σ → ι → Option (κ × β))
    (entry : σ → κ → Option β) : Prop where
  initial : ∀ {s : Timed σ}, M.initial s → ∀ k, entry s.state k = none
  act : ∀ {clock : Clock} {s : σ} {input : ι} {s' : σ}, M.Reachable ⟨clock, s⟩ →
    M.act clock s input s' → ∀ k, entry s' k = (about k (tells clock s input)).or (entry s k)

variable {M : Machine σ ι} {tells : Clock → σ → ι → Option (κ × β)} {entry : σ → κ → Option β}

/-- An announcement is the last word on its key. -/
@[simp] theorem about_some (k : κ) (value : β) : about k (some (k, value)) = some value :=
  if_pos rfl

/-- It is silent on other keys. -/
theorem about_of_ne {k k' : κ} (h : k' ≠ k) (value : β) : about k (some (k', value)) = none :=
  if_neg h

/-- What an announcement that may be missing tells of a key. -/
theorem about_map (k k' : κ) (value : Option β) :
    about k (value.map fun value => (k', value)) = if k' = k then value else none := by
  cases value with
  | none => exact (ite_self none).symm
  | some value => rfl

/-- To store a value is to announce it. -/
theorem update_eq_about (entry : κ → Option β) (k' : κ) (value : β) (k : κ) :
    Function.update entry k' (some value) k = (about k (some (k', value))).or (entry k) := by
  by_cases hk : k' = k
  · rw [hk, Function.update_self, about_some]
    rfl
  · rw [Function.update_of_ne (Ne.symm hk), about_of_ne hk]
    rfl

/-- The latest transition has the last word on what it speaks of. -/
theorem lastWord_cons (tells : Clock → σ → ι → Option (κ × β)) (k : κ) (t : Transition σ ι)
    (history : List (Transition σ ι)) : lastWord tells k (t :: history) =
      (about k (standsFor tells t)).or (lastWord tells k history) := by
  rw [lastWord, List.findSome?_cons]
  cases about k (standsFor tells t) with
  | none => rfl
  | some value => rfl

/-- **Last words.** Where a run ends, a register holds the last word on each key. -/
theorem Registers.entry_eq (h : M.Registers tells entry) {history : List (Transition σ ι)}
    {s : Timed σ} (hrun : M.Run history s) (k : κ) :
    entry s.state k = lastWord tells k history := by
  induction hrun with
  | start initial => exact h.initial initial k
  | @step history s s' input run step ih =>
      rw [lastWord_cons, ← ih]
      cases step with
      | tick => rfl
      | call acts => exact h.act run.reachable acts k

/-- What a transition of a run finds in a register is the last word before it. -/
theorem Registers.entry_before (h : M.Registers tells entry) {newer older : List (Transition σ ι)}
    {t : Transition σ ι} {s : Timed σ} (hrun : M.Run (newer ++ t :: older) s) (k : κ) :
    entry t.pre.state k = lastWord tells k older := by
  cases hrun.split with
  | step run => exact h.entry_eq run k

end Soroban.Machine
