import RemitCollateral.Host.Env

/-! # Keeping entries alive

Extending an entry never shortens its life, and leaves it at least the threshold. So whatever a
contract does that extends what it writes, an entry promised until some ledger, no later than a
threshold from now, stays promised until then. -/

namespace Soroban.Lifetimes

variable {K : Type} {ttl ttl' ttl'' : Lifetimes K} {bound until₁ : ℕ} {key : K}

/-- Every promise up to `bound` that one set of lifetimes makes, the other makes too. -/
structure Keeps (bound : ℕ) (ttl ttl' : Lifetimes K) : Prop where
  instanceUntil : min ttl.instanceUntil bound ≤ ttl'.instanceUntil
  entryUntil : ∀ key, min (ttl.entryUntil key) bound ≤ ttl'.entryUntil key

namespace Keeps

theorem refl (ttl : Lifetimes K) : Keeps bound ttl ttl where
  instanceUntil := min_le_left _ _
  entryUntil _ := min_le_left _ _

theorem trans (h : Keeps bound ttl ttl') (h' : Keeps bound ttl' ttl'') : Keeps bound ttl ttl'' where
  instanceUntil := by
    apply le_trans _ h'.instanceUntil
    exact le_min h.instanceUntil (min_le_right _ _)
  entryUntil key := by
    apply le_trans _ (h'.entryUntil key)
    exact le_min (h.entryUntil key) (min_le_right _ _)

/-- A promise of the instance. -/
theorem le_instance (h : Keeps bound ttl ttl') (hle : until₁ ≤ bound)
    (hpromise : until₁ ≤ ttl.instanceUntil) : until₁ ≤ ttl'.instanceUntil :=
  le_trans (le_min hpromise hle) h.instanceUntil

/-- A promise of an entry. -/
theorem le_entry (h : Keeps bound ttl ttl') (hle : until₁ ≤ bound)
    (hpromise : until₁ ≤ ttl.entryUntil key) : until₁ ≤ ttl'.entryUntil key :=
  le_trans (le_min hpromise hle) (h.entryUntil key)

end Keeps

/-! ## Extending -/

section Extend

variable {env : Env} {threshold extendTo : ℕ}

/-- Extending an entry does not shorten its life. -/
theorem le_extended (h : threshold ≤ extendTo) (liveUntil : ℕ) :
    liveUntil ≤ extended env threshold extendTo liveUntil := by
  unfold extended
  split <;> omega

/-- Extending an entry leaves it the threshold. -/
theorem threshold_le_extended (hpos : 0 < threshold) (h : threshold ≤ extendTo) (liveUntil : ℕ) :
    env.clock.sequence + threshold ≤ extended env threshold extendTo liveUntil := by
  unfold extended
  split <;> omega

theorem keeps_extendInstance (h : threshold ≤ extendTo) (ttl : Lifetimes K) :
    Keeps bound ttl (ttl.extendInstance env threshold extendTo) where
  instanceUntil := le_trans (min_le_left _ _) (le_extended h _)
  entryUntil _ := min_le_left _ _

/-- An extended instance is live for the threshold. -/
theorem instance_extended (hpos : 0 < threshold) (h : threshold ≤ extendTo) (ttl : Lifetimes K) :
    env.clock.sequence + threshold ≤
      (ttl.extendInstance env threshold extendTo).instanceUntil := threshold_le_extended hpos h _

variable [DecidableEq K]

theorem entryUntil_extendEntry_self (key : K) (ttl : Lifetimes K) :
    (ttl.extendEntry env threshold extendTo key).entryUntil key =
      extended env threshold extendTo (ttl.entryUntil key) := Function.update_self _ _ _

theorem entryUntil_extendEntry_of_ne {key key' : K} (hne : key' ≠ key) (ttl : Lifetimes K) :
    (ttl.extendEntry env threshold extendTo key).entryUntil key' = ttl.entryUntil key' :=
  Function.update_of_ne hne _ _

theorem keeps_extendEntry (h : threshold ≤ extendTo) (key : K) (ttl : Lifetimes K) :
    Keeps bound ttl (ttl.extendEntry env threshold extendTo key) where
  instanceUntil := min_le_left _ _
  entryUntil key' := by
    by_cases heq : key' = key
    · subst heq
      rw [entryUntil_extendEntry_self]
      exact le_trans (min_le_left _ _) (le_extended h _)
    · rw [entryUntil_extendEntry_of_ne heq]
      exact min_le_left _ _

/-- An extended entry is live for the threshold. -/
theorem entry_extended (hpos : 0 < threshold) (h : threshold ≤ extendTo) (key : K)
    (ttl : Lifetimes K) : env.clock.sequence + threshold ≤
      (ttl.extendEntry env threshold extendTo key).entryUntil key := by
  rw [entryUntil_extendEntry_self]
  exact threshold_le_extended hpos h _

/-- A new entry may start with less than it was promised under its key before; once it is promised
again, nothing is lost. -/
theorem Keeps.of_onSet {present : Bool} (h : Keeps bound (ttl.onSet env present key) ttl')
    (hkey : bound ≤ ttl'.entryUntil key) : Keeps bound ttl ttl' where
  instanceUntil := by
    have hinstance : (ttl.onSet env present key).instanceUntil = ttl.instanceUntil := by
      unfold onSet
      split <;> rfl
    rw [← hinstance]
    exact h.instanceUntil
  entryUntil key' := by
    by_cases heq : key' = key
    · rw [heq]
      exact le_trans (min_le_right _ _) hkey
    · have hentry : (ttl.onSet env present key).entryUntil key' = ttl.entryUntil key' := by
        unfold onSet
        split
        · rfl
        · exact Function.update_of_ne heq _ _
      rw [← hentry]
      exact h.entryUntil key'

/-- Writing an entry and extending it. -/
theorem keeps_set (hpos : 0 < threshold) (h : threshold ≤ extendTo) (present : Bool) (key : K)
    (ttl : Lifetimes K) : Keeps (env.clock.sequence + threshold) ttl
      ((ttl.onSet env present key).extendEntry env threshold extendTo key) :=
  (keeps_extendEntry h key _).of_onSet (entry_extended hpos h key _)

end Extend

end Soroban.Lifetimes
