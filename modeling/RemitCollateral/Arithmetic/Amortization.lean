import RemitCollateral.Arithmetic.Proportion

/-! # Amortization

A principal due in equal steps at equal intervals. The exact share of a step need not be whole, so
what is due is the least amount that covers the steps that have fallen due, and the arrears are what
is missing of it. -/

/-- A principal due in `count` equal steps, the first one `interval` after `start`. -/
structure Amortization where
  principal : ℤ
  count : ℕ
  start : ℕ
  interval : ℕ
  principal_pos : 0 < principal
  count_pos : 0 < count

namespace Amortization

variable (a : Amortization)

/-- When the `k`-th step is due. -/
def dueDate (k : ℕ) : ℕ := a.start + k * a.interval

/-- The steps that `paid` covers. -/
def covered (paid : ℤ) : ℕ := (Proportion.covered paid a.count a.principal).toNat

/-- The least amount that covers `k` steps. -/
def share (k : ℕ) : ℤ := -(-(k * a.principal) / a.count)

/-- The steps that have fallen due at time `now`. -/
def fallenDue (now : ℕ) : ℕ := ((Finset.Icc 1 a.count).filter fun k => a.dueDate k < now).card

/-- What has fallen due at time `now`. -/
def owed (now : ℕ) : ℤ := a.share (a.fallenDue now)

/-- What has fallen due and is not paid. -/
def arrears (now : ℕ) (paid : ℤ) : ℤ := max 0 (a.owed now - paid)

variable {a} {k now now' : ℕ} {paid amount : ℤ}

theorem dueDate_mono {j k : ℕ} (h : j ≤ k) : a.dueDate j ≤ a.dueDate k :=
  Nat.add_le_add_left (Nat.mul_le_mul_right _ h) _

/-! ## Shares -/

/-- An amount covers `k` steps when it reaches their share of the principal. -/
theorem share_le_iff : a.share k ≤ paid ↔ k * a.principal ≤ paid * a.count := by
  have hcount : (0 : ℤ) < a.count := Int.natCast_pos.mpr a.count_pos
  rw [share, neg_le, Int.le_ediv_iff_mul_le hcount, neg_mul, neg_le_neg_iff]

theorem share_le_iff_le_covered (h0 : 0 ≤ paid) : a.share k ≤ paid ↔ k ≤ a.covered paid := by
  have hcovered : (0 : ℤ) ≤ Proportion.covered paid a.count a.principal :=
    Proportion.covered_nonneg h0 (Int.natCast_nonneg _) a.principal_pos
  rw [share_le_iff, ← Proportion.le_covered_iff a.principal_pos, covered,
    ← Nat.cast_le (α := ℤ), Int.toNat_of_nonneg hcovered]

/-- Covering more steps takes no less. -/
theorem share_mono {j k : ℕ} (h : j ≤ k) : a.share j ≤ a.share k := by
  have hk : (k : ℤ) * a.principal ≤ a.share k * a.count := share_le_iff.mp (le_refl _)
  have hjk : (j : ℤ) * a.principal ≤ k * a.principal :=
    mul_le_mul_of_nonneg_right (Int.ofNat_le.mpr h) (le_of_lt a.principal_pos)
  exact share_le_iff.mpr (hjk.trans hk)

/-- Covering all of them takes the principal. -/
theorem share_count : a.share a.count = a.principal := by
  have hcount : (0 : ℤ) < a.count := Int.natCast_pos.mpr a.count_pos
  rw [share, ← mul_neg, Int.mul_ediv_cancel_left _ (ne_of_gt hcount), neg_neg]

/-! ## What has fallen due -/

/-- A step has fallen due past its due date. -/
theorem lt_fallenDue_iff : k < a.fallenDue now ↔ k < a.count ∧ a.dueDate (k + 1) < now := by
  rw [fallenDue]
  constructor
  · intro hlt
    by_contra hnot
    -- only the first `k` can have fallen due
    have hsub : (Finset.Icc 1 a.count).filter (fun j => a.dueDate j < now) ⊆ Finset.Icc 1 k := by
      intro j hj
      obtain ⟨hmem, hlate⟩ := Finset.mem_filter.mp hj
      obtain ⟨h1, hcount⟩ := Finset.mem_Icc.mp hmem
      rw [Finset.mem_Icc]
      refine ⟨h1, ?_⟩
      by_contra hjk
      have hkj : k + 1 ≤ j := by omega
      exact hnot ⟨by omega, lt_of_le_of_lt (dueDate_mono hkj) hlate⟩
    have hcard := Finset.card_le_card hsub
    rw [Nat.card_Icc] at hcard
    omega
  · rintro ⟨hcount, hlate⟩
    have hsub : Finset.Icc 1 (k + 1) ⊆
        (Finset.Icc 1 a.count).filter fun j => a.dueDate j < now := by
      intro j hj
      obtain ⟨h1, hjk⟩ := Finset.mem_Icc.mp hj
      rw [Finset.mem_filter, Finset.mem_Icc]
      exact ⟨⟨h1, by omega⟩, lt_of_le_of_lt (dueDate_mono hjk) hlate⟩
    have hcard := Finset.card_le_card hsub
    rw [Nat.card_Icc] at hcard
    omega

theorem fallenDue_le_count : a.fallenDue now ≤ a.count := by
  by_contra hlt
  exact absurd (lt_fallenDue_iff.mp (not_le.mp hlt)).1 (lt_irrefl _)

/-- No more than the principal falls due. -/
theorem owed_le_principal : a.owed now ≤ a.principal := by
  rw [← share_count]
  exact share_mono fallenDue_le_count

/-- Short of the principal, a payment is behind when the first step it does not cover is past. -/
theorem lt_owed_iff (h0 : 0 ≤ paid) (hlt : paid < a.principal) :
    paid < a.owed now ↔ a.dueDate (a.covered paid + 1) < now := by
  have hcovered : a.covered paid < a.count := by
    rw [← not_le, ← share_le_iff_le_covered h0, share_count]
    exact not_le.mpr hlt
  rw [← not_le, owed, share_le_iff_le_covered h0, not_le, lt_fallenDue_iff]
  exact and_iff_right hcovered

/-! ## Arrears -/

theorem arrears_nonneg : 0 ≤ a.arrears now paid := le_max_left _ _

theorem arrears_pos_iff : 0 < a.arrears now paid ↔ paid < a.owed now := by
  rw [arrears, lt_max_iff, sub_pos]
  exact or_iff_right (lt_irrefl 0)

/-- Arrears are never more than what is left to pay. -/
theorem arrears_le (hle : paid ≤ a.principal) : a.arrears now paid ≤ a.principal - paid := by
  have howed : a.owed now ≤ a.principal := owed_le_principal
  rw [arrears, max_le_iff]
  exact ⟨by omega, by omega⟩

/-- A payment clears the arrears when it reaches them. -/
theorem owed_le_pay_iff (hpos : 0 < amount) :
    a.owed now ≤ paid + amount ↔ a.arrears now paid ≤ amount := by
  rw [arrears, max_le_iff]
  constructor
  · intro hle
    exact ⟨le_of_lt hpos, by omega⟩
  · rintro ⟨-, hle⟩
    omega

/-- And else is taken off them. -/
theorem arrears_pay (h0 : 0 ≤ amount) :
    a.arrears now (paid + amount) = max 0 (a.arrears now paid - amount) := by
  rw [arrears, arrears]
  omega

end Amortization
