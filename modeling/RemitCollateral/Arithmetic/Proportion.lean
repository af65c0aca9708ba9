import Mathlib

/-! # Shares rounded down

Two integer schedules that recur wherever money is paid back in parts. `earned` is the part of a
`whole` set free once `part` of a `total` is paid, of which only `kept` units in `unit` are let go
before the end; `covered` is the number of equal steps of a plan that the part paid accounts for.
Both round down once, at the end. The lemmas bound the rounding: what stays behind is never less
than the unpaid share of the whole, and a plan published in rounded-down steps is short of the total
exactly when the steps do not divide it. -/

namespace Proportion

/-- The part of `whole` set free once `part` of `total` is paid and `kept` of `unit` is let go. -/
def earned (whole part total kept unit : ℤ) : ℤ := whole * part * kept / (total * unit)

/-- The steps of a plan of `count` equal steps covered once `part` of `total` is paid. -/
def covered (part count total : ℤ) : ℤ := part * count / total

section Earned

variable {whole part part' total kept unit : ℤ}

@[simp] theorem earned_zero : earned whole 0 total kept unit = 0 := by simp [earned]

theorem earned_nonneg (hw : 0 ≤ whole) (hp : 0 ≤ part) (ht : 0 < total) (hk : 0 ≤ kept)
    (hu : 0 < unit) : 0 ≤ earned whole part total kept unit :=
  Int.ediv_nonneg (mul_nonneg (mul_nonneg hw hp) hk) (mul_pos ht hu).le

/-- Paying more never sets less free. -/
theorem earned_mono (hw : 0 ≤ whole) (hk : 0 ≤ kept) (ht : 0 < total) (hu : 0 < unit)
    (hp : part ≤ part') : earned whole part total kept unit ≤ earned whole part' total kept unit :=
  Int.ediv_le_ediv (mul_pos ht hu)
    (mul_le_mul_of_nonneg_right (mul_le_mul_of_nonneg_left hp hw) hk)

/-- The part set free, scaled up again, is at most the exact share. -/
theorem earned_mul_le (ht : 0 < total) (hu : 0 < unit) :
    earned whole part total kept unit * (total * unit) ≤ whole * part * kept :=
  Int.ediv_mul_le _ (mul_pos ht hu).ne'

/-- What stays behind covers the unpaid share of the whole. -/
theorem unpaid_le_remaining (hw : 0 ≤ whole) (hp : 0 ≤ part) (ht : 0 < total) (hu : 0 < unit)
    (hk : kept ≤ unit) :
    whole * (total - part) ≤ (whole - earned whole part total kept unit) * total := by
  have hfloor : earned whole part total kept unit * (total * unit) ≤ whole * part * kept :=
    earned_mul_le ht hu
  have hkept : whole * part * kept ≤ whole * part * unit :=
    mul_le_mul_of_nonneg_left hk (mul_nonneg hw hp)
  have hscaled : earned whole part total kept unit * total * unit ≤ whole * part * unit := by
    calc earned whole part total kept unit * total * unit
        = earned whole part total kept unit * (total * unit) := by ring
      _ ≤ whole * part * unit := hfloor.trans hkept
  have hcancel : earned whole part total kept unit * total ≤ whole * part :=
    le_of_mul_le_mul_right hscaled hu
  linarith [mul_sub whole total part, sub_mul whole (earned whole part total kept unit) total]

/-- Until everything is paid, more than the withheld units stay behind. -/
theorem withheld_lt_remaining (hw : 0 < whole) (hpt : part < total) (ht : 0 < total)
    (hu : 0 < unit) (hk : 0 < kept) :
    whole * (unit - kept) < (whole - earned whole part total kept unit) * unit := by
  have hfloor : earned whole part total kept unit * (total * unit) ≤ whole * part * kept :=
    earned_mul_le ht hu
  have hstrict : whole * part * kept < whole * total * kept :=
    mul_lt_mul_of_pos_right (mul_lt_mul_of_pos_left hpt hw) hk
  have hscaled : earned whole part total kept unit * unit * total < whole * kept * total := by
    calc earned whole part total kept unit * unit * total
        = earned whole part total kept unit * (total * unit) := by ring
      _ < whole * total * kept := hfloor.trans_lt hstrict
      _ = whole * kept * total := by ring
  have hcancel : earned whole part total kept unit * unit < whole * kept :=
    lt_of_mul_lt_mul_right hscaled ht.le
  linarith [mul_sub whole unit kept, sub_mul whole (earned whole part total kept unit) unit]

/-- Until everything is paid, something stays behind. -/
theorem earned_lt_whole (hw : 0 < whole) (hpt : part < total) (ht : 0 < total) (hu : 0 < unit)
    (hk : 0 < kept) (hku : kept ≤ unit) : earned whole part total kept unit < whole := by
  have hrest := withheld_lt_remaining hw hpt ht hu hk
  have hwithheld : 0 ≤ whole * (unit - kept) := mul_nonneg hw.le (by linarith)
  have hpos : 0 < whole - earned whole part total kept unit :=
    pos_of_mul_pos_left (hwithheld.trans_lt hrest) hu.le
  linarith

end Earned

section Covered

variable {part part' count total : ℤ}

@[simp] theorem covered_zero : covered 0 count total = 0 := by simp [covered]

theorem covered_nonneg (hp : 0 ≤ part) (hc : 0 ≤ count) (ht : 0 < total) :
    0 ≤ covered part count total :=
  Int.ediv_nonneg (mul_nonneg hp hc) ht.le

/-- Paying more never covers fewer steps. -/
theorem covered_mono (hc : 0 ≤ count) (ht : 0 < total) (hp : part ≤ part') :
    covered part count total ≤ covered part' count total :=
  Int.ediv_le_ediv ht (mul_le_mul_of_nonneg_right hp hc)

/-- Until everything is paid, not every step is covered. -/
theorem covered_lt_count (hc : 0 < count) (ht : 0 < total) (hpt : part < total) :
    covered part count total < count := by
  refine Int.ediv_lt_of_lt_mul ht ?_
  calc part * count < total * count := mul_lt_mul_of_pos_right hpt hc
    _ = count * total := mul_comm _ _

/-- Paying everything covers every step. -/
theorem covered_total (ht : 0 < total) : covered total count total = count :=
  Int.mul_ediv_cancel_left count ht.ne'

/-- `k` steps are covered exactly when the part paid, scaled by the count, reaches `k` totals. -/
theorem le_covered_iff (ht : 0 < total) {k : ℤ} :
    k ≤ covered part count total ↔ k * total ≤ part * count :=
  Int.le_ediv_iff_mul_le ht

/-- Paying `k` published steps of `total / count` covers `k` steps exactly when the steps divide the
total. -/
theorem le_covered_equal_steps_iff (hc : 0 < count) (ht : 0 < total) {k : ℤ} (hk : 0 < k) :
    k ≤ covered (k * (total / count)) count total ↔ count ∣ total := by
  rw [le_covered_iff ht, mul_assoc, mul_le_mul_iff_right₀ hk]
  constructor
  · intro h
    have hle := Int.ediv_mul_le total hc.ne'
    exact Dvd.intro_left _ (le_antisymm hle h)
  · intro h
    rw [Int.ediv_mul_cancel h]

end Covered

end Proportion
